import StubPlan.Text.Replace

/-! Kinds of YAML nodes. A plain scalar is of the kind whose form it has, and a text if it has none of
them. -/
namespace StubPlan.Yaml

inductive Kind where
  | null
  | flag
  | int
  | float
  | moment
  | merge
  | defaultValue
  | text
  | bytes
  | sequence
  | tuple
  | pairs
  | mapping
  | set
  | unknown
  deriving DecidableEq, Repr

/-- The kinds that tags may ask for, by name. -/
abbrev TagNames := List (String × Kind)

def TagNames.common : TagNames :=
  [("null", .null), ("bool", .flag), ("int", .int), ("float", .float), ("timestamp", .moment),
   ("str", .text), ("binary", .bytes), ("seq", .sequence), ("omap", .pairs), ("pairs", .pairs),
   ("map", .mapping), ("set", .set), ("merge", .merge), ("value", .defaultValue)]

/-- Further names for the same kinds and for tuples, which only some documents may ask for. -/
def TagNames.extended : TagNames :=
  common ++
  [("python/none", .null), ("python/bool", .flag), ("python/int", .int), ("python/long", .int),
   ("python/float", .float), ("python/str", .text), ("python/unicode", .text),
   ("python/bytes", .bytes), ("python/list", .sequence), ("python/tuple", .tuple),
   ("python/dict", .mapping)]

def TagNames.kind (names : TagNames) (tag : String) : Kind :=
  match Text.dropFront? "tag:yaml.org,2002:" tag with
  | some name => ((names.find? (·.1 = name)).map (·.2)).getD .unknown
  | none => .unknown

def trueWords : List String := ["yes", "Yes", "YES", "true", "True", "TRUE", "on", "On", "ON"]

def falseWords : List String :=
  ["no", "No", "NO", "false", "False", "FALSE", "off", "Off", "OFF"]

def nullWords : List String := ["", "~", "null", "Null", "NULL"]

namespace Form

def isDigit (c : Char) : Bool := '0' ≤ c && c ≤ '9'

def isDigitOrMark (c : Char) : Bool := isDigit c || c = '_'

/-- The text without a sign before it. -/
def unsigned : List Char → List Char
  | '+' :: s => s
  | '-' :: s => s
  | s => s

/-- One or more groups of a colon and a number below sixty, and what comes after them. -/
def sixtieths? (s : List Char) (found : Bool) : Option (List Char) :=
  match s with
  | ':' :: a :: b :: rest =>
    if '0' ≤ a && a ≤ '5' && isDigit b then sixtieths? rest true
    else if isDigit a then sixtieths? (b :: rest) true
    else if found then some s else none
  | [':', a] => if isDigit a then some [] else if found then some s else none
  | s => if found then some s else none

/-- Whether a text is empty or has characters of a class only. -/
def isAll (p : Char → Bool) (s : List Char) : Bool := s.all p

/-- Whether a text writes an integer: binary, octal, decimal, hexadecimal or in base sixty. -/
def isInt (s : List Char) : Bool :=
  match unsigned s with
  | '0' :: 'b' :: c :: rest => isAll (fun c => c = '0' || c = '1' || c = '_') (c :: rest)
  | '0' :: 'x' :: c :: rest =>
    isAll (fun c => isDigitOrMark c || ('a' ≤ c && c ≤ 'f') || ('A' ≤ c && c ≤ 'F')) (c :: rest)
  | ['0'] => true
  | '0' :: rest => isAll (fun c => ('0' ≤ c && c ≤ '7') || c = '_') rest
  | c :: rest =>
    isDigit c && (isAll isDigitOrMark rest ||
      sixtieths? (rest.dropWhile isDigitOrMark) false = some [])
  | [] => false

/-- Whether a text is an exponent, with a sign, or nothing. -/
def isExponent (s : List Char) : Bool :=
  match s with
  | [] => true
  | e :: sign :: c :: rest =>
    (e = 'e' || e = 'E') && (sign = '+' || sign = '-') && (c :: rest).all isDigit
  | _ => false

/-- Whether a text writes a float, which needs a point. -/
def isFloat (s : List Char) : Bool :=
  let body := unsigned s
  match body with
  | '.' :: c :: rest =>
    (isDigit c && body = s && isExponent (rest.dropWhile isDigitOrMark)) ||
      [".inf", ".Inf", ".INF"].contains (String.ofList body) ||
      (body = s && [".nan", ".NaN", ".NAN"].contains (String.ofList body))
  | c :: rest =>
    isDigit c &&
      (match rest.dropWhile isDigitOrMark with
        | '.' :: fraction => isExponent (fraction.dropWhile isDigitOrMark)
        | more => match sixtieths? more false with
          | some ('.' :: fraction) => isAll isDigitOrMark fraction
          | _ => false)
  | [] => false

end Form

end StubPlan.Yaml
