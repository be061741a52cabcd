import StubPlan.Calendar
import StubPlan.Numeral
import StubPlan.Parser
import StubPlan.Url.Percent
import StubPlan.Url.Host

/-! Scalars of a TOML text: strings, numbers, dates and times. A reading gives what it read and the
text after it. -/
namespace StubPlan.Toml
open Calendar

def isSpace (c : Char) : Bool := c = ' ' || c = '\t'

/-- The text after the spaces and tabs at its front. -/
def skipSpace (s : List Char) : List Char := s.dropWhile isSpace

/-- Whether a character may not stand in a comment or a string: a control other than a tab. -/
def isControl (c : Char) : Bool := (c.toNat < 32 && c ≠ '\t') || c.toNat = 127

def isDigit (c : Char) : Bool := '0' ≤ c && c ≤ '9'

/-- The character that an escape of `length` hexadecimal digits stands for. -/
def hexEscape (length : Nat) (s : List Char) : Except ParserFault (Char × List Char) :=
  let digits := s.take length
  match if digits.length = length then digits.mapM Url.hexValue? else none with
  | none => .error .malformed
  | some ds =>
    let code := ds.foldl (fun n d => 16 * n + d) 0
    if code < 0xD800 ∨ (0xE000 ≤ code ∧ code ≤ 0x10FFFF) then
      .ok (Char.ofNat code, s.drop length)
    else .error .malformed

/-- The character that an escape stands for, after its backslash. -/
def escape : List Char → Except ParserFault (Char × List Char)
  | 'b' :: s => .ok ('\x08', s)
  | 't' :: s => .ok ('\t', s)
  | 'n' :: s => .ok ('\n', s)
  | 'f' :: s => .ok ('\x0c', s)
  | 'r' :: s => .ok ('\r', s)
  | '"' :: s => .ok ('"', s)
  | '\\' :: s => .ok ('\\', s)
  | 'u' :: s => hexEscape 4 s
  | 'U' :: s => hexEscape 8 s
  | _ => .error .malformed

/-- The text after a backslash that ends a line, its break, and all blanks after that; nothing when
the backslash does not end a line. -/
def lineEnding? (s : List Char) : Option (Except ParserFault (List Char)) :=
  match s with
  | c :: _ =>
    if isSpace c || c = '\n' then
      match skipSpace s with
      | [] => some (.ok [])
      | '\n' :: rest => some (.ok (rest.dropWhile fun c => isSpace c || c = '\n'))
      | _ => some (.error .malformed)
    else none
  | [] => none

/-- What is left of a string in double quotes; it may have several lines if `lines` says so. -/
def basicString (lines : Bool) (s : List Char) : Nat → Except ParserFault (List Char × List Char)
  | 0 => .error .malformed
  | fuel + 1 =>
    let more (front : List Char) (s : List Char) : Except ParserFault (List Char × List Char) := do
      let (text, rest) ← basicString lines s fuel
      return (front ++ text, rest)
    match s with
    | [] => .error .malformed
    | '"' :: rest =>
      if !lines then .ok ([], rest)
      else match rest with
        | '"' :: '"' :: rest => .ok ([], rest)
        | _ => more ['"'] rest
    | '\\' :: rest =>
      match if lines then lineEnding? rest else none with
      | some ending => do more [] (← ending)
      | none => do
        let (c, rest) ← escape rest
        more [c] rest
    | c :: rest =>
      if isControl c && !(lines && c = '\n') then .error .malformed else more [c] rest

def literalString : List Char → Except ParserFault (List Char × List Char)
  | [] => .error .malformed
  | '\'' :: rest => .ok ([], rest)
  | c :: rest =>
    if isControl c then .error .malformed
    else (literalString rest).map fun (text, after) => (c :: text, after)

/-- What is left of a string of several lines in single quotes. -/
def literalLines : List Char → Except ParserFault (List Char × List Char)
  | [] => .error .malformed
  | '\'' :: '\'' :: '\'' :: rest => .ok ([], rest)
  | c :: rest =>
    if isControl c && c ≠ '\n' then .error .malformed
    else (literalLines rest).map fun (text, after) => (c :: text, after)

/-- Up to two more quotes belong to a string of several lines. -/
def extraQuotes (quote : Char) : List Char × List Char → List Char × List Char
  | (text, a :: b :: rest) =>
    if a = quote ∧ b = quote then (text ++ [a, b], rest)
    else if a = quote then (text ++ [a], b :: rest)
    else (text, a :: b :: rest)
  | (text, [a]) => if a = quote then (text ++ [a], []) else (text, [a])
  | done => done

/-- A line break right after the opening quotes does not count. -/
def dropFirstBreak : List Char → List Char
  | '\n' :: s => s
  | s => s

def string? : List Char → Option (Except ParserFault (List Char × List Char))
  | '"' :: '"' :: '"' :: s =>
    let s := dropFirstBreak s
    some ((basicString true s (s.length + 1)).map (extraQuotes '"'))
  | '"' :: s => some (basicString false s (s.length + 1))
  | '\'' :: '\'' :: '\'' :: s => some ((literalLines (dropFirstBreak s)).map (extraQuotes '\''))
  | '\'' :: s => some (literalString s)
  | _ => none

/-- The digits here, where one underscore may stand between two of them, and the text after. -/
def digitGroup (p : Char → Bool) : List Char → List Char × List Char
  | [] => ([], [])
  | ['_'] => ([], ['_'])
  | '_' :: c :: rest =>
    if p c then
      let (ds, after) := digitGroup p rest
      (c :: ds, after)
    else ([], '_' :: c :: rest)
  | c :: rest =>
    if p c then
      let (ds, after) := digitGroup p rest
      (c :: ds, after)
    else ([], c :: rest)

def digits (p : Char → Bool) (s : List Char) : List Char × List Char :=
  if s.head?.any p then digitGroup p s else ([], s)

/-- The number in another base after its mark, if there is one. -/
def basedNumber? (base : Nat) (p : Char → Bool) (s : List Char) : Option (Int × List Char) :=
  match digits p s with
  | ([], _) => none
  | (ds, rest) =>
    some (((ds.filterMap Url.hexValue?).foldl (fun n d => base * n + d) 0 : Nat), rest)

/-- The fraction and the exponent here, either of which may be missing, and the text after them. -/
def floatPart (s : List Char) : Option (List Char) × Option Int × List Char :=
  let (fraction, s) := match s with
    | '.' :: rest => match digits isDigit rest with
      | ([], _) => (none, s)
      | (ds, rest) => (some ds, rest)
    | _ => (none, s)
  let exponent? (rest : List Char) : Option (Int × List Char) :=
    let (negative, body) := match rest with
      | '-' :: rest => (true, rest)
      | '+' :: rest => (false, rest)
      | rest => (false, rest)
    match digits isDigit body with
    | ([], _) => none
    | (ds, rest) =>
      let n : Int := Url.digitsValue ds
      some (if negative then -n else n, rest)
  match s with
  | e :: rest =>
    if e = 'e' || e = 'E' then match exponent? rest with
      | some (n, rest) => (fraction, some n, rest)
      | none => (fraction, none, s)
    else (fraction, none, s)
  | [] => (fraction, none, [])

/-- The decimal number here, if there is one: a float when it has a fraction or an exponent. -/
def decimalNumber? (s : List Char) : Option (Except ParserFault (Value × List Char)) :=
  let (negative, body) := match s with
    | '-' :: rest => (true, rest)
    | '+' :: rest => (false, rest)
    | rest => (false, rest)
  let (whole, rest) := match body with
    | '0' :: rest => (['0'], rest)
    | rest => digits isDigit rest
  if whole = [] then none
  else match floatPart rest with
    | (none, none, rest) =>
      if whole.length > maxNumeralDigits then some (.error (.raised .unreadable))
      else
        let n : Int := Url.digitsValue whole
        some (.ok (.int (if negative then -n else n), rest))
    | (fraction, exponent, rest) =>
      let places := fraction.getD []
      some (.ok (.float (Binary64.ofDecimal negative (Url.digitsValue (whole ++ places))
        (exponent.getD 0 - (places.length : Int))), rest))

def number? (s : List Char) : Option (Except ParserFault (Value × List Char)) :=
  let based := match s with
    | '0' :: 'x' :: rest => basedNumber? 16 (fun c => (Url.hexValue? c).isSome) rest
    | '0' :: 'b' :: rest => basedNumber? 2 (fun c => c = '0' || c = '1') rest
    | '0' :: 'o' :: rest => basedNumber? 8 (fun c => '0' ≤ c && c ≤ '7') rest
    | _ => none
  match based with
  | some (n, rest) => some (.ok (.int n, rest))
  | none => decimalNumber? s

/-- The infinity or the missing number here, if there is one. -/
def specialFloat? (s : List Char) : Option (Value × List Char) :=
  let (negative, body) := match s with
    | '-' :: rest => (true, rest)
    | '+' :: rest => (false, rest)
    | rest => (false, rest)
  match body with
  | 'i' :: 'n' :: 'f' :: rest => some (.float (.infinite negative), rest)
  | 'n' :: 'a' :: 'n' :: rest => some (.float .nan, rest)
  | _ => none

/-- The number of exactly `width` digits here, if it is at least `least` and at most `most`. -/
def fieldOf? (width least most : Nat) (s : List Char) : Option (Nat × List Char) :=
  let ds := s.take width
  let n := Url.digitsValue ds
  if ds.length = width ∧ ds.all isDigit ∧ least ≤ n ∧ n ≤ most then some (n, s.drop width) else none

def after? (c : Char) : List Char → Option (List Char)
  | [] => none
  | d :: rest => if c = d then some rest else none

def time? (s : List Char) : Option ((Nat × Nat × Nat × Nat) × List Char) := do
  let (hour, s) ← fieldOf? 2 0 23 s
  let (minute, s) ← fieldOf? 2 0 59 (← after? ':' s)
  let (second, s) ← fieldOf? 2 0 59 (← after? ':' s)
  let (fraction, s) := match s with
    | '.' :: rest =>
      let ds := rest.takeWhile isDigit
      if ds = [] then ([], s) else (ds, rest.drop ds.length)
    | _ => ([], s)
  some ((hour, minute, second, micros fraction), s)

def offset (s : List Char) : Offset × List Char :=
  let signedOffset? (rest : List Char) : Option (Nat × List Char) := do
    let (hours, rest) ← fieldOf? 2 0 23 rest
    let (minutes, rest) ← fieldOf? 2 0 59 (← after? ':' rest)
    some (hours * 3600 + minutes * 60, rest)
  match s with
  | 'Z' :: rest | 'z' :: rest => (some 0, rest)
  | '+' :: rest => match signedOffset? rest with
    | some (n, rest) => (some n, rest)
    | none => (none, s)
  | '-' :: rest => match signedOffset? rest with
    | some (n, rest) => (some (-(n : Int)), rest)
    | none => (none, s)
  | _ => (none, s)

/-- The date here, if there is one, with the time of day that may follow it. -/
def date? (s : List Char) : Option (Except ParserFault (Value × List Char)) := do
  let (year, s) ← fieldOf? 4 0 9999 s
  let (month, s) ← fieldOf? 2 1 12 (← after? '-' s)
  let (day, s) ← fieldOf? 2 1 31 (← after? '-' s)
  let follows := match s with
    | c :: rest => if c = 'T' || c = 't' || c = ' ' then time? rest else none
    | [] => none
  if !isDate year month day then some (.error .malformed)
  else match follows with
    | none => some (.ok (.moment (.date year month day), s))
    | some ((hour, minute, second, micro), s) =>
      let (zone, s) := offset s
      some (.ok (.moment (.dateTime (dateCode year month day ++ ", " ++
        timeCode hour minute second micro ++ offsetCode zone)), s))

/-- The time of day here by itself, if there is one. -/
def localTime? (s : List Char) : Option (Value × List Char) :=
  (time? s).map fun ((hour, minute, second, micro), s) =>
    (.moment (.time (timeCode hour minute second micro)), s)

end StubPlan.Toml
