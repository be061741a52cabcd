import StubPlan.Numeral
import StubPlan.Text.Replace

/-! Handlers that the markup of a text names for events: a name, and its arguments in parentheses, or a
value by itself. Arguments are literals: numbers, texts, bytes, words for constants, tuples, sets and
mappings of these. -/
namespace StubPlan.Handler
open Chars

/-- Where a literal may stand: as a number of one of two kinds, as a real number after a sign, as
another value that may be a key, and as one that may not. -/
inductive Role where
  | real
  | imaginary
  | signedReal
  | key
  | noKey
  deriving DecidableEq, Repr

abbrev Read := Option (Role × List Char)

/-- The text from the next token on. Inside brackets, lines may end and comments may stand between
tokens. -/
def gap (inside : Bool) : List Char → Nat → List Char
  | s, 0 => s
  | s, fuel + 1 => match s with
    | ' ' :: rest | '\t' :: rest | '\x0c' :: rest | '\\' :: '\n' :: rest => gap inside rest fuel
    | '\n' :: rest => if inside then gap inside rest fuel else s
    | '#' :: rest => gap inside (rest.dropWhile (· ≠ '\n')) fuel
    | s => s

def skipGap (inside : Bool) (s : List Char) : List Char := gap inside s (s.length + 1)

/-- Digits of a class, where one underscore may stand between two of them, and the text after them. -/
def digits (isDigit : Char → Bool) (s : List Char) : List Char × List Char :=
  match s with
  | [] => ([], [])
  | c :: rest =>
    if isDigit c then
      let (more, after) := match rest with
        | '_' :: d :: rest' =>
          if isDigit d then digits isDigit (d :: rest') else ([], rest)
        | rest => digits isDigit rest
      (c :: more, after)
    else ([], s)
  termination_by s.length

def exponent (s : List Char) : Bool × List Char :=
  match s with
  | e :: rest =>
    if e = 'e' || e = 'E' then
      match digits Char.isDigit (Numeral.takeSign rest).2 with
      | ([], _) => (false, s)
      | (_, after) => (true, after)
    else (false, s)
  | [] => (false, s)

def decimal? (whole s : List Char) : Read :=
  let (fraction, pointed, s) := match s with
    | '.' :: rest => let (ds, rest) := digits Char.isDigit rest; (ds, true, rest)
    | s => ([], false, s)
  if whole = [] ∧ fraction = [] then none
  else
    let (raised, s) := exponent s
    match s with
    | 'j' :: rest | 'J' :: rest => some (.imaginary, rest)
    | s =>
      if pointed || raised then some (.real, s)
      else if (whole.head? = some '0' && whole.any (· ≠ '0')) || whole.length > maxNumeralDigits then
        none
      else some (.real, s)

def baseDigit? (letter : Char) : Option (Char → Bool) :=
  match letter.toLower with
  | 'x' => some fun c => c.isDigit || ('a' ≤ c.toLower && c.toLower ≤ 'f')
  | 'o' => some fun c => '0' ≤ c && c ≤ '7'
  | 'b' => some fun c => c = '0' || c = '1'
  | _ => none

def number? (s : List Char) : Read :=
  let plain : Unit → Read := fun _ => let (whole, rest) := digits Char.isDigit s; decimal? whole rest
  match s with
  | '0' :: letter :: rest => match baseDigit? letter with
    | some isDigit => match digits isDigit (if rest.head? = some '_' then rest.tail else rest) with
      | ([], _) => none
      | (_, after) => some (.real, after)
    | none => plain ()
  | _ => plain ()

/-- How a text in quotes is written: as bytes, and without escapes. -/
structure Quoting where
  isBytes : Bool
  isRaw : Bool

def quoting? (letters : List Char) : Option Quoting :=
  match String.ofList (letters.map Char.toLower) with
  | "" | "u" => some ⟨false, false⟩
  | "r" => some ⟨false, true⟩
  | "b" => some ⟨true, false⟩
  | "br" | "rb" => some ⟨true, true⟩
  | _ => none

/-- How many hexadecimal digits an escape has. -/
def escapeLength (q : Quoting) (letter : Char) : Nat :=
  match letter with
  | 'x' => 2
  | 'u' => if q.isBytes then 0 else 4
  | 'U' => if q.isBytes then 0 else 8
  | _ => 0

def isEscape (q : Quoting) (letter : Char) (rest : List Char) : Bool :=
  let n := escapeLength q letter
  let ds := rest.take n
  q.isRaw || (ds.length = n && ds.all (fun c => c.isDigit || ('a' ≤ c.toLower && c.toLower ≤ 'f')) &&
    (n < 8 || ((Numeral.intInBase? 16 ds).any (· ≤ 0x10FFFF))) && (letter ≠ 'N' || q.isBytes))

def quoted? (q : Quoting) (quotes : List Char) : List Char → Option (List Char)
  | [] => none
  | c :: rest =>
    match dropFront? quotes (c :: rest) with
    | some after => some after
    | none =>
      if c = '\n' ∧ quotes.length = 1 then none
      else if q.isBytes ∧ c.toNat > 127 then none
      else if c = '\\' then
        match rest with
        | [] => none
        | e :: rest =>
          if isEscape q e rest ∧ (!q.isBytes ∨ e.toNat ≤ 127) then quoted? q quotes rest else none
      else quoted? q quotes rest

def text? (s : List Char) : Option (Bool × List Char) := do
  let letters := s.takeWhile Char.isAlpha
  let q ← quoting? letters
  match s.drop letters.length with
  | '"' :: '"' :: '"' :: rest => return (q.isBytes, ← quoted? q ['"', '"', '"'] rest)
  | '\'' :: '\'' :: '\'' :: rest => return (q.isBytes, ← quoted? q ['\'', '\'', '\''] rest)
  | '"' :: rest => return (q.isBytes, ← quoted? q ['"'] rest)
  | '\'' :: rest => return (q.isBytes, ← quoted? q ['\''] rest)
  | _ => none

/-- The quoted texts here, one after another, which must be all of one kind. -/
def texts? (inside : Bool) (s : List Char) : Nat → Read
  | 0 => none
  | fuel + 1 => do
    let (isBytes, rest) ← text? s
    let next := skipGap inside rest
    match text? next with
    | some (more, _) => if more = isBytes then texts? inside next fuel else none
    | none => return (.key, rest)

def constants : List String := ["True", "False", "None"]

def maxDepth : Nat := 200

def inName (c : Char) : Bool := Unicode.isAlphanumeric c || c = '_'

/-- What a value with a sign before it is; the sign must stand before a number without one. -/
def Role.signed? : Role → Option Role
  | .real => some .signedReal
  | .imaginary => some .key
  | _ => none

def tupleRole (items : List Role) : Role := if items.contains .noKey then .noKey else .key

mutual
/-- A literal: a value, or a real number with an imaginary one added or taken away. -/
def sum? (inside : Bool) (depth : Nat) (s : List Char) (fuel : Nat) : Read :=
  match fuel with
  | 0 => none
  | fuel + 1 => do
    let (left, rest) ← signed? inside depth s fuel
    match skipGap inside rest with
    | c :: next =>
      if c = '+' || c = '-' then
        let (right, rest) ← atom? inside depth (skipGap inside next) fuel
        if (left = .real || left = .signedReal) && right = .imaginary then some (.key, rest) else none
      else some (left, rest)
    | [] => some (left, rest)
termination_by structural fuel
def signed? (inside : Bool) (depth : Nat) (s : List Char) (fuel : Nat) : Read :=
  match fuel with
  | 0 => none
  | fuel + 1 => match s with
    | c :: rest =>
      if c = '+' || c = '-' then do
        let (role, rest) ← atom? inside depth (skipGap inside rest) fuel
        return (← role.signed?, rest)
      else atom? inside depth s fuel
    | [] => none
termination_by structural fuel
def atom? (inside : Bool) (depth : Nat) (s : List Char) (fuel : Nat) : Read :=
  match fuel with
  | 0 => none
  | fuel + 1 => match s with
    | '(' :: rest =>
      if depth ≥ maxDepth then none
      else do
        let (items, comma, rest) ← items? ')' (depth + 1) (skipGap true rest) fuel
        match items, comma with
        | [role], false => return (role, rest)
        | items, _ => return (tupleRole items, rest)
    | '\x7b' :: rest =>
      if depth ≥ maxDepth then none
      else
        let s := skipGap true rest
        if s.head? = some '\x7d' then some (.noKey, s.tail)
        else do
          let (first, rest) ← sum? true (depth + 1) s fuel
          if first = .noKey then none
          else if (skipGap true rest).head? = some ':' then
            return (.noKey, ← entries? (depth + 1) s fuel)
          else
            let (items, _, rest) ← items? '\x7d' (depth + 1) s fuel
            if items.contains .noKey then none else return (.noKey, rest)
    | '.' :: '.' :: '.' :: rest => some (.key, rest)
    | c :: _ =>
      if c.isDigit || c = '.' then number? s
      else
        let word := s.takeWhile inName
        if constants.contains (String.ofList word) then some (.key, s.drop word.length)
        else if word = "set".toList then
          match skipGap inside (s.drop word.length) with
          | '(' :: rest => match skipGap true rest with
            | ')' :: rest => some (.noKey, rest)
            | _ => none
          | _ => none
        else texts? inside s fuel
    | [] => none
termination_by structural fuel
/-- The items up to a closing bracket, whether there is a comma among them, and the text after them. -/
def items? (close : Char) (depth : Nat) (s : List Char) (fuel : Nat) :
    Option (List Role × Bool × List Char) :=
  match fuel with
  | 0 => none
  | fuel + 1 =>
    if s.head? = some close then some ([], false, s.tail)
    else do
      let (first, rest) ← sum? true depth s fuel
      match skipGap true rest with
      | ',' :: rest =>
        let (more, _, rest) ← items? close depth (skipGap true rest) fuel
        return (first :: more, true, rest)
      | c :: rest => if c = close then some ([first], false, rest) else none
      | [] => none
termination_by structural fuel
/-- The text after the entries of a mapping and its closing brace. -/
def entries? (depth : Nat) (s : List Char) (fuel : Nat) : Option (List Char) :=
  match fuel with
  | 0 => none
  | fuel + 1 =>
    match s with
    | '\x7d' :: rest => some rest
    | s => do
      let (role, rest) ← sum? true depth s fuel
      if role = .noKey then none
      else match skipGap true rest with
        | ':' :: rest => do
          let (_, rest) ← sum? true depth (skipGap true rest) fuel
          match skipGap true rest with
          | ',' :: rest => entries? depth (skipGap true rest) fuel
          | '\x7d' :: rest => some rest
          | _ => none
        | _ => none
termination_by structural fuel
end

/-- Literals with commas between them, and after the last one perhaps, up to the end of the text. -/
def isLiterals (s : List Char) : Nat → Bool
  | 0 => false
  | fuel + 1 => match sum? false 0 s (2 * s.length + 2) with
    | some (_, rest) => match skipGap false rest with
      | [] => true
      | ',' :: rest =>
        let rest := skipGap false rest
        rest = [] || isLiterals rest fuel
      | '\n' :: rest => skipGap true rest = []
      | _ => false
    | none => false

/-- Whether a text is a literal. After lines of comments it must begin its line. -/
def isLiteral (s : List Char) : Bool :=
  let start := skipGap true s
  let before := s.take (s.length - start.length)
  !s.contains '\x00' && (!before.contains '\n' || before.getLast? = some '\n') &&
    isLiterals start (s.length + 1)

/-- Whether a handler can be read: a name with literals in parentheses, or a literal. -/
def isReadable (s : List Char) : Bool :=
  let s := trim s
  let arguments := s.dropWhile fun c => inName c || c = '.'
  if arguments = [] then true
  else if arguments.head? = some '(' && arguments.getLast? = some ')' && !arguments.contains '\n' then
    isLiteral arguments
  else isLiteral s

end StubPlan.Handler
