import StubPlan.Decimal.Binary64
import StubPlan.Text.Blank
import StubPlan.Unicode.Digit

/-! Numbers written in the digits of any script. -/
namespace StubPlan
open Chars Unicode

def maxNumeralDigits : Nat := 4300

namespace Numeral

/-- The values of the digits, where one underscore may stand between two of them. `after` says
whether a digit comes right before. -/
def digits? (after : Bool) : List Char → Option (List Nat)
  | [] => if after then some [] else none
  | c :: rest =>
    match decimalValue? c with
    | some d => (digits? true rest).map (d :: ·)
    | none => if c = '_' ∧ after then digits? false rest else none

/-- The number that decimal digits write, the first one weighing most. -/
def value (digits : List Nat) : Nat := digits.foldl (fun n d => 10 * n + d) 0

def nat? (s : List Char) : Option Nat :=
  (digits? false s).bind fun ds => if ds.length ≤ maxNumeralDigits then some (value ds) else none

/-- A text without its sign, and whether the sign is a minus. -/
def takeSign : List Char → Bool × List Char
  | '-' :: rest => (true, rest)
  | '+' :: rest => (false, rest)
  | rest => (false, rest)

/-- The integer that a numeral writes, blanks around it and a sign before it allowed. -/
def int? (s : List Char) : Option Int :=
  let (negative, rest) := takeSign (trim s)
  (nat? rest).map fun n => if negative then -(n : Int) else n

/-- The value of a digit in some base up to thirty-six: letters go on where decimal digits end. -/
def digitValue? (c : Char) : Option Nat :=
  if 'a' ≤ c ∧ c ≤ 'z' then some (c.toNat - 87)
  else if 'A' ≤ c ∧ c ≤ 'Z' then some (c.toNat - 55)
  else decimalValue? c

def baseLetters (base : Nat) : List Char :=
  match base with
  | 2 => ['b', 'B']
  | 8 => ['o', 'O']
  | 16 => ['x', 'X']
  | _ => []

/-- The integer that a text writes in a base, blanks around it, a sign and a mark of the base before
it allowed. -/
def intInBase? (base : Nat) (s : List Char) : Option Int :=
  let (negative, s) := takeSign (trim s)
  let s := match s with
    | '0' :: c :: rest => if (baseLetters base).contains c then rest else s
    | s => s
  match s.mapM digitValue? with
  | some (d :: ds) =>
    if (d :: ds).all (· < base) then
      let n := (d :: ds).foldl (fun n x => base * n + x) 0
      some (if negative then -(n : Int) else n)
    else none
  | _ => none

/-- The decimal digits at the beginning of a text, and the text after them. -/
def takeDigits (s : List Char) : List Nat × List Char :=
  let ds := s.takeWhile isDecimal
  (ds.filterMap decimalValue?, s.drop ds.length)

/-- The exponent that a text writes; an empty text writes zero. -/
def exponent? (s : List Char) : Option Int :=
  match s with
  | [] => some 0
  | e :: rest =>
    let (negative, rest) := takeSign rest
    match takeDigits rest with
    | (d :: ds, []) =>
      if e = 'e' ∨ e = 'E' then
        some (if negative then -(value (d :: ds) : Int) else value (d :: ds))
      else none
    | _ => none

/-- The float that a text writes, blanks around it and a sign before it allowed: digits with a point
among them or not, and perhaps an exponent, or a word for what is no finite number. -/
def float? (s : List Char) : Option Binary64 :=
  let (negative, s) := takeSign (trim s)
  let word := String.ofList (s.map Char.toLower)
  if word = "inf" ∨ word = "infinity" then some (.infinite negative)
  else if word = "nan" then some .nan
  else
    let (whole, rest) := takeDigits s
    let (fraction, rest) := match rest with
      | '.' :: more => takeDigits more
      | _ => ([], rest)
    if whole = [] ∧ fraction = [] then none
    else (exponent? rest).map fun e =>
      Binary64.ofDecimal negative (value (whole ++ fraction)) (e - (fraction.length : Int))

end Numeral
end StubPlan
