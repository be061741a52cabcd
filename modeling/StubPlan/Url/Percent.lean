import StubPlan.Text.Utf8

/-! Percent escapes. Each run of ASCII text is read as UTF-8 after its escapes have become bytes; a
malformed escape stays as it is written. -/
namespace StubPlan.Url
open Utf8

def hexValue? (c : Char) : Option Nat :=
  if '0' ≤ c ∧ c ≤ '9' then some (c.toNat - 48)
  else if 'a' ≤ c ∧ c ≤ 'f' then some (c.toNat - 87)
  else if 'A' ≤ c ∧ c ≤ 'F' then some (c.toNat - 55)
  else none

/-- A unit of escaped text: a byte, escaped or plain ASCII, or a character beyond ASCII. -/
inductive Unit where
  | byte (b : Nat)
  | char (c : Char)
  deriving DecidableEq, Repr

def plainUnit (c : Char) : Unit := if c.toNat < 128 then .byte c.toNat else .char c

def units : List Char → List Unit
  | [] => []
  | '%' :: a :: b :: rest =>
    match hexValue? a, hexValue? b with
    | some x, some y => .byte (16 * x + y) :: units rest
    | _, _ => .byte 37 :: units (a :: b :: rest)
  | c :: rest => plainUnit c :: units rest

/-- The characters of the units, with `none` for bytes that encode nothing. -/
def scanUnits (pending : Option Pending) : List Unit → List (Option Char)
  | [] => if pending.isSome then [none] else []
  | .byte b :: rest =>
    let (output, next) := step pending b
    output ++ scanUnits next rest
  | .char c :: rest => (if pending.isSome then [none, some c] else [some c]) ++ scanUnits none rest

def percentDecode (s : List Char) : List Char :=
  (scanUnits none (units s)).map (·.getD (Char.ofNat 0xFFFD))

end StubPlan.Url
