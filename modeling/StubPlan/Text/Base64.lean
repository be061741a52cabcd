/-! Bytes written in base 64: four digits stand for three bytes, and equals signs fill the last four. -/
namespace StubPlan.Base64

/-- The value of a digit; other characters are none. -/
def digit? (c : Char) : Option Nat :=
  if 'A' ≤ c ∧ c ≤ 'Z' then some (c.toNat - 65)
  else if 'a' ≤ c ∧ c ≤ 'z' then some (c.toNat - 71)
  else if '0' ≤ c ∧ c ≤ '9' then some (c.toNat + 4)
  else if c = '+' then some 62
  else if c = '/' then some 63
  else none

/-- The bytes of up to four digits: one byte fewer than there are digits. -/
def bytesOf : List Nat → List UInt8
  | a :: b :: rest =>
    UInt8.ofNat (4 * a + b / 16) :: match rest with
      | [] => []
      | c :: rest => UInt8.ofNat (16 * (b % 16) + c / 4) :: match rest with
        | [] => []
        | d :: _ => [UInt8.ofNat (64 * (c % 4) + d)]
  | _ => []

/-- The bytes of a text after the digits of an unfinished group and the signs that have filled it so
far. Characters that are no digits do not count; filling ends the text. -/
def decodeFrom (group : List Nat) (filled : Nat) : List Char → Option (List UInt8)
  | [] => if group = [] then some [] else none
  | c :: rest =>
    if c = '=' then
      if group.length < 2 then decodeFrom group filled rest
      else if group.length + filled + 1 ≥ 4 then some (bytesOf group)
      else decodeFrom group (filled + 1) rest
    else match digit? c with
      | none => decodeFrom group filled rest
      | some d =>
        if group.length < 3 then decodeFrom (group ++ [d]) 0 rest
        else (decodeFrom [] 0 rest).map (bytesOf (group ++ [d]) ++ ·)

/-- The bytes that a text writes, unless its last group is incomplete. -/
def decode (s : List Char) : Option (List UInt8) := decodeFrom [] 0 s

end StubPlan.Base64
