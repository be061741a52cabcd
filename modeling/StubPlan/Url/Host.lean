import StubPlan.Text.Replace
import StubPlan.Url.Percent

/-! Hosts in brackets: an IPv6 address, or an address of a later version. -/
namespace StubPlan.Url
open Chars

def isDigits (s : List Char) : Bool := s ≠ [] && s.all fun c => '0' ≤ c && c ≤ '9'

def digitsValue (s : List Char) : Nat := s.foldl (fun n c => 10 * n + (c.toNat - 48)) 0

/-- Whether a text is a decimal octet without leading zeros. -/
def isOctet (s : List Char) : Bool :=
  isDigits s && s.length ≤ 3 && (s = ['0'] || s.head? ≠ some '0') && digitsValue s ≤ 255

def isIPv4 (s : List Char) : Bool :=
  let octets := splitAt '.' s
  octets.length == 4 && octets.all isOctet

def isGroup (s : List Char) : Bool :=
  s ≠ [] && s.length ≤ 4 && s.all fun c => (hexValue? c).isSome

/-- The parts of an IPv6 address between its colons, where an IPv4 address at the end stands for two
groups. -/
def groups? (s : List Char) : Option (List (List Char)) :=
  let parts := splitAt ':' s
  let last := parts.getLast?.getD []
  if parts.length < 3 then none
  else if last.contains '.' then
    if isIPv4 last then some (parts.dropLast ++ [['0'], ['0']]) else none
  else some parts

/-- Whether the groups on one side of a gap are groups; the side may be empty, in which case it is
written as one empty part. -/
def isSide (side : List (List Char)) : Bool := side == [[]] || side.all isGroup

/-- Whether parts between colons make an IPv6 address: eight groups, or fewer around one gap. -/
def areGroups (parts : List (List Char)) : Bool :=
  let inner := parts.tail.dropLast
  if inner.contains [] then
    let high := parts.head?.toList ++ inner.takeWhile (· ≠ [])
    let low := (inner.dropWhile (· ≠ [])).tail ++ parts.getLast?.toList
    let count (side : List (List Char)) := if side == [[]] then 0 else side.length
    isSide high && isSide low && count high + count low < 8
  else parts.length == 8 && parts.all isGroup

/-- Whether a text is an IPv6 address, with or without a zone after a percent sign. -/
def isIPv6 (s : List Char) : Bool :=
  let zoneOk : Bool := match cutAt? '%' s with
    | some (_, zone) => zone ≠ [] && !zone.contains '%'
    | none => true
  let address := ((cutAt? '%' s).map (·.1)).getD s
  !s.contains '/' && zoneOk &&
    match groups? address with
    | some parts => parts.length ≤ 9 && areGroups parts
    | none => false

/-- Whether a text is an address of a later version: `v`, hexadecimal digits, a dot and more. -/
def isLaterAddress (s : List Char) : Bool :=
  match s with
  | 'v' :: rest => match cutAt? '.' rest with
    | some (version, address) =>
      version ≠ [] && version.all (fun c => (hexValue? c).isSome) && address ≠ [] &&
        !address.contains '\n'
    | none => false
  | _ => false

def isBracketedHost (s : List Char) : Bool :=
  if s.head? = some 'v' then isLaterAddress s else isIPv6 s

end StubPlan.Url
