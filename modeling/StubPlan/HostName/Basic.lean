import StubPlan.HostName.Label
import StubPlan.HostName.Punycode
import StubPlan.Text.Replace

/-! Names of hosts: labels between dots. In a request all labels are written in ASCII. -/
namespace StubPlan.HostName
open Chars

/-- What a label begins with that stands for characters beyond ASCII. -/
def encodedMark : List Char := ['x', 'n', '-', '-']

/-- The most characters of a label in ASCII. -/
def maxLabelLength : Nat := 63

/-- The most characters of a name without a dot at its end. -/
def maxLength : Nat := 253

/-- Whether a character stands between labels. -/
def isDot (c : Char) : Bool :=
  c = '.' || c.toNat = 0x3002 || c.toNat = 0xFF0E || c.toNat = 0xFF61

/-- The labels of a name, and whether a dot follows the last one. -/
def labels (name : List Char) : List (List Char) × Bool :=
  let parts := splitAt '.' (name.map fun c => if isDot c then '.' else c)
  if parts.getLast? = some [] then (parts.dropLast, true) else (parts, false)

def checkAscii (label : List Char) : Except Fault Unit :=
  let label := label.map Char.toLower
  if encodedMark.isPrefixOf label then
    let digits := label.drop encodedMark.length
    if digits = [] ∨ digits.getLast? = some '-' then .error .form
    else match ofPunycode? digits with
      | some codes => checkLabel codes
      | none => .error .form
  else checkLabel (label.map Char.toNat)

def encodeLabel (label : List Char) : Except Fault (List Char) := do
  let encoded ← if label.all (·.toNat < firstBeyond) then do
      checkAscii label
      pure label
    else do
      checkLabel (label.map Char.toNat)
      pure (encodedMark ++ punycode (label.map Char.toNat))
  if encoded.length > maxLabelLength then throw .form
  return encoded

def encode (name : List Char) : Except Fault (List Char) := do
  if name = [] ∨ name.length > maxLength + 1 then throw .form
  let (parts, dotted) := labels name
  let encoded := ['.'].intercalate (← parts.mapM encodeLabel)
  if encoded.length > maxLength then throw .form
  return encoded ++ if dotted then ['.'] else []

/-- The fault of a name in ASCII and of what its labels stand for. A name that does not begin with a
label that stands for something else is not looked at. -/
def check (name : List Char) : Except Fault Unit :=
  if encodedMark.isPrefixOf name then
    if name.length > maxLength + 1 then .error .form
    else (labels name).1.forM checkAscii
  else .ok ()

end StubPlan.HostName
