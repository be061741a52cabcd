import StubPlan.HostName.Permitted
import StubPlan.Unicode.Composition
import StubPlan.Unicode.Direction
import StubPlan.Unicode.Script

/-! Which texts may be a label of a host's name: composed, without hyphens and marks in the wrong
places, of permitted characters, and written in one direction. -/
namespace StubPlan.HostName
open Unicode

/-- Why a text is no label: its form, a character that no label has, a character in a place where it
may not stand, or its directions. -/
inductive Fault where
  | form
  | character
  | context
  | direction
  deriving DecidableEq, Repr

def hyphen : Nat := 0x2D

/-- Whether hyphens stand neither at an end nor in the third and fourth place. -/
def hyphensFit (label : List Nat) : Bool :=
  label.head? ≠ some hyphen && label.getLast? ≠ some hyphen &&
    (label.drop 2).take 2 ≠ [hyphen, hyphen]

/-- Whether a character is one that only some neighbours allow to join letters or keep them apart. -/
def isJoiner (n : Nat) : Bool := n = 0x200C || n = 0x200D

/-- Whether a joiner may stand between characters, those before it being given backwards. -/
def joinerFits (joiner : Nat) (before after : List Nat) : Bool :=
  before.head?.any (combiningClass · = viramaClass) ||
    (joiner = 0x200C &&
      (before.find? fun n => !inRanges nonspacingMarks n).any (fun n =>
        inRanges joinNext n || inRanges joinBothSides n) &&
      (after.find? fun n => !inRanges nonspacingMarks n).any (fun n =>
        inRanges joinPrevious n || inRanges joinBothSides n))

def isArabicDigit (n : Nat) : Bool := 0x660 ≤ n && n ≤ 0x669

/-- The digits of Persian and other languages that use the Arabic script. -/
def isExtendedArabicDigit (n : Nat) : Bool := 0x6F0 ≤ n && n ≤ 0x6F9

/-- Whether a character that needs a context may stand in a label between others, those before it
being given backwards; nothing for a character that is not of this sort. -/
def contextFits? (label before after : List Nat) (n : Nat) : Option Bool :=
  if n = 0xB7 then some (before.head? = some 0x6C && after.head? = some 0x6C)
  else if n = 0x375 then some (after.head?.any (inRanges greek))
  else if n = 0x5F3 ∨ n = 0x5F4 then some (before.head?.any (inRanges hebrew))
  else if n = 0x30FB then
    some (label.any fun m => inRanges hiragana m || (m ≠ 0x30FB && inRanges katakana m) ||
      inRanges han m)
  else if isArabicDigit n then some (!label.any isExtendedArabicDigit)
  else if isExtendedArabicDigit n then some (!label.any isArabicDigit)
  else none

def checkCharacters (label before : List Nat) : List Nat → Except Fault Unit
  | [] => .ok ()
  | n :: after =>
    if isPermitted n then checkCharacters label (n :: before) after
    else if isJoiner n then
      if joinerFits n before after then checkCharacters label (n :: before) after
      else .error .form
    else match contextFits? label before after n with
      | some true => checkCharacters label (n :: before) after
      | some false => .error .context
      | none => .error .character

/-- The directions that may stand in a label that begins from right to left. -/
def rightwardAllowed : List Direction :=
  [.rightToLeft, .arabicLetter, .arabicNumber, .europeanNumber, .separator, .neutral, .boundary,
   .mark]

/-- The directions that may stand in a label that begins from left to right. -/
def leftwardAllowed : List Direction :=
  [.leftToRight, .europeanNumber, .separator, .neutral, .boundary, .mark]

/-- Whether the directions in a label are known and go together. Only labels with something written from
right to left are restricted: by their first and last letters, and to one kind of digits. -/
def directionsFit (label : List Nat) : Bool :=
  let all := label.map direction
  let last := all.reverse.find? (· ≠ .mark)
  let endsIn (ds : List Direction) : Bool := last.any ds.contains
  if all.contains .unknown then false
  else if !all.any [Direction.rightToLeft, .arabicLetter, .arabicNumber].contains then true
  else match all.head? with
    | some .rightToLeft | some .arabicLetter =>
      all.all rightwardAllowed.contains &&
        endsIn [.rightToLeft, .arabicLetter, .europeanNumber, .arabicNumber] &&
        !(all.contains .arabicNumber && all.contains .europeanNumber)
    | some .leftToRight =>
      all.all leftwardAllowed.contains && endsIn [.leftToRight, .europeanNumber]
    | _ => false

/-- The most code points of a label that are looked at. -/
def maxLabelCodes : Nat := 254

def checkLabel (label : List Nat) : Except Fault Unit := do
  if label = [] ∨ label.length > maxLabelCodes then throw .form
  if !isComposed label ∨ !hyphensFit label ∨ label.head?.any isMark then throw .form
  checkCharacters label [] label
  if !directionsFit label then throw .direction

end StubPlan.HostName
