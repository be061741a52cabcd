/-! Replacing and splitting text at every occurrence of a pattern. -/
namespace StubPlan
namespace Chars

/-- Replace from left to right, after leaving out `skip` characters that belong to an occurrence
already replaced. -/
def replaceAfter (old new : List Char) : Nat → List Char → List Char
  | _, [] => []
  | skip + 1, _ :: rest => replaceAfter old new skip rest
  | 0, c :: rest =>
    if old.isPrefixOf (c :: rest) then new ++ replaceAfter old new (old.length - 1) rest
    else c :: replaceAfter old new 0 rest

/-- Every occurrence of the non-empty text `old` replaced by `new`, from left to right, no two
occurrences sharing a character. -/
def replace (old new s : List Char) : List Char := replaceAfter old new 0 s

/-- The pieces between the separators; there is one more piece than there are separators. -/
def splitAt (sep : Char) : List Char → List (List Char)
  | [] => [[]]
  | c :: rest =>
    if c = sep then [] :: splitAt sep rest
    else match splitAt sep rest with
      | [] => [[c]]
      | first :: more => (c :: first) :: more

/-- The text before the first separator and the text after it, if there is one. -/
def cutAt? (sep : Char) : List Char → Option (List Char × List Char)
  | [] => none
  | c :: rest =>
    if c = sep then some ([], rest)
    else (cutAt? sep rest).map fun (before, after) => (c :: before, after)

def cutAtLast? (sep : Char) (s : List Char) : Option (List Char × List Char) :=
  (cutAt? sep s.reverse).map fun (after, before) => (before.reverse, after.reverse)

/-- What is left of a text that starts with `front`. -/
def dropFront? : (front s : List Char) → Option (List Char)
  | [], s => some s
  | _ :: _, [] => none
  | a :: front, c :: s => if a = c then dropFront? front s else none

end Chars

namespace Text

/-- Every occurrence of the non-empty text `old` replaced by `new`, from left to right. -/
def replace (old new s : String) : String :=
  String.ofList (Chars.replace old.toList new.toList s.toList)

/-- What is left of a text that starts with `front`. -/
def dropFront? (front s : String) : Option String :=
  (Chars.dropFront? front.toList s.toList).map String.ofList

def splitAt (sep : Char) (s : String) : List String :=
  (Chars.splitAt sep s.toList).map String.ofList

/-- The texts one after another with `sep` between them. -/
def join (sep : String) (parts : List String) : String :=
  String.ofList (sep.toList.intercalate (parts.map String.toList))

end Text
end StubPlan
