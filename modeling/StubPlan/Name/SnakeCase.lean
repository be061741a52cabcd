import StubPlan.Text.Replace
import StubPlan.Unicode.Digit
import StubPlan.Unicode.LetterCase

/-! Snake case: words in lower case, joined by underscores. A run of capitals is one word, less its
last letter when that begins a word of its own. -/
namespace StubPlan.Name
open Chars Unicode

def isCapital (c : Char) : Bool := 'A' ≤ c && c ≤ 'Z'

def isSmall (c : Char) : Bool := 'a' ≤ c && c ≤ 'z'

/-- An underscore before the last capital of a run of two or more that two small letters follow. -/
def splitAcronyms : List Char → List Char
  | a :: b :: c :: d :: rest =>
    if isCapital a && isCapital b && isSmall c && isSmall d then
      a :: '_' :: splitAcronyms (b :: c :: d :: rest)
    else a :: splitAcronyms (b :: c :: d :: rest)
  | short => short

/-- An underscore before a capital that follows a small letter or a decimal digit. -/
def splitWords : List Char → List Char
  | a :: b :: rest =>
    if (isSmall a || isDecimal a) && isCapital b then a :: '_' :: splitWords (b :: rest)
    else a :: splitWords (b :: rest)
  | short => short

def joinSeparated (s : List Char) : List Char :=
  s.map fun c => if c = '-' ∨ c = ' ' then '_' else c

/-- The snake case form of a list of characters; a dollar sign counts as two underscores. -/
def snakeChars (s : List Char) : List Char :=
  lower (joinSeparated (splitWords (splitAcronyms (replace ['$'] ['_', '_'] s))))

/-- The snake case form of a name: `PetStore` gives `pet_store`, `HTTPServer` `http_server`. -/
def snakeCase (word : String) : String := String.ofList (snakeChars word.toList)

/-- A text whose first character is in upper case. -/
def capitalize (s : String) : String :=
  match s.toList with
  | [] => ""
  | c :: rest => String.ofList (upperChar c ++ rest)

end StubPlan.Name
