import StubPlan.Name.SnakeCase
import StubPlan.Text.Blank

/-! Package names: tokens over a to z, 0 to 9 and the underscore, none of which starts with a digit,
joined by dots. -/
namespace StubPlan.Name
open Chars

def defaultPackage : String := "aiohttp_server"

/-- The token that stands for a segment without any usable character. -/
def placeholderToken : List Char := ['p', 'k', 'g']

def isTokenChar (c : Char) : Bool := isSmall c || ('0' ≤ c && c ≤ '9') || c = '_'

/-- The package token made of a segment's characters. -/
def tokenChars (segment : List Char) : List Char :=
  match (snakeChars (joinSeparated segment)).filter isTokenChar with
  | [] => placeholderToken
  | c :: rest => if '0' ≤ c && c ≤ '9' then '_' :: c :: rest else c :: rest

def packageToken (segment : String) : String := String.ofList (tokenChars segment.toList)

/-- The tokens of a dotted name, one for each segment that is not blank. -/
def packageTokens (candidate : List Char) : List (List Char) :=
  ((splitAt '.' candidate).filter (!isBlank ·)).map fun segment => tokenChars (trim segment)

/-- The text that a package is named after: `.` means the fallback, if there is one. -/
def packageCandidate (raw fallback : Option String) : List Char :=
  let given := trim (raw.getD "").toList
  if given = ['.'] ∧ fallback.getD "" ≠ "" then (fallback.getD "").toList else given

def packageName (raw fallback : Option String) : String :=
  match packageTokens (packageCandidate raw fallback) with
  | [] => defaultPackage
  | tokens => String.ofList (['.'].intercalate tokens)

end StubPlan.Name
