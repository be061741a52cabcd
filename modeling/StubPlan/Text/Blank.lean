/-! Blank characters, and text without the blanks at its ends. Functions on lists of characters live
under `Chars`, their versions on strings under `Text`. -/
namespace StubPlan

/-- White space of any script, line separators and the four information separators. -/
def Text.isBlankChar (c : Char) : Bool :=
  let n := c.toNat
  (9 ≤ n && n ≤ 13) || (28 ≤ n && n ≤ 32) || n == 0x85 || n == 0xA0 || n == 0x1680 ||
    (0x2000 ≤ n && n ≤ 0x200A) || n == 0x2028 || n == 0x2029 || n == 0x202F || n == 0x205F ||
    n == 0x3000

namespace Chars
open Text

/-- The text without the characters at its end that satisfy `p`. It may be a text of codes. -/
def dropEndWhile {α : Type} (p : α → Bool) (s : List α) : List α :=
  (s.reverse.dropWhile p).reverse

/-- The text without the characters at either end that satisfy `p`. -/
def dropEndsWhile {α : Type} (p : α → Bool) (s : List α) : List α :=
  dropEndWhile p (s.dropWhile p)

def trim (s : List Char) : List Char := dropEndsWhile isBlankChar s

/-- The codes without blanks at either end; the half of a surrogate pair is no blank. -/
def trimCodes (codes : List Nat) : List Nat := dropEndsWhile (isBlankChar <| .ofNat ·) codes

/-- Whether a text has blanks only; the empty text does. -/
def isBlank (s : List Char) : Bool := s.all isBlankChar

end Chars

namespace Text

/-- The text without blanks at either end. -/
def trim (s : String) : String := String.ofList (Chars.trim s.toList)

/-- Whether a text has blanks only; the empty text does. -/
def isBlank (s : String) : Bool := Chars.isBlank s.toList

def present? (s : Option String) : Option String := s.filter (!isBlank ·)

/-- The first value that is there and not blank, without the blanks at its ends. -/
def firstPresent? (values : List (Option String)) : Option String :=
  (values.findSome? present?).map trim

end Text
end StubPlan
