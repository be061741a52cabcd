import StubPlan.Console.EmojiNames
import StubPlan.Text.Blank
import StubPlan.Text.Replace
import StubPlan.Unicode.LetterCase

/-! Emoji in console text, written as their names between two colons. A name may end in a hyphen and a
word that asks for the emoji as a picture or as a plain sign. -/
namespace StubPlan.Emoji

/-- The characters that emoji are written with: those beyond ASCII, and what the keys of a telephone
show. -/
def isPictorial (c : Char) : Bool := 128 ≤ c.toNat || c.isDigit || c = '#' || c = '*'

/-- The text after its first word and the space behind that. -/
def afterWord (s : List Char) : List Char := (s.dropWhile (· ≠ ' ')).tail

theorem length_afterWord_le (s : List Char) : (afterWord s).length ≤ s.length - 1 := by
  rw [afterWord, List.length_tail]
  exact Nat.sub_le_sub_right (List.dropWhile_sublist _).length_le 1

/-- The emoji of a name in a line of names, each followed by its emoji. -/
def find? (name line : List Char) : Option (List Char) :=
  match line with
  | [] => none
  | c :: rest =>
    if (name ++ [' ']).isPrefixOf (c :: rest) then
      some ((afterWord (c :: rest)).takeWhile isPictorial)
    else find? name (afterWord (afterWord (c :: rest)))
  termination_by line.length
  decreasing_by
    have h := length_afterWord_le (c :: rest)
    have h := length_afterWord_le (afterWord (c :: rest))
    simp only [List.length_cons] at *
    omega

def nameTable : List (List Char) := nameLines.map String.toList

/-- The endings of a name that ask for a form of its emoji, each with the character that selects the
form. -/
def forms : List (List Char × Char) :=
  [("-text".toList, '\uFE0E'), ("-emoji".toList, '\uFE0F')]

/-- A name without the form that it ends in, and the selector of that form. -/
def splitForm (name : List Char) : List Char × List Char :=
  match forms.find? fun (ending, _) => ending.isSuffixOf name with
  | some (ending, selector) => (name.take (name.length - ending.length), [selector])
  | none => (name, [])

/-- The emoji of a name in any case of letters, with its form. -/
def named? (name : List Char) : Option (List Char) :=
  let (name, selector) := splitForm name
  let name := Unicode.lower name
  (nameTable.findSome? (find? name)).map (· ++ selector)

def inName (c : Char) : Bool := c ≠ ':' && !Text.isBlankChar c

/-- The name that a colon begins and the text after the colon that ends it. -/
def name? (s : List Char) : Option (List Char × List Char) :=
  match s.dropWhile inName with
  | ':' :: rest => some (s.takeWhile inName, rest)
  | _ => none

theorem length_lt_of_name? {s name rest : List Char} (h : name? s = some (name, rest)) :
    rest.length < s.length := by
  have le := (List.dropWhile_sublist inName (l := s)).length_le
  unfold name? at h
  split at h
  · next more eq =>
    obtain ⟨-, rfl⟩ : s.takeWhile inName = name ∧ more = rest := by simpa using h
    rw [eq] at le
    rw [List.length_cons] at le
    exact le
  · cases h

/-- A text with the names between colons replaced by their emoji. Two colons around another name stay
as they are, and neither begins or ends a further name. -/
def expand (s : List Char) : List Char :=
  match s with
  | [] => []
  | ':' :: rest => match _h : name? rest with
    | some (name, after) => (named? name).getD (':' :: name ++ [':']) ++ expand after
    | none => ':' :: expand rest
  | c :: rest => c :: expand rest
  termination_by s.length
  decreasing_by
    · have := length_lt_of_name? _h
      simp
      omega
    · simp
    · simp

end StubPlan.Emoji
