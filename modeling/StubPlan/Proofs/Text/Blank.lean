import Mathlib.Data.List.TakeWhile
import StubPlan.Text.Blank

/-! Blank texts, and texts that trimming leaves as they are. -/
namespace StubPlan

namespace Chars
open Text

lemma trim_of_isBlank {s : List Char} (h : isBlank s) : trim s = [] := by
  have hdrop : s.dropWhile isBlankChar = [] :=
    List.dropWhile_eq_nil_iff.mpr (List.all_eq_true.mp h)
  rw [trim, dropEndsWhile, hdrop]
  rfl

lemma dropWhile_eq_self {p : Char → Bool} {s : List Char} (h : ∀ c ∈ s, p c = false) :
    s.dropWhile p = s := by
  cases s with
  | nil => rfl
  | cons c rest => simp [h c (by simp)]

/-- A text without blanks has none at its ends. -/
lemma trim_eq_self {s : List Char} (h : ∀ c ∈ s, isBlankChar c = false) : trim s = s := by
  have hrev : ∀ c ∈ s.reverse, isBlankChar c = false := fun c hc => h c (List.mem_reverse.mp hc)
  rw [trim, dropEndsWhile, dropEndWhile, dropWhile_eq_self h, dropWhile_eq_self hrev,
    List.reverse_reverse]

end Chars

namespace Text

@[simp] lemma isBlank_empty : isBlank "" = true := rfl

@[simp] lemma isBlank_append (a b : String) : isBlank (a ++ b) = (isBlank a && isBlank b) := by
  simp [isBlank, Chars.isBlank]

lemma ne_empty_of_not_isBlank {s : String} (h : isBlank s = false) : s ≠ "" := by
  rintro rfl
  exact absurd h (by decide)

lemma present?_of_isBlank {s : String} (h : isBlank s = true) : present? (some s) = none := by
  simp [present?, h]

lemma present?_of_not_isBlank {s : String} (h : isBlank s = false) :
    present? (some s) = some s := by
  simp [present?, h]

lemma present?_eq_some_iff {given : Option String} {s : String} :
    present? given = some s ↔ given = some s ∧ isBlank s = false := by
  rw [present?, Option.filter_eq_some_iff, Bool.not_eq_true']

lemma present?_eq_none_iff_forall {given : Option String} :
    present? given = none ↔ ∀ s ∈ given, isBlank s := by
  simp [present?, Option.filter_eq_none_iff]

lemma not_isBlank_of_present? {given : Option String} {s : String}
    (h : present? given = some s) : isBlank s = false := (present?_eq_some_iff.mp h).2

end Text
end StubPlan
