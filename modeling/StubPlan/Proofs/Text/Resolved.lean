import StubPlan.Proofs.Text.Front
import StubPlan.Proofs.Text.Trim

/-! Texts that say something and have no blanks at their ends. -/
namespace StubPlan

namespace Text
open Chars

/-- Whether a text says something and has no blanks at its ends. -/
def IsResolved (s : String) : Prop := isBlank s = false ∧ endsOutside isBlankChar s.toList

instance (s : String) : Decidable (IsResolved s) := by
  unfold IsResolved
  infer_instance

lemma present?_eq_none_iff {s : String} : present? (some s) = none ↔ isBlank s := by
  simp [present?]

lemma isResolved_trim {s : String} (h : isBlank s = false) : IsResolved (trim s) := by
  refine ⟨by rw [isBlank_trim, h], ?_⟩
  rw [toList_trim]
  exact endsOutside_dropEndsWhile isBlankChar s.toList

lemma isResolved_iff_trim_eq_self {s : String} (h : isBlank s = false) :
    IsResolved s ↔ trim s = s := by
  rw [IsResolved, h, ← dropEndsWhile_eq_self_iff, ← String.toList_inj, toList_trim]
  simp [Chars.trim]

lemma isResolved_of_forall {s : String} (hne : s ≠ "")
    (h : ∀ c ∈ s.toList, isBlankChar c = false) : IsResolved s := by
  obtain ⟨c, hc⟩ := List.exists_mem_of_ne_nil s.toList (by simpa using hne)
  refine ⟨isBlank_eq_false hc (h c hc), ?_⟩
  rw [← dropEndsWhile_eq_self_iff]
  exact trim_eq_self h

/-- A text that goes on after a resolved one ends as the added text does. -/
lemma IsResolved.append {a b : String} (ha : IsResolved a) (hb : b ≠ "")
    (hlast : b.toList.getLast?.all (!isBlankChar ·)) : IsResolved (a ++ b) := by
  refine ⟨by rw [isBlank_append, ha.1, Bool.false_and], ?_⟩
  have hends := ha.2
  have hane : a.toList ≠ [] := by simpa using ne_empty_of_not_isBlank ha.1
  have hbne : b.toList ≠ [] := by simpa using hb
  rw [endsOutside, Bool.and_eq_true] at hends
  rw [endsOutside, String.toList_append, List.head?_append_of_ne_nil _ hane,
    List.getLast?_append_of_ne_nil _ hbne, hends.1, hlast, Bool.and_self]

lemma isResolved_of_firstPresent? {values : List (Option String)} {s : String}
    (h : firstPresent? values = some s) : IsResolved s := by
  obtain ⟨first, hfirst, rfl⟩ := Option.map_eq_some_iff.mp h
  obtain ⟨value, -, hvalue⟩ := List.exists_of_findSome?_eq_some hfirst
  exact isResolved_trim (not_isBlank_of_present? hvalue)

/-- Of some values one is resolved unless all are missing or blank. -/
lemma exists_firstPresent?_iff {values : List (Option String)} :
    (∃ s, firstPresent? values = some s ∧ IsResolved s) ↔ ∃ v ∈ values, present? v ≠ none := by
  constructor
  · rintro ⟨s, hs, -⟩
    obtain ⟨first, hfirst, -⟩ := Option.map_eq_some_iff.mp hs
    obtain ⟨value, hmem, hvalue⟩ := List.exists_of_findSome?_eq_some hfirst
    exact ⟨value, hmem, by simp [hvalue]⟩
  · rintro ⟨value, hmem, hvalue⟩
    rcases hs : firstPresent? values with _ | s
    · have hnone := List.findSome?_eq_none_iff.mp (Option.map_eq_none_iff.mp hs) value hmem
      exact absurd hnone hvalue
    · exact ⟨s, rfl, isResolved_of_firstPresent? hs⟩

end Text

end StubPlan
