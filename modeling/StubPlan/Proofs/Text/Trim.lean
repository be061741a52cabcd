import Mathlib.Data.List.DropRight
import StubPlan.Proofs.Text.Blank

/-! Texts without blanks at their ends. Taking characters off both ends once is enough, and nothing is
taken off exactly when neither the first character nor the last is one of those. -/
namespace StubPlan

namespace Chars
open Text

section Ends

variable {α : Type} {p : α → Bool} {s : List α}

/-- Whether neither the first character of a text nor the last satisfies `p`. -/
def endsOutside (p : α → Bool) (s : List α) : Bool :=
  s.head?.all (!p ·) && s.getLast?.all (!p ·)

lemma dropWhile_eq_self_iff_head? : s.dropWhile p = s ↔ s.head?.all (!p ·) := by
  cases s with
  | nil => simp
  | cons c rest => simp

lemma dropEndWhile_eq_self_iff : dropEndWhile p s = s ↔ s.getLast?.all (!p ·) := by
  rw [dropEndWhile, List.reverse_eq_iff, dropWhile_eq_self_iff_head?, List.head?_reverse]

lemma prefix_dropEndWhile (p : α → Bool) (s : List α) : dropEndWhile p s <+: s :=
  List.rdropWhile_prefix p s

/-- Only characters of the kind are taken off. -/
lemma exists_dropEndWhile_append (p : α → Bool) (s : List α) :
    ∃ cut, (∀ c ∈ cut, p c) ∧ s = dropEndWhile p s ++ cut := by
  refine ⟨s.rtakeWhile p, fun c hc => List.mem_rtakeWhile_imp hc, ?_⟩
  rw [dropEndWhile, List.rtakeWhile, ← List.reverse_append, List.takeWhile_append_dropWhile,
    List.reverse_reverse]

lemma dropEndWhile_append (p : α → Bool) (s t : List α) :
    dropEndWhile p (s ++ t) = if t.all p then dropEndWhile p s else s ++ dropEndWhile p t := by
  rw [dropEndWhile, List.reverse_append, List.dropWhile_append]
  by_cases ht : t.all p
  · have hnil : t.reverse.dropWhile p = [] := List.dropWhile_eq_nil_iff.mpr (by simpa using ht)
    simp [hnil, ht, dropEndWhile]
  · have hcons : t.reverse.dropWhile p ≠ [] := fun h =>
      ht (by simpa using List.dropWhile_eq_nil_iff.mp h)
    simp [hcons, ht, dropEndWhile]

lemma dropEndsWhile_sublist (p : α → Bool) (s : List α) :
    (dropEndsWhile p s).Sublist (s.dropWhile p) :=
  (prefix_dropEndWhile p _).sublist

lemma dropEndsWhile_eq_self_iff : dropEndsWhile p s = s ↔ endsOutside p s := by
  rw [endsOutside, Bool.and_eq_true, ← dropWhile_eq_self_iff_head?, ← dropEndWhile_eq_self_iff]
  constructor
  · intro h
    have hleft := dropEndsWhile_sublist p s
    rw [h] at hleft
    have hdrop : s.dropWhile p = s := (List.dropWhile_sublist p).antisymm hleft
    rw [dropEndsWhile, hdrop] at h
    exact ⟨hdrop, h⟩
  · rintro ⟨hdrop, hend⟩
    rw [dropEndsWhile, hdrop, hend]

/-- Neither end of what is left is of the kind that has been taken off. -/
lemma endsOutside_dropEndsWhile (p : α → Bool) (s : List α) :
    endsOutside p (dropEndsWhile p s) := by
  have hlast : (dropEndsWhile p s).getLast?.all (!p ·) :=
    dropEndWhile_eq_self_iff.mp (List.rdropWhile_idempotent p _)
  have hfirst : (s.dropWhile p).head?.all (!p ·) :=
    dropWhile_eq_self_iff_head?.mp (List.dropWhile_idempotent p s)
  rw [endsOutside, hlast, Bool.and_true]
  -- what is left begins as it did before its end was taken off
  obtain ⟨cut, hcut⟩ := prefix_dropEndWhile p (s.dropWhile p)
  rcases hleft : dropEndsWhile p s with _ | ⟨c, rest⟩
  · rfl
  · rw [← hcut, ← dropEndsWhile, hleft] at hfirst
    simpa using hfirst

@[simp] lemma dropEndsWhile_dropEndsWhile (p : α → Bool) (s : List α) :
    dropEndsWhile p (dropEndsWhile p s) = dropEndsWhile p s :=
  dropEndsWhile_eq_self_iff.mpr (endsOutside_dropEndsWhile p s)

lemma mem_dropWhile {c : α} (hc : c ∈ s) (h : p c = false) : c ∈ s.dropWhile p := by
  rw [← List.takeWhile_append_dropWhile (p := p) (l := s), List.mem_append] at hc
  refine hc.resolve_left fun htake => ?_
  rw [List.mem_takeWhile_imp htake] at h
  contradiction

lemma mem_dropEndsWhile {c : α} (hc : c ∈ s) (h : p c = false) : c ∈ dropEndsWhile p s := by
  rw [dropEndsWhile, dropEndWhile, List.mem_reverse]
  exact mem_dropWhile (List.mem_reverse.mpr (mem_dropWhile hc h)) h

end Ends

@[simp] lemma trimCodes_trimCodes (codes : List Nat) :
    trimCodes (trimCodes codes) = trimCodes codes :=
  dropEndsWhile_dropEndsWhile _ codes

lemma trim_sublist (s : List Char) : (trim s).Sublist s :=
  (dropEndsWhile_sublist isBlankChar s).trans (List.dropWhile_sublist isBlankChar)

@[simp] lemma isBlank_trim (s : List Char) : isBlank (trim s) = isBlank s := by
  rcases h : isBlank s with _ | _
  · obtain ⟨c, hc, hblank⟩ := List.all_eq_false.mp h
    refine List.all_eq_false.mpr ⟨c, mem_dropEndsWhile hc ?_, hblank⟩
    simpa using hblank
  · rw [trim_of_isBlank h]
    rfl

end Chars

namespace Text

@[simp] lemma toList_trim (s : String) : (trim s).toList = Chars.trim s.toList :=
  String.toList_ofList

@[simp] lemma trim_trim (s : String) : trim (trim s) = trim s := by
  rw [trim, toList_trim, Chars.trim, Chars.trim, Chars.dropEndsWhile_dropEndsWhile]
  rfl

@[simp] lemma isBlank_trim (s : String) : isBlank (trim s) = isBlank s := by
  rw [isBlank, toList_trim, Chars.isBlank_trim, isBlank]

lemma present?_trim {s : String} (h : isBlank s = false) :
    present? (some (trim s)) = some (trim s) :=
  present?_of_not_isBlank (by rw [isBlank_trim, h])

end Text
end StubPlan
