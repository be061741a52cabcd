import Mathlib.Data.List.Infix
import StubPlan.Text.Blank
import StubPlan.Text.Replace

/-! What a text begins with and what it holds, and taking off its front. -/
namespace StubPlan

namespace Chars

lemma dropFront?_eq_some_iff {front s rest : List Char} :
    dropFront? front s = some rest ↔ s = front ++ rest := by
  induction front generalizing s with
  | nil => simp [dropFront?]
  | cons a front ih =>
    cases s with
    | nil => simp [dropFront?]
    | cons c s =>
      by_cases h : a = c
      · subst h
        simp [dropFront?, ih]
      · simp [dropFront?, h, Ne.symm h]

/-- A text after a separator is not found in what holds none. -/
lemma infix_append_of_not_mem {sep : Char} {word a b : List Char} (h : sep ∉ a) :
    sep :: word <:+: a ++ b ↔ sep :: word <:+: b := by
  induction a with
  | nil => rfl
  | cons c a ih =>
    rw [List.mem_cons, not_or] at h
    rw [List.cons_append, List.infix_cons_iff, List.cons_prefix_cons, ih h.2]
    simp [h.1]

end Chars

namespace Text

def BeginsWith (front s : String) : Prop := front.toList <+: s.toList

/-- A text holds another, anywhere. -/
def Holds (part s : String) : Prop := part.toList <:+: s.toList

instance (front s : String) : Decidable (BeginsWith front s) :=
  inferInstanceAs (Decidable (front.toList <+: s.toList))

instance (part s : String) : Decidable (Holds part s) :=
  inferInstanceAs (Decidable (part.toList <:+: s.toList))

lemma beginsWith_append (front rest : String) : BeginsWith front (front ++ rest) := by
  simp [BeginsWith]

lemma beginsWith_iff {front s : String} : BeginsWith front s ↔ ∃ rest, s = front ++ rest := by
  constructor
  · rintro ⟨rest, h⟩
    exact ⟨String.ofList rest, String.toList_inj.mp (by simp [← h])⟩
  · rintro ⟨rest, rfl⟩
    exact beginsWith_append front rest

lemma dropFront?_eq_some_iff {front s rest : String} :
    dropFront? front s = some rest ↔ s = front ++ rest := by
  rw [dropFront?, Option.map_eq_some_iff]
  constructor
  · rintro ⟨l, hl, rfl⟩
    apply String.toList_inj.mp
    simp [Chars.dropFront?_eq_some_iff.mp hl]
  · rintro rfl
    exact ⟨rest.toList, Chars.dropFront?_eq_some_iff.mpr (by simp), by simp⟩

lemma dropFront?_append (front rest : String) : dropFront? front (front ++ rest) = some rest :=
  dropFront?_eq_some_iff.mpr rfl

lemma dropFront?_eq_none_iff {front s : String} :
    dropFront? front s = none ↔ ¬ BeginsWith front s := by
  rw [beginsWith_iff, Option.eq_none_iff_forall_ne_some]
  simp [dropFront?_eq_some_iff]

lemma isBlank_eq_false {s : String} {c : Char} (h : c ∈ s.toList) (hc : isBlankChar c = false) :
    isBlank s = false := by
  rw [isBlank, Chars.isBlank, List.all_eq_false]
  exact ⟨c, h, by simp [hc]⟩

end Text
end StubPlan
