import StubPlan.Decimal.Shortest
import StubPlan.Proofs.Text.Resolved

/-! The texts of numbers have no blanks in them. -/
namespace StubPlan
open Text

section Digits

variable {c : Char} {n : Nat}

lemma not_isBlankChar_of_isDigit (h : c.isDigit) : isBlankChar c = false := by
  have hrange : 48 ≤ c.toNat ∧ c.toNat ≤ 57 := Char.isDigit_iff_toNat.mp h
  simp [isBlankChar]
  omega

lemma not_isBlankChar_of_mem_toDigits (h : c ∈ Nat.toDigits 10 n) : isBlankChar c = false :=
  not_isBlankChar_of_isDigit (Nat.isDigit_of_mem_toDigits (by decide) (by decide) h)

lemma isResolved_toString (n : Int) : IsResolved (toString n) := by
  have hnat : ∀ k : Nat, ∀ c ∈ (toString k).toList, isBlankChar c = false := by
    intro k c hc
    rw [show (toString k).toList = Nat.toDigits 10 k from Nat.toList_repr] at hc
    exact not_isBlankChar_of_mem_toDigits hc
  cases n with
  | ofNat k =>
    have hne : toString k ≠ "" := by
      intro h
      have hnil : Nat.toDigits 10 k = [] := Nat.toList_repr.symm.trans (congrArg String.toList h)
      exact Nat.toDigits_ne_nil hnil
    exact isResolved_of_forall hne (hnat k)
  | negSucc k =>
    have htext : toString (Int.negSucc k) = "-" ++ toString (k + 1) := rfl
    rw [htext]
    refine isResolved_of_forall (by simp) fun c hc => ?_
    rw [String.toList_append, List.mem_append] at hc
    obtain hc | hc := hc
    · obtain rfl := List.mem_singleton.mp hc
      rfl
    · exact hnat (k + 1) c hc

end Digits

namespace Binary64

variable {c : Char} {digits : List Char} {position : Int}

lemma not_isBlankChar_of_mem_significant {point : Option (Nat × Int)}
    (h : c ∈ (significant point).1) : isBlankChar c = false := by
  rcases point with - | ⟨point, grid⟩
  · obtain rfl := List.mem_singleton.mp h
    rfl
  · have hdigits := (List.dropWhile_sublist _).subset (List.mem_reverse.mp h)
    exact not_isBlankChar_of_mem_toDigits (List.mem_reverse.mp hdigits)

lemma not_isBlankChar_of_mem_positional (hdigits : ∀ c ∈ digits, isBlankChar c = false)
    (h : c ∈ positional digits position) : isBlankChar c = false := by
  have hzeros : ∀ k, ∀ c ∈ List.replicate k '0', isBlankChar c = false := by
    intro k c hc
    rw [List.eq_of_mem_replicate hc]
    rfl
  unfold positional at h
  split at h
  · obtain rfl | rfl | h := by simpa only [List.mem_cons] using h
    · rfl
    · rfl
    · exact hdigits c h
  · obtain rfl | rfl | h | h := by simpa only [List.mem_cons, List.mem_append] using h
    · rfl
    · rfl
    · exact hzeros _ c h
    · exact hdigits c h
  · obtain (h | h) | rfl | h := by simpa only [List.mem_cons, List.mem_append] using h
    · exact hdigits c (List.mem_of_mem_take h)
    · exact hzeros _ c h
    · rfl
    · split at h
      · rw [List.mem_singleton.mp h]
        rfl
      · exact hdigits c (List.mem_of_mem_drop h)

lemma not_isBlankChar_of_mem_scientific (hdigits : ∀ c ∈ digits, isBlankChar c = false)
    (h : c ∈ scientific digits position) : isBlankChar c = false := by
  have hplaces : ∀ c ∈ Nat.toDigits 10 (position - 1).natAbs, isBlankChar c = false :=
    fun c hc => not_isBlankChar_of_mem_toDigits hc
  simp only [scientific, List.mem_append] at h
  obtain ((h | h) | h) | h := h
  · exact hdigits c (List.mem_of_mem_take h)
  · split at h
    · exact absurd h List.not_mem_nil
    · obtain rfl | h := List.mem_cons.mp h
      · rfl
      · exact hdigits c (List.mem_of_mem_drop h)
  · obtain rfl | h := List.mem_cons.mp h
    · rfl
    · rw [List.mem_singleton.mp h]
      split <;> rfl
  · split at h
    · obtain rfl | h := List.mem_cons.mp h
      · rfl
      · exact hplaces c h
    · exact hplaces c h

lemma laidOut_ne_nil (number : List Char × Int) : laidOut number ≠ [] := by
  obtain ⟨digits, position⟩ := number
  have hpositional : positional digits position ≠ [] := by
    unfold positional
    split <;> simp
  have hscientific : scientific digits position ≠ [] := by simp [scientific]
  simp only [laidOut]
  split
  · exact hpositional
  · exact hscientific

lemma not_isBlankChar_of_mem_laidOut {number : List Char × Int}
    (hdigits : ∀ c ∈ number.1, isBlankChar c = false) (h : c ∈ laidOut number) :
    isBlankChar c = false := by
  obtain ⟨digits, position⟩ := number
  simp only [laidOut] at h
  split at h
  · exact not_isBlankChar_of_mem_positional hdigits h
  · exact not_isBlankChar_of_mem_scientific hdigits h

lemma isResolved_written (x : Binary64) : IsResolved x.written := by
  cases x with
  | nan => decide
  | infinite negative => cases negative <;> decide
  | finite negative m e =>
    have hdigits : ∀ c ∈ (if m = 0 then (['0'], 1) else shortest m e : List Char × Int).1,
        isBlankChar c = false := by
      intro c hc
      split at hc
      · obtain rfl := List.mem_singleton.mp hc
        rfl
      · exact not_isBlankChar_of_mem_significant hc
    have htext := fun c => not_isBlankChar_of_mem_laidOut (c := c) hdigits
    have hne := laidOut_ne_nil (if m = 0 then (['0'], 1) else shortest m e)
    rw [written]
    refine isResolved_of_forall ?_ fun c hc => ?_
    · cases negative <;> simp [hne]
    · rw [String.toList_ofList] at hc
      split at hc
      · obtain rfl | hc := List.mem_cons.mp hc
        · rfl
        · exact htext c hc
      · exact htext c hc

end Binary64

end StubPlan
