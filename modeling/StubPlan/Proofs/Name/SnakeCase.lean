import StubPlan.Name.SnakeCase
import StubPlan.Proofs.Text.Replace
import StubPlan.Proofs.Unicode.LowerCase

/-! Which characters a snake case name can hold. Lower case letters and underscores apart, they are
characters of the name itself. Nothing that leads to snake case acts on these characters, so that a
snake case name is its own snake case. -/
namespace StubPlan

namespace Chars

/-- Replacement brings in no characters but those of the replacing text. -/
lemma mem_replaceAfter {old new s : List Char} {x : Char} {k : Nat}
    (h : x ∈ replaceAfter old new k s) : x ∈ new ∨ x ∈ s := by
  fun_induction replaceAfter old new k s with
  | case1 => exact .inr h
  | case2 k c rest ih => exact (ih h).imp_right (List.mem_cons_of_mem c)
  | case3 c rest hp ih =>
    rcases List.mem_append.mp h with h | h
    · exact .inl h
    · exact (ih h).imp_right (List.mem_cons_of_mem c)
  | case4 c rest hp ih =>
    rcases List.mem_cons.mp h with rfl | h
    · exact .inr List.mem_cons_self
    · exact (ih h).imp_right (List.mem_cons_of_mem c)

end Chars

namespace Name
open Chars Unicode

lemma mem_splitAcronyms {s : List Char} {x : Char} (h : x ∈ splitAcronyms s) :
    x = '_' ∨ x ∈ s := by
  fun_induction splitAcronyms s with
  | case1 a b c d rest hc ih =>
    simp only [List.mem_cons] at h ih ⊢
    tauto
  | case2 a b c d rest hc ih =>
    simp only [List.mem_cons] at h ih ⊢
    tauto
  | case3 short hs => exact .inr h

lemma mem_splitWords {s : List Char} {x : Char} (h : x ∈ splitWords s) : x = '_' ∨ x ∈ s := by
  fun_induction splitWords s with
  | case1 a b rest hc ih =>
    simp only [List.mem_cons] at h ih ⊢
    tauto
  | case2 a b rest hc ih =>
    simp only [List.mem_cons] at h ih ⊢
    tauto
  | case3 short hs => exact .inr h

lemma mem_joinSeparated {s : List Char} {x : Char} (h : x ∈ joinSeparated s) :
    x = '_' ∨ x ∈ s := by
  obtain ⟨c, hc, rfl⟩ := List.mem_map.mp h
  split
  · exact .inl rfl
  · exact .inr hc

/-- Hyphens and spaces are gone once they are joined. -/
lemma separator_not_mem_joinSeparated {x : Char} (hx : x = '-' ∨ x = ' ') (s : List Char) :
    x ∉ joinSeparated s := by
  intro h
  obtain ⟨c, -, hc⟩ := List.mem_map.mp h
  split at hc
  · rw [← hc] at hx
    exact absurd hx (by decide)
  · next hkept => exact hkept (hc ▸ hx)

/-- No snake case name holds a hyphen or a space. -/
lemma separator_not_mem_snakeChars {x : Char} (hx : x = '-' ∨ x = ' ') (s : List Char) :
    x ∉ snakeChars s := by
  have hlow : x.toNat < 0x61 := by rcases hx with rfl | rfl <;> decide
  exact fun h => separator_not_mem_joinSeparated hx _ (mem_lower h hlow)

/-- The characters of a snake case name before the underscore are there once the dollar signs are
replaced. -/
lemma mem_replace_of_mem_snakeChars {s : List Char} {x : Char} (h : x ∈ snakeChars s)
    (hx : x.toNat < 0x5F) : x ∈ replace ['$'] ['_', '_'] s := by
  have hne : x ≠ '_' := by
    rintro rfl
    exact absurd hx (by decide)
  have hjoined := mem_lower h (by omega)
  have hwords := (mem_joinSeparated hjoined).resolve_left hne
  have hacronyms := (mem_splitWords hwords).resolve_left hne
  exact (mem_splitAcronyms hacronyms).resolve_left hne

/-- The characters of a snake case name before the underscore are characters of the name. -/
lemma mem_snakeChars {s : List Char} {x : Char} (h : x ∈ snakeChars s) (hx : x.toNat < 0x5F) :
    x ∈ s := by
  refine (mem_replaceAfter (mem_replace_of_mem_snakeChars h hx)).resolve_left fun hnew => ?_
  obtain rfl : x = '_' := by simpa using hnew
  exact absurd hx (by decide)

/-- No dollar sign is left. -/
lemma dollar_not_mem_snakeChars (s : List Char) : '$' ∉ snakeChars s := by
  intro h
  have hreplaced := mem_replace_of_mem_snakeChars h (by decide)
  rw [replace_char] at hreplaced
  obtain ⟨c, -, hc⟩ := List.mem_flatMap.mp hreplaced
  split at hc
  · exact absurd hc (by decide)
  · next hkept => exact hkept (List.mem_singleton.mp hc).symm

section Settled

variable {s : List Char}

lemma splitAcronyms_eq_self (h : ∀ c ∈ s, isCapital c = false) : splitAcronyms s = s := by
  fun_induction splitAcronyms s with
  | case1 a b c d rest hc ih =>
    simp only [h a (by simp), Bool.false_and, Bool.false_eq_true] at hc
  | case2 a b c d rest hc ih => rw [ih fun x hx => h x (List.mem_cons_of_mem a hx)]
  | case3 short hs => rfl

lemma splitWords_eq_self (h : ∀ c ∈ s, isCapital c = false) : splitWords s = s := by
  fun_induction splitWords s with
  | case1 a b rest hc ih =>
    simp only [h b (by simp), Bool.and_false, Bool.false_eq_true] at hc
  | case2 a b rest hc ih => rw [ih fun x hx => h x (List.mem_cons_of_mem a hx)]
  | case3 short hs => rfl

lemma joinSeparated_eq_self (hhyphen : '-' ∉ s) (hspace : ' ' ∉ s) : joinSeparated s = s := by
  refine (List.map_congr_left fun c hc => if_neg ?_).trans (List.map_id s)
  rintro (rfl | rfl)
  · exact hhyphen hc
  · exact hspace hc

lemma replace_dollar_eq_self (h : '$' ∉ s) : replace ['$'] ['_', '_'] s = s :=
  replace_eq_self (mt (List.singleton_infix_iff '$' s).mp h)

lemma toNat_of_isCapital {c : Char} (h : isCapital c) : 65 ≤ c.toNat ∧ c.toNat ≤ 90 := by
  simp only [isCapital, Bool.and_eq_true, decide_eq_true_eq] at h
  exact h

lemma toNat_mem_of_isCapital {c : Char} (h : isCapital c) : c.toNat ∈ List.range' 65 26 := by
  have hnat := toNat_of_isCapital h
  exact List.mem_range'_1.mpr ⟨hnat.1, by omega⟩

/-- No capital is its own lower case. -/
lemma not_isCapital_of_lowerChar {c : Char} (h : lowerChar c = [c]) : isCapital c = false := by
  rw [Bool.eq_false_iff]
  intro hcapital
  have hmapped : lowerChar c ≠ [c] := of_forall_ofNat (P := fun c => lowerChar c ≠ [c]) (by decide)
    (toNat_mem_of_isCapital hcapital)
  exact hmapped h

/-- A character of snake case names: its own lower case, and nothing that an underscore stands for. -/
structure IsSnakeChar (c : Char) : Prop where
  lowered : lowerChar c = [c]
  ne_dollar : c ≠ '$'
  ne_hyphen : c ≠ '-'
  ne_space : c ≠ ' '

lemma isSnakeChar_of_mem_snakeChars {x : Char} (h : x ∈ snakeChars s) : IsSnakeChar x where
  lowered := lowerChar_of_mem_lower h
  ne_dollar hx := dollar_not_mem_snakeChars s (hx ▸ h)
  ne_hyphen hx := separator_not_mem_snakeChars (.inl hx) s h
  ne_space hx := separator_not_mem_snakeChars (.inr hx) s h

/-- The texts that are their own snake case are those of such characters. -/
lemma snakeChars_eq_self_iff : snakeChars s = s ↔ ∀ c ∈ s, IsSnakeChar c := by
  constructor
  · intro h c hc
    rw [← h] at hc
    exact isSnakeChar_of_mem_snakeChars hc
  · intro h
    have hcapital : ∀ c ∈ s, isCapital c = false := fun c hc =>
      not_isCapital_of_lowerChar (h c hc).lowered
    have hdollar : '$' ∉ s := fun hc => (h '$' hc).ne_dollar rfl
    have hhyphen : '-' ∉ s := fun hc => (h '-' hc).ne_hyphen rfl
    have hspace : ' ' ∉ s := fun hc => (h ' ' hc).ne_space rfl
    rw [snakeChars, replace_dollar_eq_self hdollar, splitAcronyms_eq_self hcapital,
      splitWords_eq_self hcapital, joinSeparated_eq_self hhyphen hspace]
    exact lower_eq_self_iff.mpr fun c hc => (h c hc).lowered

/-- Snake case is a projection. What it gives holds no capital from A to Z, no dollar sign, no hyphen and
no space, and is its own snake case; and the names of which that holds are those whose characters are in
lower case and none of these, of whatever script they are. -/
theorem snakeCase_snakeCase (word : String) :
    (∀ c ∈ (snakeCase word).toList, isCapital c = false ∧ c ≠ '$' ∧ c ≠ '-' ∧ c ≠ ' ') ∧
      snakeCase (snakeCase word) = snakeCase word ∧
      ∀ name, snakeCase name = name ↔ ∀ c ∈ name.toList, IsSnakeChar c := by
  have hword : ∀ c ∈ (snakeCase word).toList, IsSnakeChar c := by
    intro c hc
    rw [snakeCase, String.toList_ofList] at hc
    exact isSnakeChar_of_mem_snakeChars hc
  have hfixed : ∀ name, snakeCase name = name ↔ ∀ c ∈ name.toList, IsSnakeChar c := by
    intro name
    rw [← snakeChars_eq_self_iff, ← String.toList_inj, snakeCase, String.toList_ofList]
  refine ⟨fun c hc => ?_, (hfixed _).mpr hword, hfixed⟩
  have hsnake := hword c hc
  exact ⟨not_isCapital_of_lowerChar hsnake.lowered, hsnake.ne_dollar, hsnake.ne_hyphen,
    hsnake.ne_space⟩

/-- A dotted capital I becomes two characters and a last sigma another letter, once and for all. -/
theorem snakeCase_snakeCase_dotted :
    let word := "\u0391\u03a3-\u0130d$Value"
    'ς' ∈ (snakeCase word).toList ∧ (isCapital 'ς' = false ∧ 'ς' ≠ '$' ∧ 'ς' ≠ '-' ∧ 'ς' ≠ ' ') ∧
      snakeCase (snakeCase word) = snakeCase word := by
  intro word
  have hsigma : 'ς' ∈ (snakeCase word).toList := by decide +kernel
  exact ⟨hsigma, (snakeCase_snakeCase word).1 'ς' hsigma, (snakeCase_snakeCase word).2.1⟩

end Settled

end Name
end StubPlan
