import Mathlib.Data.List.Basic
import Mathlib.Data.List.Infix
import StubPlan.Text.Replace

/-! Replacement from left to right, and when it acts on the parts of a text apart. A pattern between
two separators can meet a boundary only at a separator, so the text beside the boundary decides. -/
namespace StubPlan.Chars

variable {old new s t : List Char}

/-- What is left out belongs to an occurrence already replaced. -/
lemma replaceAfter_eq_drop (old new : List Char) (k : Nat) (s : List Char) :
    replaceAfter old new k s = replace old new (s.drop k) := by
  induction s generalizing k with
  | nil => simp [replaceAfter, replace]
  | cons c rest ih =>
    cases k with
    | zero => rfl
    | succ k => rw [replaceAfter, ih, List.drop_succ_cons]

lemma replace_append_self (hold : old ≠ []) (t : List Char) :
    replace old new (old ++ t) = new ++ replace old new t := by
  obtain ⟨c, rest, rfl⟩ := List.exists_cons_of_ne_nil hold
  have hp : (c :: rest).isPrefixOf (c :: (rest ++ t)) := by simp
  rw [List.cons_append, replace, replaceAfter, if_pos hp, replaceAfter_eq_drop]
  simp

lemma replace_cons {c : Char} (h : ¬ old <+: c :: s) :
    replace old new (c :: s) = c :: replace old new s := by
  rw [replace, replaceAfter, if_neg (by simpa using h)]
  rfl

/-- A text is empty, begins with the pattern, or begins with a character that is kept. -/
lemma replace_induction {motive : List Char → Prop} (hold : old ≠ []) (nil : motive [])
    (found : ∀ t, motive t → motive (old ++ t))
    (kept : ∀ c s, ¬ old <+: c :: s → motive s → motive (c :: s)) (s : List Char) : motive s := by
  induction hn : s.length using Nat.strong_induction_on generalizing s with
  | _ n ih =>
    subst hn
    by_cases hp : old <+: s
    · obtain ⟨t, rfl⟩ := hp
      have hpos := List.length_pos_of_ne_nil hold
      exact found t (ih t.length (by simp [hpos]) t rfl)
    · cases s with
      | nil => exact nil
      | cons c s => exact kept c s hp (ih s.length (by simp) s rfl)

/-- Occurrences of one character are replaced each on its own. -/
lemma replace_char (a : Char) (new s : List Char) :
    replace [a] new s = s.flatMap fun c => if c = a then new else [c] := by
  induction s with
  | nil => rfl
  | cons c rest ih =>
    rw [List.flatMap_cons, ← ih]
    split
    · next hc =>
      subst hc
      exact replace_append_self (List.cons_ne_nil c []) rest
    · next hc => exact replace_cons (by simpa using Ne.symm hc)

/-- A text without the pattern stays as it is. -/
lemma replace_eq_self (h : ¬ old <:+: s) : replace old new s = s := by
  induction s with
  | nil => rfl
  | cons c s ih =>
    rw [List.infix_cons_iff, not_or] at h
    rw [replace_cons h.1, ih h.2]

/-- No occurrence of the pattern begins in one text and ends in the text after it. -/
def Separate (old s t : List Char) : Prop :=
  ∀ u, u <:+ s → u ≠ [] → old <+: u ++ t → old <+: u

/-- Where no occurrence meets the boundary, both sides are replaced apart. -/
lemma replace_append (hold : old ≠ []) (h : Separate old s t) :
    replace old new (s ++ t) = replace old new s ++ replace old new t := by
  induction s using replace_induction hold with
  | nil => rfl
  | found s ih =>
    have hs : Separate old s t := fun u hu => h u (hu.trans (List.suffix_append old s))
    rw [List.append_assoc, replace_append_self hold, replace_append_self hold, ih hs,
      List.append_assoc]
  | kept c s hp ih =>
    have hs : Separate old s t := fun u hu => h u (hu.trans (List.suffix_cons c s))
    have hp' : ¬ old <+: c :: (s ++ t) := fun h' =>
      hp (h (c :: s) (List.suffix_refl _) (by simp) h')
    rw [List.cons_append, replace_cons hp', replace_cons hp, ih hs, List.cons_append]

/-- A text that holds the pattern does not survive replacement, not even as the beginning of a
longer text, when pattern and replacement differ before either ends. -/
lemma not_prefix_replace (hold : old ≠ []) (hdiff : ∀ x y, old ++ x ≠ new ++ y)
    (h : old <:+: s) : ¬ s <+: replace old new (s ++ t) := by
  induction s using replace_induction hold with
  | nil => exact absurd (List.infix_nil.mp h) hold
  | found s ih =>
    rintro ⟨r, hr⟩
    rw [List.append_assoc, List.append_assoc, replace_append_self hold] at hr
    exact hdiff _ _ hr
  | kept c s hp ih =>
    have hs : old <:+: s := (List.infix_cons_iff.mp h).resolve_left hp
    have hlen : old.length ≤ (c :: s).length := h.length_le
    have hp' : ¬ old <+: c :: (s ++ t) := by
      rwa [← List.cons_append, List.isPrefix_append_of_length hlen]
    rw [List.cons_append, replace_cons hp', List.cons_prefix_cons]
    exact fun hc => ih hs hc.2

/-- Replacement by a text with fewer characters of some kind leaves no more of them, and fewer when
there is something to replace. -/
lemma countP_replace {p : Char → Bool} (hold : old ≠ []) (hfewer : new.countP p < old.countP p)
    (s : List Char) : (replace old new s).countP p ≤ s.countP p ∧
      (old <:+: s → (replace old new s).countP p < s.countP p) := by
  induction s using replace_induction hold with
  | nil => exact ⟨le_rfl, fun h => absurd (List.infix_nil.mp h) hold⟩
  | found s ih =>
    rw [replace_append_self hold, List.countP_append, List.countP_append]
    have := ih.1
    constructor <;> intros <;> omega
  | kept c s hp ih =>
    rw [replace_cons hp, List.countP_cons, List.countP_cons]
    refine ⟨by have := ih.1; omega, fun h => ?_⟩
    have := ih.2 ((List.infix_cons_iff.mp h).resolve_left hp)
    omega

section Separators

variable {sep : Char} {word word' : List Char}

/-- A separator in a separated word is its first or its last character. -/
lemma separated_eq_append (hw : sep ∉ word) {a b : List Char}
    (h : sep :: (word ++ [sep]) = a ++ sep :: b) :
    a = [] ∧ b = word ++ [sep] ∨ a = sep :: word ∧ b = [] := by
  cases a with
  | nil => exact .inl ⟨rfl, (List.cons.inj h).2.symm⟩
  | cons x a =>
    obtain ⟨rfl, htail⟩ := List.cons.inj h
    obtain ⟨rfl, -, rfl⟩ := (List.append_cons_inj_of_notMem hw List.not_mem_nil).mp htail
    exact .inr ⟨rfl, rfl⟩

/-- A prefix of two texts is one of the first, or goes on into the second. -/
lemma prefix_append_cases {u : List Char} (h : old <+: u ++ t) :
    old <+: u ∨ ∃ v, v ≠ [] ∧ old = u ++ v ∧ v <+: t := by
  rcases le_total old.length u.length with hlen | hlen
  · exact .inl ((List.isPrefix_append_of_length hlen).mp h)
  · obtain ⟨v, rfl⟩ := List.prefix_of_prefix_length_le (List.prefix_append u t) h hlen
    rcases eq_or_ne v [] with rfl | hv
    · exact .inl (by simp)
    · exact .inr ⟨v, hv, rfl, (List.prefix_append_right_inj u).mp h⟩

/-- A text without separators stands on one side of a separator. -/
lemma infix_or_infix_of_not_mem {w a b : List Char} (hw : sep ∉ w) (h : w <:+: a ++ sep :: b) :
    w <:+: a ∨ w <:+: b := by
  have front : ∀ {u}, w <+: u ++ sep :: b → w <+: u := by
    intro u hp
    refine (prefix_append_cases hp).resolve_right ?_
    rintro ⟨v, hv, rfl, hvb⟩
    obtain ⟨x, v, rfl⟩ := List.exists_cons_of_ne_nil hv
    obtain ⟨rfl, -⟩ := List.cons_prefix_cons.mp hvb
    exact hw (by simp)
  induction a with
  | nil =>
    rcases List.infix_cons_iff.mp h with hp | hin
    · exact .inl (front hp).isInfix
    · exact .inr hin
  | cons c a ih =>
    rcases List.infix_cons_iff.mp h with hp | hin
    · exact .inl (front (u := c :: a) hp).isInfix
    · exact (ih hin).imp_left fun ha => ha.trans (List.suffix_cons c a).isInfix

/-- After a separator, only the rest of a separated word at the very beginning can complete an
occurrence. -/
lemma separate_of_not_prefix (hw : sep ∉ word) (h : ¬ word ++ [sep] <+: t) :
    Separate (sep :: (word ++ [sep])) (s ++ [sep]) t := by
  intro u hu hne hp
  rcases prefix_append_cases hp with hp | ⟨v, hv, heq, hvt⟩
  · exact hp
  · exfalso
    obtain ⟨u', rfl⟩ : ∃ u', u = u' ++ [sep] := by
      rcases List.suffix_concat_iff.mp hu with rfl | ⟨u', rfl, -⟩
      · exact absurd rfl hne
      · exact ⟨u', rfl⟩
    rw [List.append_assoc, List.singleton_append] at heq
    rcases separated_eq_append hw heq with ⟨-, rfl⟩ | ⟨-, rfl⟩
    · exact h hvt
    · exact hv rfl

/-- Before a separator, only an occurrence that ends there can meet the boundary. -/
lemma separate_of_not_infix (hw : sep ∉ word) (h : ¬ sep :: (word ++ [sep]) <:+: s ++ [sep]) :
    Separate (sep :: (word ++ [sep])) s (sep :: t) := by
  intro u hu hne hp
  rcases prefix_append_cases hp with hp | ⟨v, hv, heq, hvt⟩
  · exact hp
  · exfalso
    obtain ⟨x, v', rfl⟩ := List.exists_cons_of_ne_nil hv
    obtain ⟨rfl, -⟩ := List.cons_prefix_cons.mp hvt
    rcases separated_eq_append hw heq with ⟨rfl, -⟩ | ⟨rfl, rfl⟩
    · exact hne rfl
    · exact h (List.suffix_append_self_iff.mpr hu).isInfix

/-- Text before the first separator stays as it is. -/
lemma replace_append_of_not_mem {a : List Char} (h : sep ∉ a) (b : List Char) :
    replace (sep :: word) new (a ++ b) = a ++ replace (sep :: word) new b := by
  induction a with
  | nil => rfl
  | cons c a ih =>
    rw [List.mem_cons, not_or] at h
    have hp : ¬ sep :: word <+: c :: (a ++ b) := fun hp => h.1 (List.cons_prefix_cons.mp hp).1
    rw [List.cons_append, replace_cons hp, ih h.2, List.cons_append]

/-- Text from a separator on still begins with it when separated words are replaced. -/
lemma replace_sep (hold : old = sep :: (word ++ [sep])) (hnew : new = sep :: (word' ++ [sep]))
    (t : List Char) : ∃ r, replace old new (sep :: t) = sep :: r := by
  by_cases hp : old <+: sep :: t
  · obtain ⟨r, hr⟩ := hp
    rw [← hr, replace_append_self (by simp [hold]), hnew]
    exact ⟨_, rfl⟩
  · exact ⟨_, replace_cons hp⟩

end Separators

end StubPlan.Chars
