import Mathlib.Data.List.TakeWhile
import Mathlib.Tactic.Common
import StubPlan.Console.Emoji

/-! Names of emoji in a text. What replaces them is written with ordinary characters, so nothing that
markup or a console acts on comes into a text with its emoji. -/
namespace StubPlan.Emoji

/-- The characters that neither mark a tag nor control a console. -/
def isOrdinary (c : Char) : Bool := 93 ≤ c.toNat || (14 ≤ c.toNat && c.toNat ≤ 90)

lemma isOrdinary_of_isPictorial {c : Char} (h : isPictorial c) : isOrdinary c := by
  have hascii : c.isDigit → isOrdinary c := fun hdigit => by
    simp only [Char.isDigit_iff_toNat, Char.reduceToNat] at hdigit
    simp only [isOrdinary, Bool.or_eq_true, Bool.and_eq_true, decide_eq_true_eq]
    omega
  simp only [isPictorial, Bool.or_eq_true, decide_eq_true_eq] at h
  obtain ((hwide | hdigit) | rfl) | rfl := h
  · simp only [isOrdinary, Bool.or_eq_true, decide_eq_true_eq]
    omega
  · exact hascii hdigit
  · decide
  · decide

lemma isOrdinary_of_find? {name line e : List Char} (h : find? name line = some e) :
    ∀ c ∈ e, isOrdinary c := by
  induction line using find?.induct name with
  | case1 => exact absurd h (by simp [find?])
  | case2 c rest hfront =>
    rw [find?, if_pos hfront] at h
    obtain rfl := Option.some.inj h
    exact fun x hx => isOrdinary_of_isPictorial (List.mem_takeWhile_imp hx)
  | case3 c rest hfront ih =>
    rw [find?, if_neg hfront] at h
    exact ih h

lemma isOrdinary_of_mem_splitForm (name : List Char) {c : Char} (h : c ∈ (splitForm name).2) :
    isOrdinary c := by
  unfold splitForm at h
  split at h
  · next form selector hform =>
    have hforms : ∀ f ∈ forms, isOrdinary f.2 := by decide
    rw [List.mem_singleton.mp h]
    exact hforms _ (List.mem_of_find?_eq_some hform)
  · exact absurd h List.not_mem_nil

lemma isOrdinary_of_named? {name e : List Char} (h : named? name = some e) :
    ∀ c ∈ e, isOrdinary c := by
  obtain ⟨picture, hpicture, rfl⟩ := Option.map_eq_some_iff.mp h
  obtain ⟨line, -, hfind⟩ := List.exists_of_findSome?_eq_some hpicture
  intro c hc
  rcases List.mem_append.mp hc with hc | hc
  · exact isOrdinary_of_find? hfind c hc
  · exact isOrdinary_of_mem_splitForm name hc

lemma eq_of_name? {s name rest : List Char} (h : name? s = some (name, rest)) :
    s = name ++ ':' :: rest := by
  unfold name? at h
  split at h
  · next after hafter =>
    obtain ⟨rfl, rfl⟩ : s.takeWhile inName = name ∧ after = rest := by simpa using h
    rw [← hafter, List.takeWhile_append_dropWhile]
  · cases h

/-- Emoji bring no characters into a text but ordinary ones. -/
lemma countP_expand_le {p : Char → Bool} (hp : ∀ c, isOrdinary c → p c = false) (s : List Char) :
    (expand s).countP p ≤ s.countP p := by
  induction s using expand.induct with
  | case1 => simp [expand]
  | case2 rest name after hname ih =>
    have hnamed : ((named? name).getD (':' :: name ++ [':'])).countP p ≤
        (':' :: name ++ [':']).countP p := by
      rcases h : named? name with - | e
      · exact le_rfl
      · have hzero : e.countP p = 0 :=
          List.countP_eq_zero.mpr fun c hc => by simp [hp c (isOrdinary_of_named? h c hc)]
        rw [Option.getD_some, hzero]
        exact Nat.zero_le _
    have hrest : ':' :: rest = (':' :: name ++ [':']) ++ after := by simp [eq_of_name? hname]
    rw [expand]
    split
    · next name' after' hname' =>
      obtain ⟨rfl, rfl⟩ : name = name' ∧ after = after' := by simpa using hname.symm.trans hname'
      rw [hrest, List.countP_append, List.countP_append]
      exact Nat.add_le_add hnamed ih
    · next hnone => exact absurd (hname.symm.trans hnone) (by simp)
  | case3 rest hname ih =>
    rw [expand]
    split
    · next hsome => exact absurd (hname.symm.trans hsome) (by simp)
    · rw [List.countP_cons, List.countP_cons]
      exact Nat.add_le_add_right ih _
  | case4 c rest hc ih =>
    rw [expand, List.countP_cons, List.countP_cons]
    · exact Nat.add_le_add_right ih _
    · exact hc

/-- Text without colons stays as it is. -/
lemma expand_append {a : List Char} (h : ':' ∉ a) (s : List Char) :
    expand (a ++ s) = a ++ expand s := by
  induction a with
  | nil => rfl
  | cons c a ih =>
    rw [List.mem_cons, not_or] at h
    rw [List.cons_append, expand, ih h.2, List.cons_append]
    exact fun hc => h.1 hc.symm

lemma expand_eq_self {s : List Char} (h : ':' ∉ s) : expand s = s := by
  simpa [expand] using expand_append h []

end StubPlan.Emoji
