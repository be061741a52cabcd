import Mathlib.Data.List.Forall2
import Mathlib.Tactic.Common

/-! How a computation that may fail ends, read off from how its parts end. -/

/-- What stands in one of two related lists is related to something in the other one. -/
lemma List.Forall₂.exists_of_mem {α β : Type} {r : α → β → Prop} {xs : List α} {ys : List β}
    (h : List.Forall₂ r xs ys) {a : α} (ha : a ∈ xs) : ∃ b ∈ ys, r a b := by
  induction h with
  | nil => exact absurd ha List.not_mem_nil
  | @cons c d _ _ hcd _ ih =>
    rcases List.mem_cons.mp ha with rfl | ha
    · exact ⟨d, List.mem_cons_self, hcd⟩
    · obtain ⟨b, hb, hrel⟩ := ih ha
      exact ⟨b, List.mem_cons_of_mem d hb, hrel⟩

namespace Except

variable {ε δ α β : Type} {x : Except ε α} {e : ε} {a : α} {b : β}

@[simp] lemma map_eq_ok_iff {f : α → β} : x.map f = .ok b ↔ ∃ a, x = .ok a ∧ f a = b := by
  cases x <;> simp [Except.map]

@[simp] lemma map_eq_error_iff {f : α → β} : x.map f = .error e ↔ x = .error e := by
  cases x <;> simp [Except.map]

@[simp] lemma mapError_eq_ok_iff {f : ε → δ} : x.mapError f = .ok a ↔ x = .ok a := by
  cases x <;> simp [Except.mapError]

@[simp] lemma mapError_eq_error_iff {f : ε → δ} {d : δ} :
    x.mapError f = .error d ↔ ∃ e, x = .error e ∧ f e = d := by
  cases x <;> simp [Except.mapError]

lemma ok_bind (a : α) (f : α → Except ε β) : .ok a >>= f = f a := rfl

@[simp] lemma bind_eq_ok_iff {f : α → Except ε β} :
    x >>= f = .ok b ↔ ∃ a, x = .ok a ∧ f a = .ok b := by
  cases x <;> simp [bind, Except.bind]

/-- Two steps fail when the first one does, or the second one on what the first gives. -/
@[simp] lemma bind_eq_error_iff {f : α → Except ε β} :
    x >>= f = .error e ↔ x = .error e ∨ ∃ a, x = .ok a ∧ f a = .error e := by
  cases x <;> simp [bind, Except.bind]

/-- A first step that can fail in one way only adds that way to those of a second one, if the second
does not depend on what the first gives. -/
lemma bind_eq_error_iff_or {f : α → Except ε β} {p : Prop} (hx : ∀ d, x = .error d → d = e)
    (hf : ∀ a, f a = .error e ↔ p) : x >>= f = .error e ↔ x = .error e ∨ p := by
  rcases x with d | a
  · simp [bind, Except.bind, hx d rfl]
  · simp [bind, Except.bind, hf]

section Steps

variable {xs : List α}

/-- Steps taken one after another fail as one of them does. -/
lemma exists_of_mapM_eq_error {f : α → Except ε β} (h : xs.mapM f = .error e) :
    ∃ a ∈ xs, f a = .error e := by
  induction xs with
  | nil => exact absurd h (by simp [pure, Except.pure])
  | cons a rest ih =>
    rw [List.mapM_cons, bind_eq_error_iff] at h
    obtain h | ⟨b, -, h⟩ := h
    · exact ⟨a, List.mem_cons_self, h⟩
    · obtain h | ⟨bs, -, h⟩ := bind_eq_error_iff.mp h
      · obtain ⟨c, hc, h⟩ := ih h
        exact ⟨c, List.mem_cons_of_mem a hc, h⟩
      · exact absurd h (by simp [pure, Except.pure])

/-- Steps taken one after another give what each of them gives. -/
lemma forall₂_of_mapM_eq_ok {f : α → Except ε β} {ys : List β} (h : xs.mapM f = .ok ys) :
    List.Forall₂ (fun a b => f a = .ok b) xs ys := by
  induction xs generalizing ys with
  | nil =>
    obtain rfl : [] = ys := by simpa [pure, Except.pure] using h
    exact .nil
  | cons a rest ih =>
    rw [List.mapM_cons, bind_eq_ok_iff] at h
    obtain ⟨b, hb, h⟩ := h
    obtain ⟨bs, hbs, hys⟩ := bind_eq_ok_iff.mp h
    obtain rfl : b :: bs = ys := by simpa [pure, Except.pure] using hys
    exact .cons hb (ih hbs)

lemma exists_of_mapM_eq_ok {f : α → Except ε β} {ys : List β} (h : xs.mapM f = .ok ys)
    (ha : a ∈ xs) : ∃ b ∈ ys, f a = .ok b :=
  (forall₂_of_mapM_eq_ok h).exists_of_mem ha

/-- Steps succeed together when each of them does. -/
lemma exists_mapM_eq_ok_iff {f : α → Except ε β} :
    (∃ ys, xs.mapM f = .ok ys) ↔ ∀ a ∈ xs, ∃ b, f a = .ok b := by
  constructor
  · rintro ⟨ys, h⟩ a ha
    exact (exists_of_mapM_eq_ok h ha).imp fun _ hb => hb.2
  · intro h
    rcases hm : xs.mapM f with e | ys
    · obtain ⟨a, ha, he⟩ := exists_of_mapM_eq_error hm
      obtain ⟨b, hb⟩ := h a ha
      exact absurd (hb.symm.trans he) (by simp)
    · exact ⟨ys, rfl⟩

/-- What steps give together is given by one of them. -/
lemma exists_of_mem_of_mapM_eq_ok {f : α → Except ε β} {ys : List β} (h : xs.mapM f = .ok ys)
    (hb : b ∈ ys) : ∃ a ∈ xs, f a = .ok b :=
  (forall₂_of_mapM_eq_ok h).flip.exists_of_mem hb

/-- What steps take is found from what they give, if that can be undone in each of them. -/
lemma map_eq_of_mapM_eq_ok {f : α → Except ε β} {g : β → α} {ys : List β}
    (hfg : ∀ a b, f a = .ok b → g b = a) (h : xs.mapM f = .ok ys) : ys.map g = xs := by
  have hsame : List.Forall₂ (· = ·) xs (ys.map g) :=
    List.forall₂_map_right_iff.mpr
      ((forall₂_of_mapM_eq_ok h).imp fun a b hb => (hfg a b hb).symm)
  rw [List.forall₂_eq_eq_eq] at hsame
  exact hsame.symm

/-- Steps that can fail in one way only fail together when one of them does. -/
lemma mapM_eq_error_iff {f : α → Except ε β} (hf : ∀ a ∈ xs, ∀ d, f a = .error d → d = e) :
    xs.mapM f = .error e ↔ ∃ a ∈ xs, f a = .error e := by
  refine ⟨exists_of_mapM_eq_error, ?_⟩
  rintro ⟨a, ha, h⟩
  rcases hm : xs.mapM f with d | ys
  · obtain ⟨c, hc, hd⟩ := exists_of_mapM_eq_error hm
    rw [hf c hc d hd]
  · obtain ⟨b, -, hb⟩ := exists_of_mapM_eq_ok hm ha
    exact absurd (h.symm.trans hb) (by simp)

lemma exists_of_foldlM_eq_error {f : β → α → Except ε β} (h : xs.foldlM f b = .error e) :
    ∃ c, ∃ a ∈ xs, f c a = .error e := by
  induction xs generalizing b with
  | nil => exact absurd h (by simp [pure, Except.pure])
  | cons a rest ih =>
    rw [List.foldlM_cons, bind_eq_error_iff] at h
    obtain h | ⟨c, -, h⟩ := h
    · exact ⟨b, a, List.mem_cons_self, h⟩
    · obtain ⟨d, x, hx, h⟩ := ih h
      exact ⟨d, x, List.mem_cons_of_mem a hx, h⟩

/-- Steps that are the same one by one are the same together. -/
lemma mapM_congr {f g : α → Except ε β} (h : ∀ a ∈ xs, f a = g a) : xs.mapM f = xs.mapM g := by
  induction xs with
  | nil => rfl
  | cons a rest ih =>
    rw [List.mapM_cons, List.mapM_cons, h a List.mem_cons_self,
      ih fun b hb => h b (List.mem_cons_of_mem a hb)]

lemma foldlM_congr {f g : β → α → Except ε β} (h : ∀ b, ∀ a ∈ xs, f b a = g b a) (b : β) :
    xs.foldlM f b = xs.foldlM g b := by
  induction xs generalizing b with
  | nil => rfl
  | cons a rest ih =>
    rw [List.foldlM_cons, List.foldlM_cons, h b a List.mem_cons_self]
    exact bind_congr fun c => ih (fun d x hx => h d x (List.mem_cons_of_mem a hx)) c

end Steps

/-- When a first step and the second one on what it gives are told in another way, both together are
told in that way. -/
lemma mapError_map_bind {γ : Type} {f : α → γ} {g : ε → δ} {next : α → Except ε β}
    {next' : γ → Except δ β} (h : ∀ a, x = .ok a → next' (f a) = (next a).mapError g) :
    (x.map f).mapError g >>= next' = (x >>= next).mapError g := by
  rcases x with e | a
  · rfl
  · exact h a rfl

end Except

/-- Steps that may give nothing give nothing together when one of them does. -/
lemma Option.mapM_eq_none_iff {α β : Type} {f : α → Option β} {xs : List α} :
    xs.mapM f = none ↔ ∃ a ∈ xs, f a = none := by
  induction xs with
  | nil => simp
  | cons a rest ih =>
    rw [List.mapM_cons]
    rcases ha : f a with - | b
    · simp [ha]
    · rcases hrest : rest.mapM f with - | bs
      · simpa [ha, hrest] using ih.mp hrest
      · simpa [ha, hrest] using ih
