import Mathlib.Data.List.Forall2
import Mathlib.Data.List.Infix

/-! Boundaries inside a text, told by what stands before them and after them. A text is searched from left
to right, and each match is taken as long as it can be and cut at its boundary; no two matches share a
character. Whichever way the matches fall, a function that cuts every match and keeps every character at
which none begins is this search. -/
namespace StubPlan.Text

/-- What a part of a match takes: one character of a class, or one or more of them. -/
inductive Part where
  | one (p : Char → Bool)
  | many (p : Char → Bool)

namespace Part

/-- Whether a piece of text is one that a part may take. -/
def Takes : Part → List Char → Prop
  | one p, piece => ∃ c, p c ∧ piece = [c]
  | many p, piece => piece ≠ [] ∧ ∀ c ∈ piece, p c

/-- The pieces that the parts take from the beginning of a text, and the text after them. A part that may
take several characters takes all that it can, and gives them back one by one until the parts after it
find theirs. -/
def pieces? : List Part → List Char → Option (List (List Char) × List Char)
  | [], s => some ([], s)
  | _ :: _, [] => none
  | one p :: parts, c :: s =>
    if p c then (pieces? parts s).map fun (pieces, rest) => ([c] :: pieces, rest) else none
  | many p :: parts, c :: s =>
    if p c then
      match pieces? (many p :: parts) s with
      | some (piece :: pieces, rest) => some ((c :: piece) :: pieces, rest)
      | _ => (pieces? parts s).map fun (pieces, rest) => ([c] :: pieces, rest)
    else none

variable {parts : List Part} {pieces : List (List Char)} {s rest : List Char}

/-- What the parts take stands at the beginning of the text, and each takes what it may. -/
lemma eq_of_pieces? (h : pieces? parts s = some (pieces, rest)) :
    List.Forall₂ Takes parts pieces ∧ s = pieces.flatten ++ rest := by
  fun_induction pieces? parts s generalizing pieces rest with
  | case1 s =>
    obtain ⟨rfl, rfl⟩ := Prod.mk.inj (Option.some.inj h)
    exact ⟨.nil, rfl⟩
  | case2 => exact absurd h (by simp)
  | case3 p parts c s hc ih =>
    obtain ⟨⟨after, rest⟩, hafter, heq⟩ := Option.map_eq_some_iff.mp h
    obtain ⟨rfl, rfl⟩ := Prod.mk.inj heq
    obtain ⟨htakes, rfl⟩ := ih hafter
    exact ⟨.cons ⟨c, hc, rfl⟩ htakes, rfl⟩
  | case4 => exact absurd h (by simp)
  | case5 p parts c s hc piece after rest' hmore ih =>
    obtain ⟨rfl, rfl⟩ := Prod.mk.inj (Option.some.inj h)
    obtain ⟨htakes, rfl⟩ := ih hmore
    obtain ⟨hpiece, hafter⟩ := List.forall₂_cons.mp htakes
    exact ⟨.cons ⟨by simp, List.forall_mem_cons.mpr ⟨hc, hpiece.2⟩⟩ hafter, rfl⟩
  | case6 p parts c s hc hmore ihmore ih =>
    obtain ⟨⟨after, rest⟩, hafter, heq⟩ := Option.map_eq_some_iff.mp h
    obtain ⟨rfl, rfl⟩ := Prod.mk.inj heq
    obtain ⟨htakes, rfl⟩ := ih hafter
    exact ⟨.cons ⟨by simp, by simpa using hc⟩ htakes, rfl⟩
  | case7 => exact absurd h (by simp)

/-- Characters of a class, as many as there are of them here, can be taken before what comes after. -/
lemma isSome_pieces?_many {p : Char → Bool} {piece : List Char} (hne : piece ≠ [])
    (hall : ∀ c ∈ piece, p c) (h : (pieces? parts s).isSome) :
    (pieces? (many p :: parts) (piece ++ s)).isSome := by
  induction piece with
  | nil => exact absurd rfl hne
  | cons c piece ih =>
    obtain ⟨hc, hall⟩ := List.forall_mem_cons.mp hall
    rw [List.cons_append, pieces?, if_pos hc]
    split
    · rfl
    · next hstop =>
      rw [Option.isSome_map]
      cases piece with
      | nil => exact h
      | cons d piece =>
        obtain ⟨⟨more, rest⟩, hmore⟩ := Option.isSome_iff_exists.mp (ih (by simp) hall)
        obtain ⟨x, after, -, -, rfl⟩ := List.forall₂_cons_left_iff.mp (eq_of_pieces? hmore).1
        exact absurd hmore (hstop x after rest)

/-- Where the parts can take something from the beginning of a text, they do. -/
lemma isSome_pieces? (h : List.Forall₂ Takes parts pieces) (rest : List Char) :
    (pieces? parts (pieces.flatten ++ rest)).isSome := by
  induction h with
  | nil => simp [pieces?]
  | @cons part piece parts pieces hpiece _ ih =>
    rw [List.flatten_cons, List.append_assoc]
    cases part with
    | one p =>
      obtain ⟨c, hc, rfl⟩ := hpiece
      simpa [pieces?, hc] using ih
    | many p => exact isSome_pieces?_many hpiece.1 hpiece.2 ih

lemma ne_nil_of_takes {part : Part} {piece : List Char} (h : part.Takes piece) : piece ≠ [] := by
  cases part with
  | one p =>
    obtain ⟨c, -, rfl⟩ := h
    exact List.cons_ne_nil c []
  | many p => exact h.1

end Part

/-- A boundary, by the parts of a match before it and after it. No match is empty. -/
structure Boundary where
  before : List Part
  after : List Part
  before_ne_nil : before ≠ []

namespace Boundary

/-- Whether a match may take the texts `a` and `b` on the two sides of the boundary. -/
def Matches (boundary : Boundary) (a b : List Char) : Prop :=
  ∃ before after, List.Forall₂ Part.Takes boundary.before before ∧
    List.Forall₂ Part.Takes boundary.after after ∧ a = before.flatten ∧ b = after.flatten

/-- The texts on the two sides of the boundary in the match that a text begins with. -/
def match? (boundary : Boundary) (s : List Char) : Option (List Char × List Char) :=
  (Part.pieces? (boundary.before ++ boundary.after) s).map fun (pieces, _) =>
    ((pieces.take boundary.before.length).flatten, (pieces.drop boundary.before.length).flatten)

/-- Put `mark` at the boundary of each match, after leaving out `skip` characters of a match that has
been cut already. -/
def markAfter (boundary : Boundary) (mark : Char) : Nat → List Char → List Char
  | _, [] => []
  | skip + 1, _ :: rest => markAfter boundary mark skip rest
  | 0, c :: rest =>
    match boundary.match? (c :: rest) with
    | some (a, b) => a ++ mark :: (b ++ markAfter boundary mark (a.length + b.length - 1) rest)
    | none => c :: markAfter boundary mark 0 rest

/-- The text with `mark` at the boundary of each match, from left to right. -/
def marked (boundary : Boundary) (mark : Char) (s : List Char) : List Char :=
  markAfter boundary mark 0 s

variable {boundary : Boundary} {mark : Char} {a b s : List Char}

lemma of_match? (h : boundary.match? s = some (a, b)) :
    boundary.Matches a b ∧ a ++ b <+: s := by
  obtain ⟨⟨pieces, rest⟩, hpieces, heq⟩ := Option.map_eq_some_iff.mp h
  obtain ⟨rfl, rfl⟩ := Prod.mk.inj heq
  obtain ⟨htakes, rfl⟩ := Part.eq_of_pieces? hpieces
  refine ⟨⟨pieces.take boundary.before.length, pieces.drop boundary.before.length, ?_, ?_, rfl, rfl⟩, ?_⟩
  · simpa using List.forall₂_take boundary.before.length htakes
  · simpa using List.forall₂_drop boundary.before.length htakes
  · rw [← List.flatten_append, List.take_append_drop]
    exact List.prefix_append _ _

lemma Matches.ne_nil (h : boundary.Matches a b) : a ≠ [] := by
  obtain ⟨before, after, hbefore, -, rfl, -⟩ := h
  obtain ⟨part, parts, hparts⟩ := List.exists_cons_of_ne_nil boundary.before_ne_nil
  rw [hparts] at hbefore
  obtain ⟨piece, pieces, hpiece, -, rfl⟩ := List.forall₂_cons_left_iff.mp hbefore
  simp [Part.ne_nil_of_takes hpiece]

lemma not_prefix_of_match?_eq_none (h : boundary.match? s = none) (hmatch : boundary.Matches a b) :
    ¬ a ++ b <+: s := by
  rintro ⟨rest, rfl⟩
  obtain ⟨before, after, hbefore, hafter, rfl, rfl⟩ := hmatch
  have hsome := Part.isSome_pieces? (List.rel_append hbefore hafter) rest
  rw [List.flatten_append] at hsome
  rw [match?, Option.map_eq_none_iff] at h
  rw [h] at hsome
  exact Bool.false_ne_true hsome

lemma markAfter_eq_drop (boundary : Boundary) (mark : Char) (k : Nat) (s : List Char) :
    boundary.markAfter mark k s = boundary.marked mark (s.drop k) := by
  induction s generalizing k with
  | nil => simp [marked, markAfter]
  | cons c rest ih =>
    cases k with
    | zero => rfl
    | succ k => rw [markAfter, ih, List.drop_succ_cons]

/-- A function that marks the boundary of every match and keeps every character at which none begins is
the search from left to right. -/
lemma marked_eq {f : List Char → List Char} (nil : f [] = [])
    (found : ∀ a b rest, boundary.Matches a b → f (a ++ (b ++ rest)) = a ++ mark :: (b ++ f rest))
    (kept : ∀ c s, (∀ a b, boundary.Matches a b → ¬ a ++ b <+: c :: s) → f (c :: s) = c :: f s)
    (s : List Char) : boundary.marked mark s = f s := by
  induction hn : s.length using Nat.strong_induction_on generalizing s with
  | _ n ih =>
    subst hn
    cases s with
    | nil => exact nil.symm
    | cons c rest =>
      rw [marked, markAfter]
      split
      · next a b hmatch =>
        obtain ⟨hmatches, t, ht⟩ := of_match? hmatch
        have hpos := List.length_pos_of_ne_nil hmatches.ne_nil
        have hdrop : rest.drop (a.length + b.length - 1) = t := by
          rw [← List.drop_succ_cons (a := c), ← ht, Nat.sub_add_cancel (by omega)]
          simp
        have hlen : t.length < (c :: rest).length := by
          rw [← ht, List.length_append, List.length_append]
          omega
        rw [← ht, List.append_assoc, found a b t hmatches, markAfter_eq_drop, hdrop,
          ih t.length hlen t rfl]
      · next hmatch =>
        rw [kept c rest fun a b => not_prefix_of_match?_eq_none hmatch,
          ← ih rest.length (by simp) rest rfl]
        rfl

end Boundary
end StubPlan.Text
