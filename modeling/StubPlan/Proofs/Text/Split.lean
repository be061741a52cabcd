import Mathlib.Data.List.Infix
import StubPlan.Text.Replace

/-! The pieces of a text between separators. Which text stands whole between two separators can be
read off the text or off its pieces. -/
namespace StubPlan

namespace Chars

variable {sep : Char} {s piece : List Char}

lemma splitAt_ne_nil (sep : Char) (s : List Char) : splitAt sep s ≠ [] := by
  cases s with
  | nil => simp [splitAt]
  | cons c rest =>
    rw [splitAt]
    split
    · simp
    · split <;> simp

/-- The first piece and the others. -/
lemma splitAt_eq_cons (sep : Char) (s : List Char) :
    ∃ first more, splitAt sep s = first :: more :=
  List.exists_cons_of_ne_nil (splitAt_ne_nil sep s)

@[simp] lemma splitAt_sep (sep : Char) (s : List Char) :
    splitAt sep (sep :: s) = [] :: splitAt sep s := by
  simp [splitAt]

lemma splitAt_cons {c : Char} {first : List Char} {more : List (List Char)} (hc : c ≠ sep)
    (hs : splitAt sep s = first :: more) : splitAt sep (c :: s) = (c :: first) :: more := by
  simp [splitAt, hc, hs]

lemma splitAt_of_not_mem (h : sep ∉ s) : splitAt sep s = [s] := by
  induction s with
  | nil => rfl
  | cons c rest ih =>
    rw [List.mem_cons, not_or] at h
    exact splitAt_cons (Ne.symm h.1) (ih h.2)

lemma splitAt_append_sep {a : List Char} (h : sep ∉ a) (b : List Char) :
    splitAt sep (a ++ sep :: b) = a :: splitAt sep b := by
  induction a with
  | nil => exact splitAt_sep sep b
  | cons c rest ih =>
    rw [List.mem_cons, not_or] at h
    exact splitAt_cons (Ne.symm h.1) (ih h.2)

/-- The texts on the two sides of the first separator. -/
lemma append_sep_inj {a b t : List Char} (ha : sep ∉ a) (hb : sep ∉ b) :
    a ++ sep :: s = b ++ sep :: t ↔ a = b ∧ s = t := by
  constructor
  · intro h
    have hpieces := congrArg (splitAt sep) h
    rw [splitAt_append_sep ha, splitAt_append_sep hb] at hpieces
    obtain ⟨rfl, -⟩ := List.cons.inj hpieces
    exact ⟨rfl, (List.cons.inj (List.append_cancel_left h)).2⟩
  · rintro ⟨rfl, rfl⟩
    rfl

/-- The text up to a separator takes in all that it begins with and that has no separator. -/
lemma exists_append_of_not_mem {a b t : List Char} (hpiece : sep ∉ piece)
    (h : piece ++ a = t ++ sep :: b) : ∃ rest, t = piece ++ rest ∧ a = rest ++ sep :: b := by
  obtain ⟨rest, ht, ha⟩ | ⟨rest, hp, hb⟩ := List.append_eq_append_iff.mp h
  · exact ⟨rest, ht, ha⟩
  · cases rest with
    | nil => exact ⟨[], by simp [hp], hb.symm⟩
    | cons c rest =>
      obtain ⟨rfl, -⟩ := List.cons.inj hb
      exact absurd (by simp [hp]) hpiece

/-- Pieces without separators are the pieces of the text that they are joined to. -/
lemma splitAt_intercalate {pieces : List (List Char)} (hne : pieces ≠ [])
    (h : ∀ p ∈ pieces, sep ∉ p) : splitAt sep ([sep].intercalate pieces) = pieces := by
  induction pieces with
  | nil => exact absurd rfl hne
  | cons p pieces ih =>
    cases pieces with
    | nil => simpa using splitAt_of_not_mem (h p (by simp))
    | cons q pieces =>
      have htail := ih (by simp) (fun x hx => h x (List.mem_cons_of_mem p hx))
      rw [List.intercalate_cons_cons, List.append_assoc, List.singleton_append,
        splitAt_append_sep (h p (by simp)), htail]

/-- The pieces of two texts with a separator between them. -/
lemma splitAt_append (a b : List Char) :
    splitAt sep (a ++ sep :: b) = splitAt sep a ++ splitAt sep b := by
  induction a with
  | nil => exact splitAt_sep sep b
  | cons c rest ih =>
    by_cases hc : c = sep
    · subst hc
      rw [List.cons_append, splitAt_sep, splitAt_sep, ih, List.cons_append]
    · obtain ⟨first, more, hrest⟩ := splitAt_eq_cons sep rest
      rw [hrest, List.cons_append] at ih
      rw [List.cons_append, splitAt_cons hc ih, splitAt_cons hc hrest, List.cons_append]

/-- The pieces of a text joined again. -/
lemma intercalate_splitAt (sep : Char) (s : List Char) : [sep].intercalate (splitAt sep s) = s := by
  induction s with
  | nil => rfl
  | cons c rest ih =>
    obtain ⟨first, more, hrest⟩ := splitAt_eq_cons sep rest
    by_cases hc : c = sep
    · subst hc
      rw [splitAt_sep, hrest, List.intercalate_cons_cons, ← hrest, ih]
      rfl
    · rw [hrest] at ih
      rw [splitAt_cons hc hrest, ← ih]
      cases more with
      | nil => simp
      | cons next more => simp [List.intercalate_cons_cons]

lemma first_prefix {first : List Char} {more : List (List Char)}
    (hs : splitAt sep s = first :: more) : first <+: s := by
  induction s generalizing first more with
  | nil =>
    obtain ⟨rfl, -⟩ : first = [] ∧ more = [] := by simpa [splitAt, eq_comm] using hs
    exact List.nil_prefix
  | cons c rest ih =>
    by_cases hc : c = sep
    · subst hc
      obtain ⟨rfl, -⟩ := List.cons.inj (hs.symm.trans (splitAt_sep c rest))
      exact List.nil_prefix
    · obtain ⟨first', more', hrest⟩ := splitAt_eq_cons sep rest
      obtain ⟨rfl, -⟩ := List.cons.inj (hs.symm.trans (splitAt_cons hc hrest))
      exact List.cons_prefix_cons.mpr ⟨rfl, ih hrest⟩

/-- Each piece is a part of the text, without separators. -/
lemma mem_splitAt (h : piece ∈ splitAt sep s) : sep ∉ piece ∧ piece <:+: s := by
  induction s generalizing piece with
  | nil =>
    obtain rfl : piece = [] := by simpa [splitAt] using h
    exact ⟨List.not_mem_nil, List.infix_refl _⟩
  | cons c rest ih =>
    have inRest : ∀ {p}, p ∈ splitAt sep rest → sep ∉ p ∧ p <:+: c :: rest := fun hp =>
      ⟨(ih hp).1, (ih hp).2.trans (List.suffix_cons c rest).isInfix⟩
    by_cases hc : c = sep
    · subst hc
      rw [splitAt_sep] at h
      rcases List.mem_cons.mp h with rfl | h
      · exact ⟨List.not_mem_nil, List.nil_infix⟩
      · exact inRest h
    · obtain ⟨first, more, hrest⟩ := splitAt_eq_cons sep rest
      rw [splitAt_cons hc hrest] at h
      rcases List.mem_cons.mp h with rfl | h
      · have hfirst := (inRest (p := first) (by simp [hrest])).1
        refine ⟨by simp [Ne.symm hc, hfirst], ?_⟩
        exact (List.cons_prefix_cons.mpr ⟨rfl, first_prefix hrest⟩).isInfix
      · exact inRest (by simp [hrest, h])

/-- Every character of a text is a separator or is in one of the pieces. -/
lemma eq_or_mem_splitAt (sep : Char) {c : Char} (h : c ∈ s) : c = sep ∨ ∃ p ∈ splitAt sep s, c ∈ p := by
  induction s with
  | nil => exact absurd h List.not_mem_nil
  | cons d rest ih =>
    by_cases hd : d = sep
    · subst hd
      rw [splitAt_sep]
      rcases List.mem_cons.mp h with rfl | h
      · exact .inl rfl
      · exact (ih h).imp_right fun ⟨p, hp, hc⟩ => ⟨p, List.mem_cons_of_mem [] hp, hc⟩
    · obtain ⟨first, more, hrest⟩ := splitAt_eq_cons sep rest
      rw [splitAt_cons hd hrest]
      rw [hrest] at ih
      rcases List.mem_cons.mp h with rfl | h
      · exact .inr ⟨c :: first, by simp, by simp⟩
      · rcases ih h with heq | ⟨p, hp, hc⟩
        · exact .inl heq
        · rcases List.mem_cons.mp hp with rfl | hp
          · exact .inr ⟨d :: p, by simp, List.mem_cons_of_mem d hc⟩
          · exact .inr ⟨p, List.mem_cons_of_mem _ hp, hc⟩

/-- A text without separators stands before the first separator exactly when it is the first
piece. -/
lemma append_sep_prefix_iff {first : List Char} {more : List (List Char)}
    (hs : splitAt sep s = first :: more) (hp : sep ∉ piece) :
    piece ++ [sep] <+: s ++ [sep] ↔ piece = first := by
  induction s generalizing piece first more with
  | nil =>
    obtain ⟨rfl, -⟩ : first = [] ∧ more = [] := by simpa [splitAt, eq_comm] using hs
    cases piece with
    | nil => simp
    | cons x piece => simp
  | cons c rest ih =>
    by_cases hc : c = sep
    · subst hc
      obtain ⟨rfl, -⟩ := List.cons.inj (hs.symm.trans (splitAt_sep c rest))
      cases piece with
      | nil => simp
      | cons x piece =>
        have hx : x ≠ c := fun h => hp (by simp [h])
        simp [List.cons_prefix_cons, hx]
    · obtain ⟨first', more', hrest⟩ := splitAt_eq_cons sep rest
      obtain ⟨rfl, -⟩ := List.cons.inj (hs.symm.trans (splitAt_cons hc hrest))
      cases piece with
      | nil => simp [List.cons_prefix_cons, Ne.symm hc]
      | cons x piece =>
        have hp' : sep ∉ piece := fun h => hp (by simp [h])
        simp [List.cons_prefix_cons, ih hrest hp']

/-- A text without separators stands between two of them exactly when it is a piece other than the
first. The end of the text counts as a separator. -/
lemma sep_append_sep_infix_iff (hp : sep ∉ piece) :
    sep :: (piece ++ [sep]) <:+: s ++ [sep] ↔ piece ∈ (splitAt sep s).tail := by
  induction s with
  | nil =>
    refine iff_of_false (fun h => ?_) (by simp [splitAt])
    have := h.length_le
    simp at this
  | cons c rest ih =>
    obtain ⟨first, more, hrest⟩ := splitAt_eq_cons sep rest
    rw [hrest, List.tail_cons] at ih
    rw [List.cons_append, List.infix_cons_iff, ih, List.cons_prefix_cons,
      append_sep_prefix_iff hrest hp]
    by_cases hc : c = sep
    · subst hc
      simp [hrest]
    · simp [splitAt_cons hc hrest, Ne.symm hc]

end Chars

namespace Text

lemma join_singleton (sep a : String) : join sep [a] = a := by
  simp [join]

lemma join_cons_cons (sep a b : String) (rest : List String) :
    join sep (a :: b :: rest) = a ++ sep ++ join sep (b :: rest) := by
  apply String.toList_inj.mp
  simp [join, List.intercalate_cons_cons]

lemma join_splitAt (s : String) : join "." (splitAt '.' s) = s := by
  have hpieces : (splitAt '.' s).map String.toList = Chars.splitAt '.' s.toList := by
    rw [splitAt, List.map_map]
    exact List.map_id'' (fun _ => String.toList_ofList) _
  have hdot : ".".toList = ['.'] := rfl
  rw [join, hpieces, hdot, Chars.intercalate_splitAt, String.ofList_toList]

lemma splitAt_inj {a b : String} : splitAt '.' a = splitAt '.' b ↔ a = b := by
  refine ⟨fun h => ?_, congrArg (splitAt '.')⟩
  rw [← join_splitAt a, h, join_splitAt]

/-- Segments without dots are the pieces of the text that they are joined to. -/
lemma toList_splitAt_join {segments : List String} (hne : segments ≠ [])
    (hdots : ∀ s ∈ segments, '.' ∉ s.toList) :
    Chars.splitAt '.' (join "." segments).toList = segments.map String.toList := by
  have hdot : ".".toList = ['.'] := rfl
  rw [join, String.toList_ofList, hdot]
  exact Chars.splitAt_intercalate (by simpa using hne) (by simpa using hdots)

lemma splitAt_join {segments : List String} (hne : segments ≠ [])
    (hdots : ∀ s ∈ segments, '.' ∉ s.toList) : splitAt '.' (join "." segments) = segments := by
  rw [splitAt, toList_splitAt_join hne hdots, List.map_map]
  exact List.map_id'' (fun _ => String.ofList_toList) _

/-- The pieces of two texts with a dot between them. -/
lemma splitAt_dot (a b : String) : splitAt '.' (a ++ "." ++ b) = splitAt '.' a ++ splitAt '.' b := by
  have hall : (a ++ "." ++ b).toList = a.toList ++ '.' :: b.toList := by simp
  rw [splitAt, hall, Chars.splitAt_append, List.map_append]
  rfl

lemma sep_not_mem_of_mem_splitAt {sep : Char} {s piece : String} (h : piece ∈ splitAt sep s) :
    sep ∉ piece.toList := by
  obtain ⟨chars, hc, rfl⟩ := List.mem_map.mp h
  rw [String.toList_ofList]
  exact (Chars.mem_splitAt hc).1

end Text
end StubPlan
