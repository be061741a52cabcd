import StubPlan.Proofs.Path.Join

/-! The segments of joined paths. A part that is joined last keeps its segments, and they end the
joined path. -/
namespace StubPlan

namespace Chars

/-- Where no new separator was before, writing one for an old one keeps the pieces. -/
lemma splitAt_map_ite {old new : Char} {s : List Char} (h : new ∉ s) :
    splitAt new (s.map fun c => if c = old then new else c) = splitAt old s := by
  induction s with
  | nil => rfl
  | cons c rest ih =>
    rw [List.mem_cons, not_or] at h
    by_cases hc : c = old
    · subst hc
      rw [List.map_cons, if_pos rfl, splitAt_sep, splitAt_sep, ih h.2]
    · obtain ⟨first, more, hrest⟩ := splitAt_eq_cons old rest
      have hmap := (ih h.2).trans hrest
      rw [List.map_cons, if_neg hc, splitAt_cons (Ne.symm h.1) hmap, splitAt_cons hc hrest]

end Chars

namespace Path
open Text

/-- The segments of two paths with a slash between them. -/
lemma segments_append (a b : List Char) :
    segments (a ++ '/' :: b) = segments a ++ segments b := by
  simp [segments, Chars.splitAt_append]

lemma join_cons_none (rest : List (Option String)) : join (none :: rest) = join rest := rfl

/-- The segments of the last part end a joined path, whatever stands before it. -/
lemma segments_suffix_join (dir : Option String) {name : String} (h : isBlank name = false) :
    segments name.toList <:+ segments (join [dir, some name]).toList := by
  rcases dir with _ | dir
  · rw [join_cons_none, join_one h]
  · rcases hdir : isBlank dir with _ | _
    · have hall : (dir ++ "/" ++ name).toList = dir.toList ++ '/' :: name.toList := by simp
      rw [join_below hdir h, hall, segments_append]
      exact List.suffix_append _ _
    · rw [join_cons_of_isBlank hdir, join_one h]

/-- A path whose last segment is a name ends with it. -/
lemma lastSegment_eq_iff {path name : String} (h : name ≠ "") :
    lastSegment path = name ↔ [name.toList] <:+ segments path.toList := by
  rw [lastSegment]
  constructor
  · intro hlast
    rcases hsegments : (segments path.toList).getLast? with _ | segment
    · rw [hsegments] at hlast
      exact absurd hlast.symm h
    · rw [hsegments] at hlast
      obtain ⟨before, hbefore⟩ := List.getLast?_eq_some_iff.mp hsegments
      have hname : segment = name.toList := by
        rw [← hlast, Option.getD_some, String.toList_ofList]
      rw [hbefore, hname]
      exact List.suffix_append _ _
  · rintro ⟨before, hbefore⟩
    rw [← hbefore, List.getLast?_append]
    simp

end Path
end StubPlan
