import Mathlib.Data.List.Infix
import Mathlib.Tactic.Common
import StubPlan.Path
import StubPlan.Proofs.Text.Blank
import StubPlan.Proofs.Text.Split

/-! Joined paths. A part that is blank leaves no trace, so a joined path is blank only when it is
empty, and the last part can be taken off again. -/
namespace StubPlan

namespace Chars

variable {sep : Char} {a b : List Char}

lemma cutAt?_of_not_mem (h : sep ∉ a) : cutAt? sep a = none := by
  induction a with
  | nil => rfl
  | cons c rest ih =>
    rw [List.mem_cons, not_or] at h
    rw [cutAt?, if_neg (Ne.symm h.1), ih h.2]
    rfl

lemma cutAt?_append (h : sep ∉ a) (b : List Char) : cutAt? sep (a ++ sep :: b) = some (a, b) := by
  induction a with
  | nil => simp [cutAt?]
  | cons c rest ih =>
    rw [List.mem_cons, not_or] at h
    rw [List.cons_append, cutAt?, if_neg (Ne.symm h.1), ih h.2]
    rfl

lemma cutAtLast?_of_not_mem (h : sep ∉ a) : cutAtLast? sep a = none := by
  rw [cutAtLast?, cutAt?_of_not_mem (by simpa using h)]
  rfl

lemma cutAtLast?_append (a : List Char) (h : sep ∉ b) :
    cutAtLast? sep (a ++ sep :: b) = some (a, b) := by
  have hrev : (a ++ sep :: b).reverse = b.reverse ++ sep :: a.reverse := by simp
  rw [cutAtLast?, hrev, cutAt?_append (by simpa using h)]
  simp

lemma eq_of_cutAt? {s : List Char} (h : cutAt? sep s = some (a, b)) : s = a ++ sep :: b := by
  induction s generalizing a with
  | nil => exact absurd h (by simp [cutAt?])
  | cons c rest ih =>
    rw [cutAt?] at h
    split at h
    · next hc =>
      obtain ⟨rfl, rfl⟩ := Prod.mk.inj (Option.some.inj h)
      rw [hc, List.nil_append]
    · obtain ⟨⟨before, after⟩, hcut, heq⟩ := Option.map_eq_some_iff.mp h
      obtain ⟨rfl, rfl⟩ := Prod.mk.inj heq
      rw [ih hcut, List.cons_append]

lemma eq_of_cutAtLast? {s : List Char} (h : cutAtLast? sep s = some (a, b)) :
    s = a ++ sep :: b := by
  obtain ⟨⟨after, before⟩, hcut, heq⟩ := Option.map_eq_some_iff.mp h
  obtain ⟨rfl, rfl⟩ := Prod.mk.inj heq
  have hrev := congrArg List.reverse (eq_of_cutAt? hcut)
  simpa using hrev

end Chars

namespace Path
open Text

@[simp] lemma join_nil : join [] = "" := rfl

lemma join_cons_of_isBlank {part : String} (h : isBlank part = true)
    (rest : List (Option String)) : join (some part :: rest) = join rest := by
  rw [join, List.filterMap_cons_none (present?_of_isBlank h), join]

lemma not_isBlank_join {first : String} (h : isBlank first = false) (rest : List String) :
    isBlank (Text.join "/" (first :: rest)) = false := by
  cases rest with
  | nil => rw [join_singleton, h]
  | cons next rest => simp [join_cons_cons, h]

/-- Where some part is left, the join is not blank. -/
lemma not_isBlank_join_of_present {parts : List (Option String)} {first : String}
    {rest : List String} (h : parts.filterMap present? = first :: rest) :
    isBlank (join parts) = false := by
  have hmem : first ∈ parts.filterMap present? := by simp [h]
  obtain ⟨part, -, hpart⟩ := List.mem_filterMap.mp hmem
  rw [join, h]
  exact not_isBlank_join (not_isBlank_of_present? hpart) rest

/-- A path that is empty or names something. -/
def IsProper (dir : String) : Prop := isBlank dir = true → dir = ""

lemma isProper_join (parts : List (Option String)) : IsProper (join parts) := by
  rcases h : parts.filterMap present? with _ | ⟨first, rest⟩
  · intro _
    rw [join, h]
    rfl
  · intro hblank
    rw [not_isBlank_join_of_present h] at hblank
    contradiction

lemma join_cons_of_not_isBlank {part : String} (h : isBlank part = false)
    (rest : List (Option String)) :
    join (some part :: rest) = if join rest = "" then part else part ++ "/" ++ join rest := by
  have hcons : join (some part :: rest) = Text.join "/" (part :: rest.filterMap present?) := by
    rw [join, List.filterMap_cons_some (present?_of_not_isBlank h)]
  rcases hrest : rest.filterMap present? with _ | ⟨next, more⟩
  · have hempty : join rest = "" := by
      rw [join, hrest]
      rfl
    rw [hcons, hrest, if_pos hempty, join_singleton]
  · have hne : join rest ≠ "" := ne_empty_of_not_isBlank (not_isBlank_join_of_present hrest)
    rw [hcons, hrest, if_neg hne, join_cons_cons, join, hrest]

section Pair

variable {dir name : String}

/-- A blank name leaves the directory as it is. -/
lemma join_of_isBlank (hdir : IsProper dir) (h : isBlank name = true) :
    join [some dir, some name] = dir := by
  rcases hd : isBlank dir with _ | _
  · rw [join_cons_of_not_isBlank hd, join_cons_of_isBlank h, if_pos join_nil]
  · rw [join_cons_of_isBlank hd, join_cons_of_isBlank h, hdir hd, join_nil]

lemma join_one (h : isBlank name = false) : join [some name] = name := by
  rw [join_cons_of_not_isBlank h, if_pos join_nil]

/-- The output folder itself is not named in a path. -/
lemma join_root (h : isBlank name = false) : join [some "", some name] = name := by
  rw [join_cons_of_isBlank isBlank_empty, join_one h]

lemma join_below (hdir : isBlank dir = false) (h : isBlank name = false) :
    join [some dir, some name] = dir ++ "/" ++ name := by
  rw [join_cons_of_not_isBlank hdir, join_one h, if_neg (ne_empty_of_not_isBlank h)]

/-- A proper directory is the output folder itself or not blank. -/
lemma IsProper.cases (hdir : IsProper dir) : dir = "" ∨ isBlank dir = false := by
  rcases hd : isBlank dir with _ | _
  · exact .inr rfl
  · exact .inl (hdir hd)

lemma length_lt_join (hdir : IsProper dir) (h : isBlank name = false) :
    dir.length < (join [some dir, some name]).length := by
  have hname : name.length ≠ 0 := fun h0 =>
    ne_empty_of_not_isBlank h (String.length_eq_zero_iff.mp h0)
  rcases hdir.cases with rfl | hd
  · simp only [join_root h, String.length_empty]
    omega
  · simp only [join_below hd h, String.length_append]
    omega

lemma length_join_le (dir name : String) :
    (join [some dir, some name]).length ≤ dir.length + 1 + name.length := by
  rcases hd : isBlank dir with _ | _ <;> rcases hn : isBlank name with _ | _
  · simp only [join_below hd hn, String.length_append]
    exact le_rfl
  · rw [join_cons_of_not_isBlank hd, join_cons_of_isBlank hn, if_pos join_nil]
    omega
  · rw [join_cons_of_isBlank hd, join_one hn]
    omega
  · rw [join_cons_of_isBlank hd, join_cons_of_isBlank hn, join_nil, String.length_empty]
    omega

/-- A directory is not one of those below it. -/
lemma join_ne_of_isBlank {other : String} (hdir : IsProper dir) (hn : isBlank name = false)
    (ho : isBlank other = true) : join [some dir, some name] ≠ join [some dir, some other] := by
  intro h
  have hlt := length_lt_join hdir hn
  rw [h, join_of_isBlank hdir ho] at hlt
  exact lt_irrefl _ hlt

/-- Names below one directory stand for different paths, unless both are blank. -/
lemma join_left_inj {other : String} (hdir : IsProper dir) :
    join [some dir, some name] = join [some dir, some other] ↔
      name = other ∨ isBlank name = true ∧ isBlank other = true := by
  rcases hn : isBlank name with _ | _ <;> rcases ho : isBlank other with _ | _
  · rcases hdir.cases with rfl | hd
    · simp [join_root hn, join_root ho]
    · simp [join_below hd hn, join_below hd ho]
  · refine iff_of_false (join_ne_of_isBlank hdir hn ho) ?_
    rintro (rfl | ⟨h, -⟩)
    · simp [hn] at ho
    · simp at h
  · refine iff_of_false (join_ne_of_isBlank hdir ho hn).symm ?_
    rintro (rfl | ⟨-, h⟩)
    · simp [hn] at ho
    · simp at h
  · simp [join_of_isBlank hdir hn, join_of_isBlank hdir ho]

end Pair

section Steps

variable (front parts : List (Option String))

lemma join_join : join [some (join parts)] = join parts := by
  rcases (isProper_join parts).cases with h | h
  · rw [h]
    rfl
  · exact join_one h

/-- What is joined at once can be joined in two steps, the parts in front first. -/
lemma join_append : join (front ++ parts) = join (some (join front) :: parts) := by
  induction front with
  | nil => rw [List.nil_append, join_nil, join_cons_of_isBlank isBlank_empty]
  | cons part front ih =>
    rcases part with _ | part
    · exact ih
    rcases h : isBlank part with _ | _
    · have hfront : isBlank (join (some part :: front)) = false :=
        not_isBlank_join_of_present (List.filterMap_cons_some (present?_of_not_isBlank h))
      rw [List.cons_append, join_cons_of_not_isBlank h, ih, join_cons_of_not_isBlank hfront,
        join_cons_of_not_isBlank h]
      rcases (isProper_join front).cases with hjoin | hjoin
      · rw [if_pos hjoin, hjoin, join_cons_of_isBlank isBlank_empty]
      · have hall : join (some (join front) :: parts) ≠ "" := ne_empty_of_not_isBlank
          (not_isBlank_join_of_present (List.filterMap_cons_some (present?_of_not_isBlank hjoin)))
        rw [if_neg hall, if_neg (ne_empty_of_not_isBlank hjoin), join_cons_of_not_isBlank hjoin]
        split <;> simp only [String.append_assoc]
    · rw [List.cons_append, join_cons_of_isBlank h, join_cons_of_isBlank h, ih]

/-- The parts behind the first may be joined before it. -/
lemma join_cons_join (part : Option String) : join [part, some (join parts)] = join (part :: parts) := by
  rcases part with _ | part
  · exact join_join parts
  rcases h : isBlank part with _ | _
  · rw [join_cons_of_not_isBlank h, join_cons_of_not_isBlank h, join_join]
  · rw [join_cons_of_isBlank h, join_cons_of_isBlank h, join_join]

/-- Joining in stages, the parts in front by themselves and the others by themselves, is joining at
once. -/
lemma join_stages : join (front ++ parts) = join [some (join front), some (join parts)] := by
  rw [join_append, join_cons_join]

lemma join_cons_empty (part : Option String) : join (part :: some "" :: parts) = join (part :: parts) := by
  rw [← join_cons_join, join_cons_of_isBlank isBlank_empty, join_cons_join]

/-- Nothing is joined only where no part is left. -/
lemma join_eq_empty_iff {parts : List (Option String)} :
    join parts = "" ↔ ∀ part ∈ parts, present? part = none := by
  rw [← List.filterMap_eq_nil_iff]
  rcases h : parts.filterMap present? with _ | ⟨first, rest⟩
  · rw [join, h]
    exact iff_of_true rfl rfl
  · have hne := ne_empty_of_not_isBlank (not_isBlank_join_of_present h)
    exact iff_of_false hne (List.cons_ne_nil first rest)

end Steps

/-- The directory that holds a directory. The output folder itself is not held by any. -/
def parent? (dir : String) : Option String :=
  if dir = "" then none
  else some (String.ofList (((Chars.cutAtLast? '/' dir.toList).map (·.1)).getD []))

lemma parent?_join {dir name : String} (hdir : IsProper dir) (h : isBlank name = false)
    (hname : '/' ∉ name.toList) : parent? (join [some dir, some name]) = some dir := by
  have hne : join [some dir, some name] ≠ "" := by
    intro hempty
    have hlt := length_lt_join hdir h
    simp [hempty] at hlt
  rw [parent?, if_neg hne]
  rcases hdir.cases with rfl | hd
  · rw [join_root h, Chars.cutAtLast?_of_not_mem hname]
    rfl
  · have hall : (dir ++ "/" ++ name).toList = dir.toList ++ '/' :: name.toList := by simp
    rw [join_below hd h, hall, Chars.cutAtLast?_append dir.toList hname]
    simp

/-- Directory and name can be read off the path of a file. -/
lemma join_inj {dir other name name' : String} (hdir : IsProper dir) (hother : IsProper other)
    (h : isBlank name = false) (h' : isBlank name' = false) (hname : '/' ∉ name.toList)
    (hname' : '/' ∉ name'.toList) :
    join [some dir, some name] = join [some other, some name'] ↔ dir = other ∧ name = name' := by
  constructor
  · intro heq
    have hup := congrArg parent? heq
    rw [parent?_join hdir h hname, parent?_join hother h' hname'] at hup
    obtain rfl := Option.some.inj hup
    rcases (join_left_inj hdir).mp heq with heq | ⟨hblank, -⟩
    · exact ⟨rfl, heq⟩
    · simp [h] at hblank
  · rintro ⟨rfl, rfl⟩
    rfl

/-- Every directory is longer than the one that holds it. -/
lemma length_lt_of_parent? {dir up : String} (h : parent? dir = some up) :
    up.length < dir.length := by
  rw [parent?, Option.ite_none_left_eq_some] at h
  obtain ⟨hne, hup⟩ := h
  have hpos : dir.length ≠ 0 := fun h0 => hne (String.length_eq_zero_iff.mp h0)
  rcases hcut : Chars.cutAtLast? '/' dir.toList with _ | ⟨before, after⟩
  · rw [hcut] at hup
    obtain rfl : "" = up := Option.some.inj hup
    simp only [String.length_empty]
    omega
  · rw [hcut] at hup
    obtain rfl : String.ofList before = up := Option.some.inj hup
    have hlen := congrArg List.length (Chars.eq_of_cutAtLast? hcut)
    simp only [String.length_toList, List.length_append, List.length_cons] at hlen
    rw [String.length_ofList]
    omega

end Path
end StubPlan
