import StubPlan.Path
import StubPlan.Proofs.Text.Trim

/-! Context paths that are made of context paths. What is made of a text can be mounted under, but the
blanks at its ends are taken off before the slashes: a blank that stands before the last slashes comes
to light only then, and is lost the next time. -/
namespace StubPlan.Path
open Chars
open Text (isBlankChar)

/-- Whether an application can be mounted under a path: at the root, which is written as nothing, or
under an absolute path without a slash at its end. -/
def IsMount (path : String) : Prop :=
  path = "" ∨ path.toList.head? = some '/' ∧ path.toList.getLast? ≠ some '/'

/-- The texts without a slash at their end have none to be taken off there. -/
lemma dropEndWhile_slash_eq_self_iff {s : List Char} :
    dropEndWhile (· = '/') s = s ↔ s.getLast? ≠ some '/' := by
  rw [dropEndWhile_eq_self_iff]
  cases s.getLast? <;> simp

lemma isMount_dropEndWhile {s : List Char} (h : s.head? = some '/') :
    IsMount (String.ofList (dropEndWhile (· = '/') s)) := by
  have hlast : (dropEndWhile (· = '/') s).getLast? ≠ some '/' :=
    dropEndWhile_slash_eq_self_iff.mp (List.rdropWhile_idempotent (· = '/') s)
  rw [IsMount, String.toList_ofList]
  -- slashes are taken off the end only, so that the first one stays unless nothing does
  obtain ⟨cut, hcut⟩ := prefix_dropEndWhile (· = '/') s
  rcases hleft : dropEndWhile (· = '/') s with - | ⟨c, rest⟩
  · exact .inl rfl
  · rw [hleft] at hlast hcut
    rw [← hcut] at h
    exact .inr ⟨h, hlast⟩

/-- A context path is a mount path, whatever it is made of. -/
lemma isMount_context (raw : Option String) : IsMount (context raw) := by
  unfold context
  split
  · exact .inl rfl
  · next c rest _ =>
    refine isMount_dropEndWhile ?_
    split
    · next hslash => rw [hslash]; rfl
    · rfl

/-- An absolute path has no blank at its beginning. -/
lemma exists_trim_eq (s : List Char) : ∃ rest, trim ('/' :: s) = '/' :: rest ∧
    dropEndWhile isBlankChar ('/' :: s) = '/' :: rest := by
  have hdrop : ('/' :: s).dropWhile isBlankChar = '/' :: s :=
    List.dropWhile_cons_of_neg (by decide)
  have htrim : trim ('/' :: s) = dropEndWhile isBlankChar ('/' :: s) := by
    rw [trim, dropEndsWhile, hdrop]
  have hslash : '/' ∈ trim ('/' :: s) := mem_dropEndsWhile List.mem_cons_self (by decide)
  obtain ⟨cut, hcut⟩ := prefix_dropEndWhile isBlankChar ('/' :: s)
  rw [← htrim] at hcut ⊢
  rcases hleft : trim ('/' :: s) with - | ⟨c, rest⟩
  · rw [hleft] at hslash
    exact absurd hslash List.not_mem_nil
  · rw [hleft] at hcut
    obtain ⟨rfl, -⟩ := List.cons.inj hcut
    exact ⟨rest, rfl, rfl⟩

/-- What is made of an absolute path has lost blanks and then slashes at its end, nothing else. -/
lemma toList_context_absolute {path : String} (h : path.toList.head? = some '/') :
    (context (some path)).toList =
      dropEndWhile (· = '/') (dropEndWhile isBlankChar path.toList) := by
  obtain ⟨s, hpath⟩ := List.head?_eq_some_iff.mp h
  obtain ⟨rest, htrim, hend⟩ := exists_trim_eq s
  rw [context, Option.getD_some, hpath, htrim, hend]
  exact String.toList_ofList

/-- The paths that stay as they are are the mount paths that do not end in a blank. -/
lemma context_eq_self_iff {path : String} :
    context (some path) = path ↔
      IsMount path ∧ path.toList.getLast?.all (!isBlankChar ·) := by
  constructor
  · intro h
    have hmount : IsMount path := by
      rw [← h]
      exact isMount_context (some path)
    refine ⟨hmount, ?_⟩
    rcases hmount with rfl | ⟨hslash, -⟩
    · rfl
    · have hchars := congrArg String.toList h
      rw [toList_context_absolute hslash] at hchars
      -- both steps only shorten, so that neither has taken anything off
      have hshort := prefix_dropEndWhile (· = '/') (dropEndWhile isBlankChar path.toList)
      rw [hchars] at hshort
      rw [← dropEndWhile_eq_self_iff]
      exact (prefix_dropEndWhile isBlankChar path.toList).sublist.antisymm hshort.sublist
  · rintro ⟨rfl | ⟨hslash, hlast⟩, hblank⟩
    · rfl
    · apply String.toList_inj.mp
      rw [toList_context_absolute hslash, dropEndWhile_eq_self_iff.mpr hblank,
        dropEndWhile_slash_eq_self_iff.mpr hlast]

/-- A context path ends as the text does of which it is made, without blanks at the ends and then
without slashes at the end. -/
lemma getLast?_context (raw : Option String) :
    (context raw).toList.getLast? =
      (dropEndWhile (· = '/') (trim (raw.getD "").toList)).getLast? := by
  unfold context
  split
  · next hnil => rw [hnil]; rfl
  · next c rest hcons =>
    rw [hcons, String.toList_ofList]
    split
    · rfl
    · next hc =>
      have hall : (c :: rest).all (· = '/') = false := by simp [hc]
      obtain ⟨cut, hcut, hleft⟩ := exists_dropEndWhile_append (· = '/') (c :: rest)
      have hne : dropEndWhile (· = '/') (c :: rest) ≠ [] := by
        intro hnil
        rw [hnil, List.nil_append] at hleft
        exact hc (by simpa using hcut c (hleft ▸ List.mem_cons_self))
      have hslash := dropEndWhile_append (· = '/') ['/'] (c :: rest)
      rw [hall] at hslash
      have hslash : dropEndWhile (· = '/') ('/' :: c :: rest) =
          ['/'] ++ dropEndWhile (· = '/') (c :: rest) := hslash
      rw [hslash, List.getLast?_append_of_ne_nil _ hne]

/-- A context path that is made once more stays the same exactly when the text of which it is made,
without the blanks at its ends and then without the slashes at its end, does not end in a blank. -/
theorem context_context_iff (raw : Option String) :
    context (some (context raw)) = context raw ↔
      (dropEndWhile (· = '/') (trim (raw.getD "").toList)).getLast?.all (!isBlankChar ·) := by
  rw [context_eq_self_iff, getLast?_context, and_iff_right (isMount_context raw)]

/-- A blank before the last slash is left the first time and lost the second time. -/
theorem context_context_ne_shop :
    context (some "/shop /") = "/shop " ∧ context (some "/shop ") = "/shop" ∧
      context (some (context (some "/shop /"))) ≠ context (some "/shop /") := by
  decide

end StubPlan.Path
