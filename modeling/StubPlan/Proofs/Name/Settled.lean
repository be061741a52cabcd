import StubPlan.Proofs.Layout.Directory
import StubPlan.Proofs.Name.SnakeCase
import StubPlan.Proofs.Text.Replace
import StubPlan.Proofs.Text.Trim

/-! Texts that are package names already. Such a text is the package that is named after it. Blanks at
the ends of a text do not change what package it names, because each segment is trimmed. -/
namespace StubPlan

namespace Chars
open Text

variable {sep : Char} {a b s : List Char}

/-- A text is what is left of it by trimming, between blanks. -/
lemma exists_append_trim (s : List Char) :
    ∃ a b, isBlank a ∧ isBlank b ∧ s = a ++ (trim s ++ b) := by
  have hcut := List.takeWhile_append_dropWhile (p := isBlankChar)
    (l := (s.dropWhile isBlankChar).reverse)
  have hrev := congrArg List.reverse hcut
  rw [List.reverse_append, List.reverse_reverse] at hrev
  refine ⟨s.takeWhile isBlankChar, ((s.dropWhile isBlankChar).reverse.takeWhile isBlankChar).reverse,
    List.all_takeWhile, ?_, ?_⟩
  · rw [isBlank, List.all_reverse]
    exact List.all_takeWhile
  · rw [trim, dropEndsWhile, dropEndWhile, hrev, List.takeWhile_append_dropWhile]

lemma trim_append_left (h : isBlank a) (s : List Char) : trim (a ++ s) = trim s := by
  rw [trim, dropEndsWhile, List.dropWhile_append_of_pos (List.all_eq_true.mp h), trim, dropEndsWhile]

lemma trim_append_right (h : isBlank b) (s : List Char) : trim (s ++ b) = trim s := by
  rcases hs : isBlank s with _ | _
  · obtain ⟨c, hc, hblank⟩ := List.all_eq_false.mp hs
    have hne : s.dropWhile isBlankChar ≠ [] := by
      intro hnil
      exact hblank (List.dropWhile_eq_nil_iff.mp hnil c hc)
    have hdrop : (s ++ b).dropWhile isBlankChar = s.dropWhile isBlankChar ++ b := by
      rw [List.dropWhile_append, if_neg (by simpa using hne)]
    have hrev : ∀ c ∈ b.reverse, isBlankChar c := fun c hc =>
      List.all_eq_true.mp h c (List.mem_reverse.mp hc)
    rw [trim, dropEndsWhile, hdrop, dropEndWhile, List.reverse_append,
      List.dropWhile_append_of_pos hrev, trim, dropEndsWhile, dropEndWhile]
  · have hall : isBlank (s ++ b) := by rw [isBlank, List.all_append, ← isBlank, ← isBlank, hs, h]; rfl
    rw [trim_of_isBlank hall, trim_of_isBlank hs]

/-- What stands before a text without a separator goes to its first piece. -/
lemma splitAt_append_left {first : List Char} {more : List (List Char)} (h : sep ∉ a)
    (hs : splitAt sep s = first :: more) : splitAt sep (a ++ s) = (a ++ first) :: more := by
  induction a with
  | nil => exact hs
  | cons c rest ih =>
    rw [List.mem_cons, not_or] at h
    exact splitAt_cons (Ne.symm h.1) (ih h.2)

/-- What stands behind a text without a separator goes to its last piece. -/
lemma splitAt_append_right {init : List (List Char)} {last : List Char} (h : sep ∉ b)
    (hs : splitAt sep s = init ++ [last]) : splitAt sep (s ++ b) = init ++ [last ++ b] := by
  induction s generalizing init last with
  | nil =>
    have hsingle : init ++ [last] = [] ++ [[]] := hs.symm
    obtain ⟨rfl, hlast⟩ := List.append_inj' hsingle rfl
    obtain rfl : last = [] := List.singleton_inj.mp hlast
    exact splitAt_of_not_mem h
  | cons c rest ih =>
    by_cases hc : c = sep
    · subst hc
      rw [splitAt_sep] at hs
      cases init with
      | nil => exact absurd (List.cons.inj hs).2 (splitAt_ne_nil c rest)
      | cons p init =>
        obtain ⟨rfl, hrest⟩ := List.cons.inj hs
        rw [List.cons_append, splitAt_sep, ih hrest, List.cons_append]
    · obtain ⟨first, more, hrest⟩ := splitAt_eq_cons sep rest
      rw [splitAt_cons hc hrest] at hs
      cases init with
      | nil =>
        obtain ⟨rfl, rfl⟩ := List.cons.inj hs
        have hlast : splitAt sep (rest ++ b) = [] ++ [first ++ b] := ih hrest
        exact splitAt_cons hc hlast
      | cons p init =>
        obtain ⟨rfl, rfl⟩ := List.cons.inj hs
        have hlast : splitAt sep (rest ++ b) = (first :: init) ++ [last ++ b] := ih hrest
        exact splitAt_cons hc hlast

lemma sep_not_mem_of_isBlank (hsep : isBlankChar sep = false) (h : isBlank a) : sep ∉ a := by
  intro hmem
  rw [List.all_eq_true.mp h sep hmem] at hsep
  exact Bool.noConfusion hsep

/-- Blanks at the ends of a text are gone when its pieces are trimmed. -/
lemma map_trim_splitAt_trim (hsep : isBlankChar sep = false) (s : List Char) :
    (splitAt sep (trim s)).map trim = (splitAt sep s).map trim := by
  obtain ⟨a, b, ha, hb, heq⟩ := exists_append_trim s
  generalize trim s = t at heq
  subst heq
  obtain ⟨init, last, hlast⟩ := List.eq_nil_or_concat' (splitAt sep t) |>.resolve_left
    (splitAt_ne_nil sep t)
  have hright := splitAt_append_right (sep_not_mem_of_isBlank hsep hb) hlast
  obtain ⟨first, more, hfirst⟩ := splitAt_eq_cons sep (t ++ b)
  have hleft := splitAt_append_left (sep_not_mem_of_isBlank hsep ha) hfirst
  calc (splitAt sep t).map trim = (splitAt sep (t ++ b)).map trim := by
        rw [hlast, hright, List.map_append, List.map_append, List.map_singleton,
          List.map_singleton, trim_append_right hb]
    _ = (splitAt sep (a ++ (t ++ b))).map trim := by
        rw [hfirst, hleft, List.map_cons, List.map_cons, trim_append_left ha]

end Chars

namespace Name
open Chars

/-- The tokens of a dotted name are made of its trimmed pieces, of those that are left. -/
lemma packageTokens_eq (candidate : List Char) :
    packageTokens candidate =
      (((splitAt '.' candidate).map trim).filter (!isBlank ·)).map tokenChars := by
  rw [packageTokens, List.filter_map, List.map_map]
  refine congrArg₂ List.map rfl (List.filter_congr fun piece _ => ?_)
  rw [Function.comp_apply, isBlank_trim]

lemma packageTokens_trim (candidate : List Char) :
    packageTokens (trim candidate) = packageTokens candidate := by
  rw [packageTokens_eq, packageTokens_eq, map_trim_splitAt_trim (by decide)]

/-- The tokens that a text gives as a package name. -/
lemma packageName_of_candidate {raw fallback raw' fallback' : Option String}
    (h : packageTokens (packageCandidate raw fallback) =
      packageTokens (packageCandidate raw' fallback')) :
    packageName raw fallback = packageName raw' fallback' := by
  rw [packageName, packageName, h]

/-- A single dot names the package after the fallback. -/
lemma packageName_dot (name : String) :
    packageName (some ".") (some name) = packageName (some name) none := by
  apply packageName_of_candidate
  have hdot : trim ['.'] = ['.'] := by decide
  have hgiven : packageCandidate (some name) none = trim name.toList := by
    simp [packageCandidate]
  rw [hgiven, packageTokens_trim]
  by_cases hname : name = ""
  · subst hname
    decide
  · simp [packageCandidate, hdot, hname]

section Settled

lemma toNat_of_isTokenChar {c : Char} (h : isTokenChar c) :
    48 ≤ c.toNat ∧ c.toNat ≤ 57 ∨ c.toNat = 95 ∨ 97 ≤ c.toNat ∧ c.toNat ≤ 122 := by
  simp only [isTokenChar, isSmall, Bool.or_eq_true, Bool.and_eq_true, decide_eq_true_eq] at h
  rcases h with (h | h) | rfl
  · exact .inr (.inr h)
  · exact .inl h
  · exact .inr (.inl rfl)

lemma not_isCapital_of_isTokenChar {c : Char} (h : isTokenChar c) : isCapital c = false := by
  have hnat := toNat_of_isTokenChar h
  simp only [isCapital, Bool.and_eq_false_iff, decide_eq_false_iff_not]
  change ¬ 65 ≤ c.toNat ∨ ¬ c.toNat ≤ 90
  omega

lemma isUpper_eq_isCapital (c : Char) : c.isUpper = isCapital c :=
  Bool.decide_and _ _

lemma isSnakeChar_of_isTokenChar {c : Char} (h : isTokenChar c) : IsSnakeChar c := by
  have hne : ∀ {x : Char}, isTokenChar x = false → c ≠ x := by
    rintro x hx rfl
    rw [h] at hx
    contradiction
  have hnat := toNat_of_isTokenChar h
  have hupper : c.isUpper = false := (isUpper_eq_isCapital c).trans (not_isCapital_of_isTokenChar h)
  refine ⟨?_, hne (by decide), hne (by decide), hne (by decide)⟩
  rw [Unicode.lowerChar_of_lt (by omega), Unicode.toLower_eq_self hupper]

lemma joinSeparated_of_isTokenChar {s : List Char} (h : ∀ c ∈ s, isTokenChar c) :
    joinSeparated s = s :=
  joinSeparated_eq_self (fun hc => (isSnakeChar_of_isTokenChar (h '-' hc)).ne_hyphen rfl)
    fun hc => (isSnakeChar_of_isTokenChar (h ' ' hc)).ne_space rfl

/-- A token is the token that is made of it. -/
lemma tokenChars_eq_self {t : List Char} (h : isToken t) : tokenChars t = t := by
  have hchars := isTokenChar_of_isToken h
  have hkept : (snakeChars (joinSeparated t)).filter isTokenChar = t := by
    rw [joinSeparated_of_isTokenChar hchars,
      snakeChars_eq_self_iff.mpr fun c hc => isSnakeChar_of_isTokenChar (hchars c hc)]
    exact List.filter_eq_self.mpr hchars
  unfold tokenChars
  rw [hkept]
  cases t with
  | nil => exact absurd h (by decide)
  | cons c rest =>
    have hc : isSmall c ∨ c = '_' := by simpa using (Bool.and_eq_true_iff.mp h).1
    refine if_neg ?_
    simp only [Bool.and_eq_true, decide_eq_true_eq]
    change ¬ (48 ≤ c.toNat ∧ c.toNat ≤ 57)
    rcases hc with hsmall | rfl
    · simp only [isSmall, Bool.and_eq_true, decide_eq_true_eq] at hsmall
      have hlow : 97 ≤ c.toNat := hsmall.1
      omega
    · decide

/-- The tokens of a package name are its segments. -/
lemma packageTokens_eq_splitAt {s : List Char} (h : isPackageName s) :
    packageTokens s = splitAt '.' s := by
  have htoken : ∀ t ∈ splitAt '.' s, isToken t := List.all_eq_true.mp h
  have htrim : ∀ t ∈ splitAt '.' s, trim t = t := fun t ht => trim_eq_self fun c hc =>
    not_isBlankChar_of_isTokenChar (isTokenChar_of_isToken (htoken t ht) c hc)
  have hall : (splitAt '.' s).filter (!isBlank ·) = splitAt '.' s := by
    refine List.filter_eq_self.mpr fun t ht => ?_
    cases t with
    | nil => exact absurd (htoken [] ht) (by decide)
    | cons c rest =>
      have hc := not_isBlankChar_of_isTokenChar
        (isTokenChar_of_isToken (htoken _ ht) c List.mem_cons_self)
      simp [isBlank, hc]
  rw [packageTokens, hall]
  refine (List.map_congr_left fun t ht => ?_).trans (List.map_id _)
  rw [htrim t ht, tokenChars_eq_self (htoken t ht), id]

/-- A package name is the package that is named after it, whatever the fallback. -/
lemma packageName_eq_self {name : String} (h : isPackageName name.toList)
    (fallback : Option String) : packageName (some name) fallback = name := by
  have htrim : trim name.toList = name.toList := trim_eq_self (not_isBlankChar_of_isPackageName h)
  have hdot : name.toList ≠ ['.'] := by
    intro hdot
    rw [hdot] at h
    exact absurd h (by decide)
  have hcandidate : packageCandidate (some name) fallback = name.toList := by
    simp [packageCandidate, htrim, hdot]
  rw [packageName, hcandidate, packageTokens_eq_splitAt h]
  obtain ⟨first, more, hpieces⟩ := splitAt_eq_cons '.' name.toList
  rw [hpieces]
  change String.ofList (['.'].intercalate (first :: more)) = name
  rw [← hpieces, intercalate_splitAt, String.ofList_toList]

end Settled

lemma isPackageName_of_isToken {t : List Char} (h : isToken t) : isPackageName t := by
  rw [isPackageName, splitAt_of_not_mem (dot_not_mem_of_isToken h), List.all_cons, h]
  rfl

/-- A package name without dots is a token. -/
lemma isToken_of_isPackageName {s : List Char} (h : isPackageName s) (hdot : '.' ∉ s) :
    isToken s := by
  rw [isPackageName, splitAt_of_not_mem hdot] at h
  simpa using h

end Name
end StubPlan
