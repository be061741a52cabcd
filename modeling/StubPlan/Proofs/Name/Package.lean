import StubPlan.Name.Package
import StubPlan.Proofs.Text.Split

/-! The form of package names: tokens over small letters, digits and underscores, none of which
begins with a digit, with single dots between them. -/
namespace StubPlan.Name
open Chars

/-- Whether a text is one token of a package name. -/
def isToken : List Char → Bool
  | [] => false
  | c :: rest => (isSmall c || c = '_') && rest.all isTokenChar

/-- Whether a text is a dotted package name. -/
def isPackageName (s : List Char) : Bool := (splitAt '.' s).all isToken

lemma isTokenChar_dot : isTokenChar '.' = false := by decide

lemma isTokenChar_of_isToken {t : List Char} (h : isToken t) : ∀ x ∈ t, isTokenChar x := by
  cases t with
  | nil => exact absurd h (by decide)
  | cons c rest =>
    obtain ⟨hc, hrest⟩ := Bool.and_eq_true_iff.mp h
    intro x hx
    rcases List.mem_cons.mp hx with rfl | hx
    · simp only [Bool.or_eq_true, decide_eq_true_eq] at hc
      simp only [isTokenChar, Bool.or_eq_true, decide_eq_true_eq]
      tauto
    · exact List.all_eq_true.mp hrest x hx

lemma dot_not_mem_of_isToken {t : List Char} (h : isToken t) : '.' ∉ t := fun hd =>
  absurd (isTokenChar_of_isToken h '.' hd) (by simp [isTokenChar_dot])

/-- Whatever a segment looks like, a token is made of it. -/
lemma isToken_tokenChars (segment : List Char) : isToken (tokenChars segment) := by
  have hall : ∀ x ∈ (snakeChars (joinSeparated segment)).filter isTokenChar, isTokenChar x :=
    fun x hx => (List.mem_filter.mp hx).2
  unfold tokenChars
  split
  · decide
  · next c rest heq =>
    rw [heq] at hall
    have hc := hall c (by simp)
    have hrest : rest.all isTokenChar := List.all_eq_true.mpr fun x hx => hall x (by simp [hx])
    split
    · simp only [isToken, List.all_cons, hc, hrest]
      decide
    · next hdigit =>
      simp only [isTokenChar, Bool.or_eq_true, hdigit] at hc
      simpa [isToken, hrest] using hc

/-- Every text, or none, gives a dotted package name. -/
theorem isPackageName_packageName (raw fallback : Option String) :
    isPackageName (packageName raw fallback).toList := by
  have htokens : ∀ t ∈ packageTokens (packageCandidate raw fallback), isToken t := by
    intro t ht
    obtain ⟨segment, -, rfl⟩ := List.mem_map.mp ht
    exact isToken_tokenChars _
  unfold packageName
  split
  · decide
  · next tokens hne =>
    rw [String.toList_ofList, isPackageName, splitAt_intercalate hne
      fun t ht => dot_not_mem_of_isToken (htokens t ht)]
    exact List.all_eq_true.mpr htokens

/-- A package name begins with a letter or an underscore, not with a dot. -/
lemma exists_cons_of_isPackageName {s : List Char} (h : isPackageName s) :
    ∃ c rest, s = c :: rest ∧ c ≠ '.' := by
  obtain ⟨first, more, hs⟩ := splitAt_eq_cons '.' s
  have hfirst : isToken first := List.all_eq_true.mp h first (by simp [hs])
  obtain ⟨rest, rfl⟩ := first_prefix hs
  cases first with
  | nil => exact absurd hfirst (by decide)
  | cons c first =>
    refine ⟨c, first ++ rest, rfl, ?_⟩
    rintro rfl
    exact dot_not_mem_of_isToken hfirst (by simp)

end StubPlan.Name
