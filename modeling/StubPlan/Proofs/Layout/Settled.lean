import StubPlan.Layout
import StubPlan.Proofs.Text.Trim

/-! Layouts that are resolved again from their own values. Blanks around a directory option are taken
off before the slashes at its ends, and a lone dot counts as nothing before that too; so what stands
between the slashes may look different the second time. -/
namespace StubPlan

namespace Path
open Chars Text

/-- What stands between the slashes at the ends of a directory option. -/
def innerChars (raw : Option String) : List Char :=
  dropEndsWhile (· = '/') (trim (raw.getD "").toList)

/-- Whether a directory option has shown all of itself once it is normalized: it is `.`, or between
the slashes at its ends there is neither a lone dot nor a text with a blank at an end. -/
def IsSettled (raw : Option String) : Prop :=
  trim (raw.getD "").toList = ['.'] ∨
    innerChars raw ≠ ['.'] ∧ endsOutside isBlankChar (innerChars raw)

instance (raw : Option String) : Decidable (IsSettled raw) := by
  unfold IsSettled
  infer_instance

lemma normalizeRelative_eq (raw : Option String) :
    normalizeRelative raw =
      if trim (raw.getD "").toList = ['.'] then "" else String.ofList (innerChars raw) := rfl

lemma innerChars_ofList (s : List Char) :
    innerChars (some (String.ofList s)) = dropEndsWhile (· = '/') (trim s) := by
  rw [innerChars, Option.getD_some, String.toList_ofList]

/-- A text without slashes at its ends is found again between slashes when it has no blanks at its
ends either. -/
lemma innerChars_ofList_innerChars_iff (raw : Option String) :
    innerChars (some (String.ofList (innerChars raw))) = innerChars raw ↔
      endsOutside isBlankChar (innerChars raw) := by
  rw [innerChars_ofList, ← dropEndsWhile_eq_self_iff]
  constructor
  · intro h
    have hsub := (dropEndsWhile_sublist (· = '/') (trim (innerChars raw))).trans
      (List.dropWhile_sublist _)
    rw [h] at hsub
    exact (trim_sublist _).antisymm hsub
  · intro h
    rw [Chars.trim, h, innerChars, dropEndsWhile_dropEndsWhile]

/-- Normalizing a directory option once is enough exactly when the option is settled. -/
lemma normalizeRelative_normalizeRelative_iff (raw : Option String) :
    normalizeRelative (some (normalizeRelative raw)) = normalizeRelative raw ↔ IsSettled raw := by
  rw [IsSettled, normalizeRelative_eq raw]
  split
  · next hdot => exact iff_of_true rfl (.inl hdot)
  · next hdot =>
    rw [or_iff_right hdot, ← innerChars_ofList_innerChars_iff, normalizeRelative_eq,
      Option.getD_some, String.toList_ofList]
    split
    · next hinner =>
      -- a lone dot may be left with blanks around it or alone, and is lost in either case
      refine iff_of_false (fun h => ?_) fun ⟨hne, hsame⟩ => ?_
      · have hempty : innerChars raw = [] := String.ofList_injective h.symm
        rw [hempty] at hinner
        exact absurd hinner (by decide)
      · rw [innerChars_ofList, hinner] at hsame
        exact hne hsame.symm
    · next hinner =>
      rw [String.ofList_inj]
      refine ⟨fun h => ⟨fun heq => ?_, h⟩, fun h => h.2⟩
      rw [heq] at hinner
      exact hinner (by decide)

end Path

namespace Layout
open StubPlan.Path

/-- The layout that a layout's own values give. -/
def again (l : Layout) : Layout :=
  resolve l.packageName l.outputFolder (some l.sourceRoot) (some l.testsRoot)
    (some l.handlerPackage)

section Resolve

variable (packageName : String) (outputFolder sourceRoot testsRoot handlerPackage : Option String)

lemma sourceRoot_resolve :
    (resolve packageName outputFolder sourceRoot testsRoot handlerPackage).sourceRoot =
      normalizeRelative sourceRoot := rfl

lemma testsRoot_resolve :
    (resolve packageName outputFolder sourceRoot testsRoot handlerPackage).testsRoot =
      normalizeRelative testsRoot := rfl

/-- A directory option counts only by its normalized form, and a handler package without the blanks at
its ends. -/
lemma resolve_congr {source tests handlers : Option String}
    (hsource : normalizeRelative source = normalizeRelative sourceRoot)
    (htests : normalizeRelative tests = normalizeRelative testsRoot)
    (hhandlers : Text.trim ((Text.present? handlers).getD (packageName ++ ".handlers")) =
      Text.trim ((Text.present? handlerPackage).getD (packageName ++ ".handlers"))) :
    resolve packageName outputFolder source tests handlers =
      resolve packageName outputFolder sourceRoot testsRoot handlerPackage := by
  simp only [resolve, hsource, htests, hhandlers]

/-- The handler package that is given, or the one that stands for none, names something. -/
lemma not_isBlank_handlerPackage :
    Text.isBlank ((Text.present? handlerPackage).getD (packageName ++ ".handlers")) = false := by
  rcases hgiven : Text.present? handlerPackage with _ | name
  · have hhandlers : Text.isBlank ".handlers" = false := by decide
    simp [hhandlers]
  · exact Text.not_isBlank_of_present? hgiven

/-- Resolving again normalizes the directory options once more and changes nothing else. -/
lemma again_resolve :
    (resolve packageName outputFolder sourceRoot testsRoot handlerPackage).again =
      resolve packageName outputFolder (some (normalizeRelative sourceRoot))
        (some (normalizeRelative testsRoot)) handlerPackage := by
  have hhandlers := Text.present?_trim (not_isBlank_handlerPackage packageName handlerPackage)
  refine resolve_congr packageName outputFolder _ _ handlerPackage rfl rfl ?_
  rw [resolve, hhandlers, Option.getD_some, Text.trim_trim]

end Resolve

/-- A layout that is resolved again from its own values stays the same exactly when the source root
and the tests root that it was made of were settled, whatever the other values. -/
theorem again_resolve_iff (packageName : String)
    (outputFolder sourceRoot testsRoot handlerPackage : Option String) :
    let l := resolve packageName outputFolder sourceRoot testsRoot handlerPackage
    l.again = l ↔ IsSettled sourceRoot ∧ IsSettled testsRoot := by
  intro l
  rw [again_resolve, ← normalizeRelative_normalizeRelative_iff,
    ← normalizeRelative_normalizeRelative_iff]
  constructor
  · intro h
    have hsource := congrArg Layout.sourceRoot h
    have htests := congrArg Layout.testsRoot h
    rw [sourceRoot_resolve, sourceRoot_resolve] at hsource
    rw [testsRoot_resolve, testsRoot_resolve] at htests
    exact ⟨hsource, htests⟩
  · rintro ⟨hsource, htests⟩
    exact resolve_congr packageName outputFolder sourceRoot testsRoot handlerPackage hsource htests
      rfl

/-- A source root given as `./` is first `.` and then nothing, so that the package moves. -/
theorem again_resolve_ne_slash :
    let l := resolve "shop" (some "out") (some "./") (some "tests") none
    ¬ IsSettled (some "./") ∧ l.sourceRoot = "." ∧ l.packageRootDir = "./shop" ∧
      l.again.sourceRoot = "" ∧ l.again.packageRootDir = "shop" ∧ l.again ≠ l := by
  decide

end Layout
end StubPlan
