import StubPlan.Proofs.Layout.Handlers
import StubPlan.Proofs.Path.Segments

/-! Where handlers live, told by the segments of their package. The layout compares packages as texts, and
two of them may begin alike where their segments differ. What it takes off is the segments of the root
package, and only when all of them come first. -/
namespace StubPlan

namespace Text

/-- A dotted name begins with the segments of another exactly when it is that one or goes on behind it
with a dot. -/
lemma splitAt_prefix_iff {root package : String} :
    splitAt '.' root <+: splitAt '.' package ↔
      package = root ∨ ∃ rest, package = root ++ "." ++ rest := by
  constructor
  · rintro ⟨more, hmore⟩
    rcases more with _ | ⟨next, more⟩
    · rw [List.append_nil] at hmore
      exact .inl (splitAt_inj.mp hmore).symm
    · have hdots : ∀ s ∈ next :: more, '.' ∉ s.toList := fun s hs =>
        sep_not_mem_of_mem_splitAt (hmore ▸ List.mem_append_right _ hs)
      refine .inr ⟨join "." (next :: more), splitAt_inj.mp ?_⟩
      rw [splitAt_dot, splitAt_join (List.cons_ne_nil next more) hdots, hmore]
  · rintro (rfl | ⟨rest, rfl⟩)
    · exact List.prefix_rfl
    · rw [splitAt_dot]
      exact List.prefix_append _ _

end Text

open Text (splitAt splitAt_prefix_iff splitAt_dot splitAt_inj)

/-- The segments of a package seen from a root package: those behind the segments of the root when it
begins with these, else all. -/
def segmentsBelow (root package : String) : List String :=
  if splitAt '.' root <+: splitAt '.' package then
    (splitAt '.' package).drop (splitAt '.' root).length
  else splitAt '.' package

lemma segmentsBelow_self (root : String) : segmentsBelow root root = [] := by
  rw [segmentsBelow, if_pos List.prefix_rfl, List.drop_length]

lemma segmentsBelow_append (root rest : String) :
    segmentsBelow root (root ++ "." ++ rest) = splitAt '.' rest := by
  rw [segmentsBelow, splitAt_dot, if_pos (List.prefix_append _ _), List.drop_left]

/-- The path of a package is that of its segments. -/
lemma packagePath_eq_join {package : String} (h : Name.isPackageName package.toList) :
    packagePath package = Path.join ((splitAt '.' package).map some) := by
  have hpieces : Chars.splitAt '/' (packagePath package).toList = Chars.splitAt '.' package.toList := by
    rw [toList_packagePath, Chars.splitAt_map_ite (Name.slash_not_mem_of_isPackageName h)]
  have hpresent : ((splitAt '.' package).map some).filterMap Text.present? = splitAt '.' package := by
    rw [List.filterMap_map]
    refine (List.filterMap_congr fun segment hsegment => ?_).trans List.filterMap_some
    obtain ⟨token, htoken, rfl⟩ := List.mem_map.mp hsegment
    have htoken : Name.isToken token := List.all_eq_true.mp h token htoken
    refine Text.present?_of_not_isBlank ?_
    cases token with
    | nil => exact absurd htoken (by decide)
    | cons c rest =>
      have hc := Name.isTokenChar_of_isToken htoken c List.mem_cons_self
      exact Text.isBlank_eq_false (by simp) (Name.not_isBlankChar_of_isTokenChar hc)
  have hslash : "/".toList = ['/'] := rfl
  have hchars : (splitAt '.' package).map String.toList = Chars.splitAt '.' package.toList := by
    rw [splitAt, List.map_map]
    exact List.map_id'' (fun _ => String.toList_ofList) _
  rw [Path.join, hpresent, Text.join, hchars, hslash, ← hpieces, Chars.intercalate_splitAt,
    String.ofList_toList]

/-- The directory of a package, relative to the root package, is made of the segments below the root. -/
lemma relativePackageDir_eq_join (root : String) {package : String}
    (h : Name.isPackageName package.toList) :
    relativePackageDir root (some package) = Path.join ((segmentsBelow root package).map some) := by
  rcases Layout.relativePackageDir_cases root h with
    ⟨rfl, hdir⟩ | ⟨rest, rfl, hrest, hdir⟩ | ⟨hne, hbegins, hdir⟩
  · rw [hdir, segmentsBelow_self]
    rfl
  · rw [hdir, segmentsBelow_append, packagePath_eq_join hrest]
  · have hnot : ¬ splitAt '.' root <+: splitAt '.' package := by
      rw [splitAt_prefix_iff]
      rintro (hself | ⟨rest, rfl⟩)
      · exact hne hself
      · exact hbegins (Text.beginsWith_append (root ++ ".") rest)
    rw [hdir, segmentsBelow, if_neg hnot, packagePath_eq_join h]

namespace Layout
open StubPlan.Path

/-- The handlers lie below the root package, in the directories of their package's segments. -/
lemma IsRooted.handlersDir_eq {l : Layout} (hl : l.IsRooted)
    (h : Name.isPackageName l.handlerPackage.toList) :
    l.handlersDir =
      join (some l.packageRootDir :: (segmentsBelow l.packageName l.handlerPackage).map some) := by
  rw [hl.handlers, relativePackageDir_eq_join l.packageName h, join_cons_join]

section Nested

variable {root : String} (outputFolder sourceRoot testsRoot given : Option String)

/-- Where the output folder is not the package itself, the root package has a directory for each of its
segments below the source root. -/
lemma packageRootDir_of_not_flatten (hroot : Name.isPackageName root.toList)
    (h : (resolve root outputFolder sourceRoot testsRoot given).flatten = false) :
    (resolve root outputFolder sourceRoot testsRoot given).packageRootDir =
      join (some (normalizeRelative sourceRoot) :: (splitAt '.' root).map some) := by
  have hdir : (resolve root outputFolder sourceRoot testsRoot given).packageRootDir =
      if (resolve root outputFolder sourceRoot testsRoot given).flatten then ""
      else join [some (normalizeRelative sourceRoot), some (packagePath root)] := rfl
  rw [hdir, h, if_neg Bool.false_ne_true, packagePath_eq_join hroot, join_cons_join]

end Nested

/-- The directory of the handlers is that of the root package joined with the segments of the handler
package, less those of the root package when these come first. A handler package below the root package
of a layout that is not flattened thus has the directory that its own segments name below the source
root. Without a handler package the directory is `handlers`. -/
theorem handlersDir_segments {root package : String} (hroot : Name.isPackageName root.toList)
    (hpackage : Name.isPackageName package.toList)
    (outputFolder sourceRoot testsRoot : Option String) :
    let l := resolve root outputFolder sourceRoot testsRoot (some package)
    l.handlersDir = join (some l.packageRootDir :: (segmentsBelow root package).map some) ∧
    (l.flatten = false → splitAt '.' root <+: splitAt '.' package →
      splitAt '.' root ≠ splitAt '.' package →
      l.handlersDir = join (some l.sourceRoot :: (splitAt '.' package).map some)) ∧
    ∀ blank, Text.present? blank = none →
      let l := resolve root outputFolder sourceRoot testsRoot blank
      l.handlersDir = join [some l.packageRootDir, some "handlers"] := by
  intro l
  have hgiven : l.handlerPackage = package := by
    obtain ⟨c, rest, hcons, -⟩ := Name.exists_cons_of_isPackageName hpackage
    have hblank := Text.isBlank_eq_false (hcons ▸ List.mem_cons_self)
      (Name.not_isBlankChar_of_isPackageName hpackage c (hcons ▸ List.mem_cons_self))
    rw [handlerPackage_resolve, Text.present?_of_not_isBlank hblank, Option.getD_some,
      Name.trim_of_isPackageName hpackage]
  have hdir : l.handlersDir =
      join (some l.packageRootDir :: (segmentsBelow root package).map some) := by
    have hl : l.IsRooted := isRooted_resolve root outputFolder sourceRoot testsRoot (some package)
    rw [hl.handlersDir_eq (hgiven ▸ hpackage), hgiven]
    rfl
  refine ⟨hdir, fun hflat hprefix hne => ?_, fun blank hnone => ?_⟩
  · obtain hself | ⟨rest, rfl⟩ := splitAt_prefix_iff.mp hprefix
    · exact absurd (congrArg (splitAt '.') hself).symm hne
    · rw [hdir, segmentsBelow_append,
        packageRootDir_of_not_flatten outputFolder sourceRoot testsRoot _ hroot hflat, ← join_append,
        splitAt_dot, List.map_append]
      rfl
  · intro l
    have hl : l.IsRooted := isRooted_resolve root outputFolder sourceRoot testsRoot blank
    have hdefault : l.handlerPackage = root ++ "." ++ "handlers" :=
      handlerPackage_of_present?_eq_none hroot hnone outputFolder sourceRoot testsRoot
    have hhandlers : splitAt '.' "handlers" = ["handlers"] := by decide
    rw [hl.handlersDir_eq (hdefault ▸ isPackageName_defaultHandlers hroot), hdefault]
    change join (_ :: (segmentsBelow root (root ++ "." ++ "handlers")).map some) = _
    rw [segmentsBelow_append, hhandlers]
    rfl

/-- Handlers below the root package have the directory of their own package. -/
theorem handlersDir_segments_impl :
    (Name.isPackageName "shop.api".toList ∧ Name.isPackageName "shop.api.impl".toList ∧
      splitAt '.' "shop.api" <+: splitAt '.' "shop.api.impl" ∧
      splitAt '.' "shop.api" ≠ splitAt '.' "shop.api.impl" ∧ Text.present? (some " ") = none) ∧
    let l := resolve "shop.api" (some "out") (some "src") (some "tests") (some "shop.api.impl")
    let blank := resolve "shop.api" (some "out") (some "src") (some "tests") (some " ")
    l.flatten = false ∧ l.handlersDir = "src/shop/api/impl" ∧
      blank.handlersDir = "src/shop/api/handlers" := by
  have hroot : Name.isPackageName "shop.api".toList := by decide
  have hpackage : Name.isPackageName "shop.api.impl".toList := by decide
  have hprefix : splitAt '.' "shop.api" <+: splitAt '.' "shop.api.impl" := by decide
  have hne : splitAt '.' "shop.api" ≠ splitAt '.' "shop.api.impl" := by decide
  have hblank : Text.present? (some " ") = none := by decide
  obtain ⟨-, hnested, hdefault⟩ :=
    handlersDir_segments hroot hpackage (some "out") (some "src") (some "tests")
  exact ⟨⟨hroot, hpackage, hprefix, hne, hblank⟩, by decide,
    (hnested (by decide) hprefix hne).trans (by decide), (hdefault (some " ") hblank).trans (by decide)⟩

end Layout
end StubPlan
