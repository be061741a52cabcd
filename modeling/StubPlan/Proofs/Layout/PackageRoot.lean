import StubPlan.Proofs.Layout.Directory
import StubPlan.Proofs.Path.Segments

/-! Where the root package of a layout lies. Flattened or not, the path to its directory ends with the
tokens of the package's name. -/
namespace StubPlan

namespace Name
open Chars

/-- The path of a package has the tokens of its name as segments. -/
lemma segments_packagePath {package : String} (h : isPackageName package.toList) :
    Path.segments (packagePath package).toList = splitAt '.' package.toList := by
  have hslash : '/' ∉ package.toList := slash_not_mem_of_isPackageName h
  rw [Path.segments, toList_packagePath, splitAt_map_ite hslash, List.filter_eq_self]
  intro token hmem
  have htoken : isToken token := List.all_eq_true.mp h token hmem
  have hempty : token ≠ [] := by
    rintro rfl
    exact absurd htoken (by decide)
  have hdot : token ≠ ['.'] := by
    rintro rfl
    exact absurd htoken (by decide)
  simp [hempty, hdot]

end Name

namespace Layout
open StubPlan.Path

section PackageRoot

variable {package : String} {outputFolder : String} (sourceRoot testsRoot handlerPackage : Option String)

lemma flatten_resolve_iff :
    (resolve package (some outputFolder) sourceRoot testsRoot handlerPackage).flatten ↔
      '.' ∉ package.toList ∧ lastSegment outputFolder = package := by
  simp [resolve]

/-- The root package of a flattened layout is the output folder, else it lies below the source root
under its own path. -/
lemma packageRootDir_resolve :
    (resolve package (some outputFolder) sourceRoot testsRoot handlerPackage).packageRootDir =
      if (resolve package (some outputFolder) sourceRoot testsRoot handlerPackage).flatten then ""
      else join [some (normalizeRelative sourceRoot), some (packagePath package)] := rfl

variable (h : Name.isPackageName package.toList)
include h

lemma not_isBlank_join_packagePath (dir : Option String) :
    Text.isBlank (join [dir, some (packagePath package)]) = false := by
  have hpath := not_isBlank_packagePath h
  rcases dir with _ | dir
  · rw [join_cons_none, join_one hpath, hpath]
  · rcases hdir : Text.isBlank dir with _ | _
    · simp [join_below hdir hpath, hdir]
    · rw [join_cons_of_isBlank hdir, join_one hpath, hpath]

/-- The root package is the output folder itself in a flattened layout only. -/
lemma packageRootDir_resolve_eq_empty_iff :
    (resolve package (some outputFolder) sourceRoot testsRoot handlerPackage).packageRootDir = "" ↔
      (resolve package (some outputFolder) sourceRoot testsRoot handlerPackage).flatten := by
  rw [packageRootDir_resolve]
  split
  · next hflat => exact iff_of_true rfl hflat
  · next hflat =>
    have hblank := not_isBlank_join_packagePath h (some (normalizeRelative sourceRoot))
    exact iff_of_false (Text.ne_empty_of_not_isBlank hblank) hflat

/-- The segments of an output folder that is the package end with its name. -/
lemma splitAt_suffix_segments_of_flatten (hdot : '.' ∉ package.toList)
    (hlast : lastSegment outputFolder = package) :
    Chars.splitAt '.' package.toList <:+ segments outputFolder.toList := by
  rw [Chars.splitAt_of_not_mem hdot]
  exact (lastSegment_eq_iff (Name.ne_empty_of_isPackageName h)).mp hlast

/-- Below any directories the path of a package ends with its tokens. -/
lemma splitAt_suffix_segments_join (outer inner : Option String) :
    Chars.splitAt '.' package.toList <:+
      segments (join [outer, some (join [inner, some (packagePath package)])]).toList := by
  have hinner := segments_suffix_join inner (not_isBlank_packagePath h)
  have houter := segments_suffix_join outer (not_isBlank_join_packagePath h inner)
  rw [← Name.segments_packagePath h]
  exact hinner.trans houter

end PackageRoot

/-- The directory of the root package is the output folder exactly when the layout is flattened, which
it is exactly when the package is one token and the output folder bears its name. In either case the
path to the directory ends with the tokens of the package. -/
theorem outputPath_packageRootDir (raw fallback : Option String) (outputFolder : String)
    (sourceRoot testsRoot handlerPackage : Option String) :
    let package := Name.packageName raw fallback
    let l := resolve package (some outputFolder) sourceRoot testsRoot handlerPackage
    (l.packageRootDir = "" ↔ l.flatten) ∧
      (l.flatten ↔ '.' ∉ package.toList ∧ lastSegment outputFolder = package) ∧
      ∃ path, l.outputPath l.packageRootDir = some path ∧
        Chars.splitAt '.' package.toList <:+ segments path.toList := by
  intro package l
  have hpackage : Name.isPackageName package.toList := Name.isPackageName_packageName raw fallback
  have hempty : l.packageRootDir = "" ↔ l.flatten :=
    packageRootDir_resolve_eq_empty_iff sourceRoot testsRoot handlerPackage hpackage
  have hflatten : l.flatten ↔ '.' ∉ package.toList ∧ lastSegment outputFolder = package :=
    flatten_resolve_iff sourceRoot testsRoot handlerPackage
  refine ⟨hempty, hflatten, ?_⟩
  by_cases hflat : l.flatten
  · obtain ⟨hdot, hlast⟩ := hflatten.mp hflat
    refine ⟨outputFolder, ?_, splitAt_suffix_segments_of_flatten hpackage hdot hlast⟩
    rw [outputPath, if_pos (hempty.mpr hflat)]
    rfl
  · have hroot : l.packageRootDir =
        join [some (normalizeRelative sourceRoot), some (packagePath package)] :=
      (packageRootDir_resolve sourceRoot testsRoot handlerPackage).trans (if_neg hflat)
    refine ⟨join [some outputFolder, some l.packageRootDir], ?_, ?_⟩
    · rw [outputPath, if_neg (mt hempty.mp hflat)]
      rfl
    · rw [hroot]
      exact splitAt_suffix_segments_join hpackage _ _

end Layout
end StubPlan
