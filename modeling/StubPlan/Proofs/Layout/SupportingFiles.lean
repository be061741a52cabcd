import Mathlib.Data.List.Nodup
import StubPlan.Proofs.Layout.Directory

/-! Where the supporting files of a project are written. Two of them have one path exactly when two
of the five directories that hold them are one, because each has a file `__init__.py`. -/
namespace StubPlan
open StubPlan.Path

/-- Files with plain names in proper directories have one path when both agree. -/
lemma nodup_map_path {files : List SupportingFile}
    (h : ∀ f ∈ files, IsProper f.folder ∧ Text.isBlank f.destination = false ∧
      '/' ∉ f.destination.toList) :
    (files.map SupportingFile.path).Nodup ↔
      (files.map fun f => (f.folder, f.destination)).Nodup := by
  have hpath : files.map SupportingFile.path =
      (files.map fun f => (f.folder, f.destination)).map
        fun place => join [some place.1, some place.2] := by
    rw [List.map_map]
    rfl
  rw [hpath]
  refine ⟨List.Nodup.of_map _, fun hnodup => hnodup.map_on ?_⟩
  intro a ha b hb heq
  obtain ⟨f, hf, rfl⟩ := List.mem_map.mp ha
  obtain ⟨g, hg, rfl⟩ := List.mem_map.mp hb
  obtain ⟨hfolder, hblank, hslash⟩ := h f hf
  obtain ⟨hfolder', hblank', hslash'⟩ := h g hg
  exact Prod.ext_iff.mpr ((join_inj hfolder hfolder' hblank hblank' hslash hslash').mp heq)

namespace Layout

def directories (l : Layout) : List String :=
  [l.packageRootDir, l.controllersDir, l.schemasDir, l.handlersDir, l.testsDir]

/-- The names of these directories below the first of them. -/
def subdirectories (l : Layout) : List String :=
  ["", "controllers", "schemas", relativePackageDir l.packageName (some l.handlerPackage),
    l.testsRoot]

lemma IsRooted.directories_eq {l : Layout} (h : l.IsRooted) :
    l.directories = l.subdirectories.map fun sub => join [some l.packageRootDir, some sub] := by
  have hroot : join [some l.packageRootDir, some ""] = l.packageRootDir :=
    join_of_isBlank h.proper Text.isBlank_empty
  rw [directories, h.controllers, h.schemas, h.handlers, h.tests]
  simp [subdirectories, hroot]

lemma IsRooted.isProper {l : Layout} (h : l.IsRooted) {dir : String} (hdir : dir ∈ l.directories) :
    IsProper dir := by
  rw [h.directories_eq] at hdir
  obtain ⟨sub, -, rfl⟩ := List.mem_map.mp hdir
  exact isProper_join _

lemma folder_mem_directories {l : Layout} {f : SupportingFile} (h : f ∈ l.supportingFiles) :
    f.folder ∈ l.directories := by
  simp only [supportingFiles, List.mem_cons, List.not_mem_nil, or_false] at h
  rcases h with rfl | rfl | rfl | rfl | rfl | rfl | rfl | rfl | rfl | rfl | rfl <;>
    simp [directories]

/-- The names of supporting files are plain, whatever the layout. -/
lemma destination_plain {l : Layout} {f : SupportingFile} (h : f ∈ l.supportingFiles) :
    Text.isBlank f.destination = false ∧ '/' ∉ f.destination.toList := by
  have hmem : f.destination ∈ l.supportingFiles.map SupportingFile.destination :=
    List.mem_map_of_mem h
  have hnames : l.supportingFiles.map SupportingFile.destination =
      ["app.py", "__init__.py", "typing_utils.py", "util.py", "__init__.py", "__init__.py",
        "base.py", "base_model.py", "__init__.py", "conftest.py", "__init__.py"] := rfl
  have hplain : ∀ name ∈ ["app.py", "__init__.py", "typing_utils.py", "util.py", "__init__.py",
      "__init__.py", "base.py", "base_model.py", "__init__.py", "conftest.py", "__init__.py"],
      Text.isBlank name = false ∧ '/' ∉ name.toList := by decide
  exact hplain f.destination (hnames ▸ hmem)

/-- Each directory has one file `__init__.py`, and other names are not used twice. -/
lemma IsRooted.nodup_paths_iff {l : Layout} (h : l.IsRooted) :
    (l.supportingFiles.map SupportingFile.path).Nodup ↔ l.directories.Nodup := by
  rw [nodup_map_path fun f hf => ⟨h.isProper (folder_mem_directories hf), destination_plain hf⟩]
  simp only [supportingFiles, List.map_cons, List.map_nil, List.nodup_cons, List.mem_cons,
    Prod.mk.injEq, String.reduceEq, and_false, List.not_mem_nil, or_self, not_false_eq_true,
    and_true, or_false, false_or, not_or, List.nodup_nil, and_self, true_and, directories]
  tauto

/-- The directories are different exactly when the handlers and the tests have one of their own. -/
lemma IsRooted.nodup_directories_iff {l : Layout} (h : l.IsRooted) :
    l.directories.Nodup ↔
      let handlers := relativePackageDir l.packageName (some l.handlerPackage)
      (Text.isBlank handlers = false ∧ handlers ≠ "controllers" ∧ handlers ≠ "schemas") ∧
      Text.isBlank l.testsRoot = false ∧ l.testsRoot ≠ "controllers" ∧ l.testsRoot ≠ "schemas" ∧
        l.testsRoot ≠ handlers := by
  have hcontrollers : Text.isBlank "controllers" = false := by decide
  have hschemas : Text.isBlank "schemas" = false := by decide
  have hne : ∀ {s : String}, Text.isBlank s = false → s ≠ "" := Text.ne_empty_of_not_isBlank
  rw [h.directories_eq, subdirectories]
  generalize relativePackageDir l.packageName (some l.handlerPackage) = handlers
  simp only [List.map_cons, List.map_nil, List.nodup_cons, List.mem_cons, join_left_inj h.proper,
    String.empty_eq_iff, String.reduceEq, Text.isBlank_empty, hcontrollers, Bool.false_eq_true,
    and_false, or_self, hschemas, true_and, List.not_mem_nil, or_false, false_or, not_or,
    Bool.not_eq_true, and_self, false_and, not_and, not_false_eq_true, List.nodup_nil, and_true,
    ne_eq]
  constructor
  · rintro ⟨⟨⟨-, hh⟩, -, ht⟩, ⟨hc, hct⟩, ⟨hs, hst⟩, hht, -⟩
    exact ⟨⟨hh, Ne.symm hc, Ne.symm hs⟩, ht, Ne.symm hct, Ne.symm hst, Ne.symm hht⟩
  · rintro ⟨⟨hh, hc, hs⟩, ht, hct, hst, hht⟩
    exact ⟨⟨⟨hne hh, hh⟩, hne ht, ht⟩, ⟨Ne.symm hc, Ne.symm hct⟩, ⟨Ne.symm hs, Ne.symm hst⟩,
      Ne.symm hht, fun _ => ht⟩

/-- No supporting file of a project is written over another exactly when the directories of the
handlers and the tests are neither that of the root package nor one of its own, and differ. -/
theorem nodup_supportingFiles_iff
    (raw fallback outputFolder sourceRoot testsRoot handlerPackage : Option String) :
    let package := Name.packageName raw fallback
    let l := resolve package outputFolder sourceRoot testsRoot handlerPackage
    let handlers := relativePackageDir package (some l.handlerPackage)
    let tests := Path.normalizeRelative testsRoot
    (l.supportingFiles.map SupportingFile.path).Nodup ↔
      (Text.isBlank handlers = false ∧ handlers ≠ "controllers" ∧ handlers ≠ "schemas") ∧
      Text.isBlank tests = false ∧ tests ≠ "controllers" ∧ tests ≠ "schemas" ∧ tests ≠ handlers := by
  intro package l handlers tests
  have h : l.IsRooted :=
    isRooted_resolve package outputFolder sourceRoot testsRoot handlerPackage
  exact h.nodup_paths_iff.trans h.nodup_directories_iff

/-- With its tests in the root package, a project has two files `__init__.py` there. -/
theorem not_nodup_supportingFiles_dot :
    Name.packageName (some "shop") none = "shop" ∧
    (resolve "shop" (some "out") (some "") (some ".") none).testsDir = "shop" ∧
    ¬ ((resolve "shop" (some "out") (some "") (some ".") none).supportingFiles.map
      SupportingFile.path).Nodup := by
  decide

end Layout
end StubPlan
