import StubPlan.Proofs.Layout.SupportingFiles

/-! Paths below the output folder. A path may be joined to the output folder at once, or a directory
first and then what lies in it. The two agree although a blank output folder stays as it stands when it
is named alone and leaves no trace in a path below it. -/
namespace StubPlan.Layout
open StubPlan.Path

section Below

variable (l : Layout) (dir : String) (parts : List (Option String))

/-- In front of other parts, the output path of a directory is the output folder and the directory. -/
lemma join_outputPath_cons :
    join (l.outputPath dir :: parts) = join (l.outputFolder :: some dir :: parts) := by
  rw [outputPath]
  split
  · next hdir => rw [hdir, join_cons_empty]
  · exact (join_append [l.outputFolder, some dir] parts).symm

/-- What lies in a directory is written below the output path of the directory. -/
lemma outputPath_join (h : join (some dir :: parts) ≠ "") :
    l.outputPath (join (some dir :: parts)) = some (join (l.outputPath dir :: parts)) := by
  rw [outputPath, if_neg h, join_cons_join, join_outputPath_cons]

end Below

/-- Every supporting file has a path, since it has a name. -/
lemma path_ne_empty {l : Layout} {f : SupportingFile} (h : f ∈ l.supportingFiles) : f.path ≠ "" := by
  intro hempty
  have hnone := join_eq_empty_iff.mp hempty (some f.destination) (by simp)
  rw [Text.present?_of_not_isBlank (destination_plain h).1] at hnone
  contradiction

/-- Joining paths in stages or at once is the same. So a supporting file of a layout is written to its
name, joined to the output path of its directory, whatever the output folder and the directory are, and
the same holds of any other file that has a path. -/
theorem outputPath_path :
    (∀ front parts : List (Option String),
      join (front ++ parts) = join [some (join front), some (join parts)]) ∧
    (∀ l : Layout, ∀ f ∈ l.supportingFiles,
      l.outputPath f.path = some (join [l.outputPath f.folder, some f.destination])) ∧
    ∀ (l : Layout) (f : SupportingFile), f.path ≠ "" →
      l.outputPath f.path = some (join [l.outputPath f.folder, some f.destination]) := by
  have hfile : ∀ (l : Layout) (f : SupportingFile), f.path ≠ "" →
      l.outputPath f.path = some (join [l.outputPath f.folder, some f.destination]) :=
    fun l f h => l.outputPath_join f.folder [some f.destination] h
  exact ⟨join_stages, fun l f h => hfile l f (path_ne_empty h), hfile⟩

/-- Files in a blank output folder, in a flattened layout, and in a blank directory. -/
theorem outputPath_path_shop :
    let blank := resolve "shop" (some " ") none none none
    let flat := resolve "shop" (some "out/shop") none none none
    let app : SupportingFile := ⟨"app.mustache", "shop", "app.py"⟩
    let util : SupportingFile := ⟨"util.mustache", "", "util.py"⟩
    let readme : SupportingFile := ⟨"readme.mustache", " ", "README.md"⟩
    (app ∈ blank.supportingFiles ∧ util ∈ flat.supportingFiles ∧ readme.path ≠ "") ∧
      blank.outputPath app.path = some (join [blank.outputPath "shop", some "app.py"]) ∧
      flat.outputPath util.path = some (join [flat.outputPath "", some "util.py"]) ∧
      blank.outputPath readme.path = some (join [blank.outputPath " ", some "README.md"]) := by
  intro blank flat app util readme
  have happ : app ∈ blank.supportingFiles := by decide
  have hutil : util ∈ flat.supportingFiles := by decide
  have hreadme : readme.path ≠ "" := by decide
  exact ⟨⟨happ, hutil, hreadme⟩, outputPath_path.2.1 blank app happ, outputPath_path.2.1 flat util hutil,
    outputPath_path.2.2 blank readme hreadme⟩

end StubPlan.Layout
