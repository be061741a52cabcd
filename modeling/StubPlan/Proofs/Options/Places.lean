import StubPlan.Proofs.Options.Named

/-! The places besides the document where options are looked for. A document is read in the same way
wherever the environment is the same and the places that its directives name hold the same. -/
namespace StubPlan

namespace Workspace

/-- Whether two workspaces hold the same in a folder. -/
structure AgreeIn (w w' : Workspace) (folder : String) : Prop where
  found : w'.find folder = w.find folder
  names : w'.namesIn folder = w.namesIn folder
  files : ∀ name ∈ w.namesIn folder, w'.find (folder ++ "/" ++ name) = w.find (folder ++ "/" ++ name)

/-- Whether two workspaces hold the same in the files and folders that directives name. -/
structure AgreeAlong (w w' : Workspace) (d : Directives) : Prop where
  files : ∀ path ∈ d.assignmentFiles, w'.find path = w.find path
  folders : ∀ paths, d.valueFolders = .ok paths → ∀ folder ∈ paths, w.AgreeIn w' folder

/-- Whether two workspaces hold the same in the files and folders that a document names. -/
def AgreeFor (w w' : Workspace) (document : Value) : Prop :=
  ∀ entries input d, document = .map entries → Options.namedEntries? entries = some input →
    Directives.read input = .ok d → w.AgreeAlong w' d

lemma agreeFor_nil (w w' : Workspace) : w.AgreeFor w' (.map []) := by
  intro entries input d hentries hinput hd
  obtain rfl := Value.map.inj hentries
  obtain rfl : [] = input := Option.some.inj hinput
  rw [Directives.read_eq_usual (by simp)] at hd
  obtain rfl := Except.ok.inj hd
  refine ⟨by simp [Directives.usual], fun paths hpaths => ?_⟩
  obtain rfl : [] = paths := Except.ok.inj hpaths
  simp

end Workspace

section Congruence

variable {s s' : Surroundings} {d : Directives}

lemma Surroundings.assignments_congr {paths : List String} (henv : s'.env = s.env)
    (h : ∀ path ∈ paths, s'.workspace.find path = s.workspace.find path) :
    s'.assignments paths = s.assignments paths := by
  refine Except.foldlM_congr (fun done path hpath => ?_) []
  rw [h path hpath, henv]

lemma Surroundings.valueIn?_congr {folder : String} (h : s.workspace.AgreeIn s'.workspace folder)
    (caseSensitive : Bool) (name : String) :
    s'.valueIn? caseSensitive folder name = s.valueIn? caseSensitive folder name := by
  rw [valueIn?, valueIn?, h.names]
  rcases hfound : (s.workspace.namesIn folder).find? (sameName caseSensitive · name) with _ | found
  · rfl
  · simp only [h.files found (List.mem_of_find?_eq_some hfound)]

lemma Surroundings.folderValues_congr
    (h : ∀ paths, d.valueFolders = .ok paths →
      ∀ folder ∈ paths, s.workspace.AgreeIn s'.workspace folder) (front : String) :
    s'.folderValues d front = s.folderValues d front := by
  simp only [folderValues]
  rcases hpaths : d.valueFolders with e | paths
  · simp only [bind, Except.bind]
  · have hthere : paths.filter (s'.workspace.find · ≠ .nothing) =
        paths.filter (s.workspace.find · ≠ .nothing) :=
      List.filter_congr fun folder hfolder => by rw [(h paths hpaths folder hfolder).found]
    have hsame : ∀ folder ∈ paths.filter (s.workspace.find · ≠ .nothing),
        s.workspace.AgreeIn s'.workspace folder :=
      fun folder hfolder => h paths hpaths folder (List.mem_filter.mp hfolder).1
    simp only [Except.ok_bind, hthere]
    generalize paths.filter (s.workspace.find · ≠ .nothing) = folders at hsame ⊢
    have hclosed : (folders.any fun path => s'.workspace.find path ≠ .stored .directory) =
        folders.any fun path => s.workspace.find path ≠ .stored .directory := by
      rw [Bool.eq_iff_iff, List.any_eq_true, List.any_eq_true]
      refine exists_congr fun folder => and_congr_right fun hfolder => ?_
      rw [(hsame folder hfolder).found]
    have hvalues (f : OptionField) :
        folders.reverse.mapM (fun folder => s'.valueIn? d.caseSensitive folder (front ++ f.name)) =
          folders.reverse.mapM fun folder => s.valueIn? d.caseSensitive folder (front ++ f.name) :=
      Except.mapM_congr fun folder hfolder =>
        valueIn?_congr (hsame folder (List.mem_reverse.mp hfolder)) _ _
    simp only [hclosed, hvalues]

lemma Options.ofInput_congr {input : List (String × Value)} (henv : s'.env = s.env)
    (h : ∀ d, Directives.read input = .ok d → s.workspace.AgreeAlong s'.workspace d) :
    ofInput input s' = ofInput input s := by
  simp only [ofInput]
  rcases hd : Directives.read input with e | d
  · simp only [bind, Except.bind]
  · simp only [Except.ok_bind, Surroundings.assignments_congr henv (h d hd).files,
      Surroundings.folderValues_congr (h d hd).folders, henv]

/-- A document is read from itself, the environment and what the places hold that it names. -/
lemma Options.read_congr {document : Value} (henv : s'.env = s.env)
    (h : s.workspace.AgreeFor s'.workspace document) :
    Options.read document s' = Options.read document s := by
  cases document with
  | map entries =>
    simp only [Options.read]
    rcases hinput : namedEntries? entries with _ | input
    · rfl
    · simp only [ofInput_congr henv (h entries input · rfl hinput)]
  | _ => rfl

end Congruence

end StubPlan
