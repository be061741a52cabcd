import StubPlan.Configuration
import StubPlan.Proofs.Options.Places
import StubPlan.Proofs.Text.Front

/-! One source of a configuration decides. What is stored under the names that come after it has no
part in the outcome, be it options or an error; the decisive document may name further files, though. -/
namespace StubPlan

/-- What a look-up tells whoever asks for a configuration: of a path that leads nowhere only that it
does, unless a name in it is too long. -/
def Found.told : Found → Found
  | .underFile | .unnameable => .nothing
  | found => found

namespace Workspace

/-- Whether nothing is stored under a path. -/
def Lacks (w : Workspace) (path : String) : Prop := ∀ stored, w.find path ≠ .stored stored

/-- Whether two workspaces agree on the source that decides and on there being none before it: on the
path that is named, else on the first of the configuration files that is there. -/
inductive AgreeOnSource (w w' : Workspace) (path : Option String) : Prop
  | named {place : String} (hpath : path.filter (· ≠ "") = some place)
    (hfound : (w'.find place).told = (w.find place).told)
  | file {before after : List String} {name : String} {stored : Stored}
    (hpath : path.filter (· ≠ "") = none)
    (hname : Configuration.filenames = before ++ name :: after)
    (hbefore : ∀ other ∈ before, w.Lacks other ∧ w'.Lacks other)
    (hfound : w.find name = .stored stored) (hfound' : w'.find name = .stored stored)
  | project {stored : Stored} (hpath : path.filter (· ≠ "") = none)
    (hbefore : ∀ other ∈ Configuration.filenames, w.Lacks other ∧ w'.Lacks other)
    (hfound : w.find Configuration.projectFilename = .stored stored)
    (hfound' : w'.find Configuration.projectFilename = .stored stored)
  | nowhere (hpath : path.filter (· ≠ "") = none)
    (hbefore : ∀ other ∈ Configuration.filenames ++ [Configuration.projectFilename],
      w.Lacks other ∧ w'.Lacks other)

/-- The path in another workspace of what is found in this one: a path that is named stays as it is,
and the other configuration files stand under the root. -/
def moved (w w' : Workspace) (path : Option String) (place : String) : String :=
  match path.filter (· ≠ "") with
  | some _ => place
  | none => match Text.dropFront? (w.root ++ "/") place with
    | some name => w'.under name
    | none => place

variable {w w' : Workspace} {path : Option String} {name place : String}

lemma lacks_of_nothing (h : w.find name = .nothing) : w.Lacks name := by
  simp [Lacks, h]

lemma moved_of_named (hpath : path.filter (· ≠ "") = some name) : w.moved w' path place = place := by
  rw [moved, hpath]

lemma moved_under (hpath : path.filter (· ≠ "") = none) :
    w.moved w' path (w.under name) = w'.under name := by
  rw [moved, hpath, under, Text.dropFront?_append]

/-- In workspaces with the same root nothing has another path. -/
lemma moved_of_root_eq (h : w'.root = w.root) : w.moved w' path place = place := by
  unfold moved
  split
  · rfl
  · split
    · next name hname => rw [under, h, Text.dropFront?_eq_some_iff.mp hname]
    · rfl

end Workspace

def ConfigurationSource.mapPath (move : String → String) :
    ConfigurationSource → ConfigurationSource
  | yaml path stored => yaml (move path) stored
  | project path stored => project (move path) stored

def ConfigurationSource.path : ConfigurationSource → String
  | yaml path _ | project path _ => path

def ConfigurationError.mapPath (move : String → String) : ConfigurationError → ConfigurationError
  | notThere path => notThere (move path)
  | malformed path => malformed (move path)
  | undecodable path fault => undecodable (move path) fault
  | malformedProject path => malformedProject (move path)
  | invalid path faults => invalid (move path) faults
  | e => e

namespace Configuration

variable {r : Reader} {s s' : Surroundings} {w w' : Workspace} {path : Option String}
  {move : String → String}

section Parts

/-! What is read from a source depends on its path only in what an error says of it. -/

lemma readYaml_move (place : String) (stored : Stored) :
    readYaml r (move place) stored = (readYaml r place stored).mapError (.mapPath move) := by
  rcases stored with bytes | _
  · simp only [readYaml]
    rcases fileText bytes with fault | text
    · rfl
    · dsimp only
      rcases r.yaml text with (_ | _) | v <;> rfl
  · rfl

lemma toolTable_mapPath (tools : Value) :
    (toolTable tools).mapError (.mapPath move) = toolTable tools := by
  cases tools <;> simp only [toolTable] <;> first | rfl | split <;> rfl

lemma readProject_move (place : String) (stored : Stored) :
    readProject r (move place) stored = (readProject r place stored).mapError (.mapPath move) := by
  rcases stored with bytes | _
  · simp only [readProject]
    rcases fileText bytes with fault | text
    · rfl
    · dsimp only
      rcases r.project text with (_ | _) | entries
      · rfl
      · rfl
      · exact (toolTable_mapPath _).symm
  · rfl

lemma document_mapPath (deciding : ConfigurationSource) : document r (deciding.mapPath move) =
    ((document r deciding).map (Prod.map move id)).mapError (.mapPath move) := by
  cases deciding with
  | yaml place stored =>
    simp only [document, ConfigurationSource.mapPath, readYaml_move]
    rcases readYaml r place stored with e | v <;> rfl
  | project place stored =>
    simp only [document, ConfigurationSource.mapPath, readProject_move]
    rcases readProject r place stored with e | v <;> rfl

lemma options_move {place : String} {v : Value} (hr : r.options = Options.read)
    (henv : s'.env = s.env) (hplaces : s.workspace.AgreeFor s'.workspace v) :
    options r s' (move place) v = (options r s place v).mapError (.mapPath move) := by
  have hread : Options.read (if v.isEmpty then .map [] else v) s' =
      Options.read (if v.isEmpty then .map [] else v) s := by
    refine Options.read_congr henv ?_
    split
    · exact Workspace.agreeFor_nil _ _
    · exact hplaces
  rw [options, options, hr, hread]
  rcases Options.read _ s with (_ | _ | _ | _) | o <;> rfl

lemma mapError_mapPath_id {α : Type} {x : Except ConfigurationError α}
    (h : ∀ place, move place = place) : x.mapError (.mapPath move) = x := by
  rcases x with e | a
  · cases e <;> simp [Except.mapError, ConfigurationError.mapPath, h]
  · rfl

end Parts

section Search

lemma candidate_of_lacks {name : String} (h : w.Lacks name) : candidate w name = none := by
  unfold candidate
  split
  · next stored hfound => exact absurd hfound (h stored)
  · rfl

lemma candidate_of_find {name : String} {stored : Stored} (h : w.find name = .stored stored) :
    candidate w name = some (w.under name, stored) := by
  rw [candidate, h]

lemma findSome?_candidate_of_lacks {names : List String} (h : ∀ name ∈ names, w.Lacks name) :
    names.findSome? (candidate w) = none :=
  List.findSome?_eq_none_iff.mpr fun name hname => candidate_of_lacks (h name hname)

variable {before after : List String} {name place : String} {stored : Stored}

lemma source_of_named (hpath : path.filter (· ≠ "") = some place) :
    source w path = match (w.find place).told with
      | .stored stored => .ok (.yaml place stored)
      | .nameTooLong => .error .nameTooLong
      | _ => .error (.notThere place) := by
  simp only [source, hpath]
  cases w.find place <;> rfl

lemma source_of_file (hpath : path.filter (· ≠ "") = none)
    (hname : filenames = before ++ name :: after) (hbefore : ∀ other ∈ before, w.Lacks other)
    (hfound : w.find name = .stored stored) :
    source w path = .ok (.yaml (w.under name) stored) := by
  simp only [source, hpath, hname, List.findSome?_append, findSome?_candidate_of_lacks hbefore,
    Option.none_or, List.findSome?_cons, candidate_of_find hfound]

lemma source_of_project (hpath : path.filter (· ≠ "") = none)
    (hbefore : ∀ other ∈ filenames, w.Lacks other)
    (hfound : w.find projectFilename = .stored stored) :
    source w path = .ok (.project (w.under projectFilename) stored) := by
  simp only [source, hpath, findSome?_candidate_of_lacks hbefore, candidate_of_find hfound]

lemma source_of_nowhere (hpath : path.filter (· ≠ "") = none)
    (hbefore : ∀ other ∈ filenames ++ [projectFilename], w.Lacks other) :
    source w path = .error .noSource := by
  simp only [List.forall_mem_append, List.forall_mem_singleton] at hbefore
  simp only [source, hpath, findSome?_candidate_of_lacks hbefore.1, candidate_of_lacks hbefore.2]

/-- Workspaces that agree on the source that decides have the same one, under the path that it has in
each of them. -/
lemma source_mapPath (h : w.AgreeOnSource w' path) : source w' path =
    ((source w path).map (.mapPath (w.moved w' path))).mapError (.mapPath (w.moved w' path)) := by
  rcases h with ⟨hpath, hfound⟩ | ⟨hpath, hname, hbefore, hfound, hfound'⟩ |
    ⟨hpath, hbefore, hfound, hfound'⟩ | ⟨hpath, hbefore⟩
  · rw [source_of_named hpath, source_of_named hpath, hfound]
    cases (w.find _).told <;>
      simp [Except.map, Except.mapError, ConfigurationSource.mapPath, ConfigurationError.mapPath,
        Workspace.moved_of_named hpath]
  · rw [source_of_file hpath hname (fun other ho => (hbefore other ho).1) hfound,
      source_of_file hpath hname (fun other ho => (hbefore other ho).2) hfound']
    simp [Except.map, Except.mapError, ConfigurationSource.mapPath, Workspace.moved_under hpath]
  · rw [source_of_project hpath (fun other ho => (hbefore other ho).1) hfound,
      source_of_project hpath (fun other ho => (hbefore other ho).2) hfound']
    simp [Except.map, Except.mapError, ConfigurationSource.mapPath, Workspace.moved_under hpath]
  · rw [source_of_nowhere hpath fun other ho => (hbefore other ho).1,
      source_of_nowhere hpath fun other ho => (hbefore other ho).2]
    rfl

end Search

section Blame

/-! What is reported is said of the source that decides. -/

variable {deciding : ConfigurationSource} {e : ConfigurationError}

/-- Whether the report of an error, if there is one, names a source, or says of a project file that it
holds no configuration. -/
def Blames (deciding : ConfigurationSource) (e : ConfigurationError) : Prop :=
  ∀ failure, e.report? = some failure → failure.path = some deciding.path ∨
    e = .noSource ∧ ∃ place stored, deciding = .project place stored

lemma blames_of_unreported (h : e.report? = none) : Blames deciding e :=
  fun failure hfailure => absurd (h.symm.trans hfailure) (by simp)

lemma blames_of_report {reason : String} {field : Option String}
    (h : e.report? = some ⟨reason, some deciding.path, field⟩) : Blames deciding e := by
  intro failure hfailure
  obtain rfl := Option.some.inj (h.symm.trans hfailure)
  exact .inl rfl

lemma blames_noSource (place : String) (stored : Stored) :
    Blames (.project place stored) .noSource := fun _ _ => .inr ⟨rfl, place, stored, rfl⟩

lemma blames_of_readYaml {place : String} {stored : Stored} (h : readYaml r place stored = .error e) :
    Blames (.yaml place stored) e := by
  unfold readYaml at h
  split at h
  · exact Except.error.inj h ▸ blames_of_unreported rfl
  · split at h
    · exact Except.error.inj h ▸ blames_of_report rfl
    · split at h
      · exact absurd h (by simp)
      · exact Except.error.inj h ▸ blames_of_report rfl
      · exact Except.error.inj h ▸ blames_of_unreported rfl

lemma eq_noSource_of_toolTable {tools : Value} (h : toolTable tools = .error e) :
    e = .noSource ∨ e = .toolNotTable := by
  cases tools with
  | map entries =>
    simp only [toolTable] at h
    split at h
    · exact absurd h (by simp)
    · exact .inl (Except.error.inj h).symm
  | text s | list items =>
    simp only [toolTable] at h
    split at h
    · exact .inr (Except.error.inj h).symm
    · exact .inl (Except.error.inj h).symm
  | _ => exact .inr (Except.error.inj h).symm

lemma blames_of_readProject {place : String} {stored : Stored}
    (h : readProject r place stored = .error e) : Blames (.project place stored) e := by
  unfold readProject at h
  split at h
  · exact Except.error.inj h ▸ blames_of_unreported rfl
  · split at h
    · exact Except.error.inj h ▸ blames_of_unreported rfl
    · split at h
      · obtain rfl | rfl := eq_noSource_of_toolTable h
        · exact blames_noSource place _
        · exact blames_of_unreported rfl
      · exact Except.error.inj h ▸ blames_of_report rfl
      · exact Except.error.inj h ▸ blames_of_unreported rfl

/-- A document is found under the path of its source. -/
lemma path_of_document {place : String} {v : Value} (h : document r deciding = .ok (place, v)) :
    place = deciding.path := by
  cases deciding with
  | yaml | project =>
    obtain ⟨_, -, hpair⟩ := Except.map_eq_ok_iff.mp h
    exact (congrArg Prod.fst hpair).symm

lemma blames_of_document (h : document r deciding = .error e) : Blames deciding e := by
  cases deciding with
  | yaml place stored => exact blames_of_readYaml (Except.map_eq_error_iff.mp h)
  | project place stored => exact blames_of_readProject (Except.map_eq_error_iff.mp h)

lemma blames_of_options {v : Value} (h : options r s deciding.path v = .error e) :
    Blames deciding e := by
  unfold options at h
  split at h
  · exact absurd h (by simp)
  · exact Except.error.inj h ▸ blames_of_unreported rfl
  · exact Except.error.inj h ▸ blames_of_unreported rfl
  · exact Except.error.inj h ▸ blames_of_report rfl
  · exact Except.error.inj h ▸ blames_of_unreported rfl

lemma blames_of_load (hsource : source s.workspace path = .ok deciding)
    (h : load r s path = .error e) : Blames deciding e := by
  rw [load, hsource, Except.ok_bind, Except.bind_eq_error_iff] at h
  obtain h | ⟨⟨place, v⟩, hdocument, h⟩ := h
  · exact blames_of_document h
  · rw [path_of_document hdocument] at h
    exact blames_of_options h

end Blame

/-- The outcome depends on the source that decides and on what the document in it names, and on
nothing else; and if it is an error that is reported, it is reported of that source. -/
theorem load_decided {p : Parsers} (henv : s'.env = s.env)
    (h : s.workspace.AgreeOnSource s'.workspace path)
    (hplaces : ∀ deciding place v, source s.workspace path = .ok deciding →
      document p.reader deciding = .ok (place, v) → s.workspace.AgreeFor s'.workspace v) :
    load p.reader s' path =
        (load p.reader s path).mapError (.mapPath (s.workspace.moved s'.workspace path)) ∧
      (s'.workspace.root = s.workspace.root → load p.reader s' path = load p.reader s path) ∧
      ∀ deciding e, source s.workspace path = .ok deciding → load p.reader s path = .error e →
        Blames deciding e := by
  have hload : load p.reader s' path =
      (load p.reader s path).mapError (.mapPath (s.workspace.moved s'.workspace path)) := by
    rw [load, source_mapPath h, load]
    refine Except.mapError_map_bind fun deciding hdeciding => ?_
    rw [document_mapPath]
    refine Except.mapError_map_bind fun found hfound => ?_
    exact options_move rfl henv (hplaces deciding found.1 found.2 hdeciding hfound)
  refine ⟨hload, fun hroot => ?_, fun deciding e hsource herror => blames_of_load hsource herror⟩
  rw [hload, mapError_mapPath_id fun place => Workspace.moved_of_root_eq hroot]

def usualParsers : Parsers := .standard .usual

/-- Whether a source holds a mapping of one text to another. -/
def holdsEntry (deciding : ConfigurationSource) (key text : String) : Bool :=
  match document usualParsers.reader deciding with
  | .ok (_, .map [(.text k, .text t)]) => k = key ∧ t = text
  | _ => false

lemma eq_of_holdsEntry {deciding : ConfigurationSource} {key text place : String} {v : Value}
    (h : holdsEntry deciding key text) (hdocument : document usualParsers.reader deciding = .ok (place, v)) :
    v = .map [(.text key, .text text)] := by
  unfold holdsEntry at h
  split at h
  · next hentry =>
    obtain ⟨rfl, rfl⟩ := of_decide_eq_true h
    exact congrArg Prod.snd (Except.ok.inj (hdocument.symm.trans hentry))
  · exact absurd h Bool.false_ne_true

/-- Two workspaces with the same project file and the same file of assignments, which it names; what
one of them holds besides does not count. -/
theorem load_decided_envFile :
    let bytes := "[tool.aiohttp-stubgen]\n_env_file = \"extra.env\"".toUTF8.toList
    let extra := Stored.file "AIOHTTP_STUBGEN_PACKAGE_NAME=other".toUTF8.toList
    let w : Workspace := ⟨"/v", [("pyproject.toml", .file bytes), ("extra.env", extra)]⟩
    let w' : Workspace :=
      ⟨"/w", [("notes", .directory), ("pyproject.toml", .file bytes), ("extra.env", extra)]⟩
    w.AgreeOnSource w' none ∧
      load usualParsers.reader ⟨[], w'⟩ none =
        (load usualParsers.reader ⟨[], w⟩ none).mapError (.mapPath (w.moved w' none)) := by
  intro bytes extra w w'
  have hnothing : ∀ other ∈ filenames, w.find other = .nothing ∧ w'.find other = .nothing := by
    decide +kernel
  have hbefore : ∀ other ∈ filenames, w.Lacks other ∧ w'.Lacks other := fun other ho =>
    (hnothing other ho).imp Workspace.lacks_of_nothing Workspace.lacks_of_nothing
  have hfound : w.find projectFilename = .stored (.file bytes) := by decide +kernel
  have hagree : w.AgreeOnSource w' none := .project rfl hbefore hfound (by decide +kernel)
  refine ⟨hagree, (@load_decided ⟨[], w⟩ ⟨[], w'⟩ none usualParsers rfl hagree ?_).1⟩
  intro deciding place v hsource hdocument
  rw [source_of_project rfl (fun other ho => (hbefore other ho).1) hfound] at hsource
  obtain rfl := Except.ok.inj hsource
  have hholds : holdsEntry (.project (w.under projectFilename) (.file bytes)) "_env_file"
      "extra.env" := by decide +kernel
  obtain rfl := eq_of_holdsEntry hholds hdocument
  intro entries input d hentries hinput hd
  obtain rfl := Value.map.inj hentries
  obtain rfl := Option.some.inj hinput
  obtain rfl := Except.ok.inj hd
  refine ⟨?_, fun paths hpaths => ?_⟩
  · change ∀ path ∈ ["extra.env"], w'.find path = w.find path
    decide +kernel
  · obtain rfl : [] = paths := Except.ok.inj hpaths
    simp

def packageOf? : Except ConfigurationError Options → Option String
  | .ok o => match o.value .packageName with
    | .text s => some s
    | _ => none
  | .error _ => none

/-- The source alone does not decide: two workspaces with the same project file give different
options, because it names a file of assignments that is there in one of them only. -/
theorem load_ne_of_envFile :
    let bytes := "[tool.aiohttp-stubgen]\n_env_file = \"extra.env\"".toUTF8.toList
    let extra := Stored.file "AIOHTTP_STUBGEN_PACKAGE_NAME=other".toUTF8.toList
    let w : Workspace := ⟨"/w", [("pyproject.toml", .file bytes)]⟩
    let w' : Workspace := ⟨"/w", [("pyproject.toml", .file bytes), ("extra.env", extra)]⟩
    w.AgreeOnSource w' none ∧ load usualParsers.reader ⟨[], w'⟩ none ≠ load usualParsers.reader ⟨[], w⟩ none := by
  intro bytes extra w w'
  have hnothing : ∀ other ∈ filenames, w.find other = .nothing ∧ w'.find other = .nothing := by
    decide +kernel
  have hbefore : ∀ other ∈ filenames, w.Lacks other ∧ w'.Lacks other := fun other ho =>
    (hnothing other ho).imp Workspace.lacks_of_nothing Workspace.lacks_of_nothing
  have hfound : w.find projectFilename = .stored (.file bytes) := by decide +kernel
  refine ⟨.project rfl hbefore hfound (by decide +kernel), fun hsame => ?_⟩
  have hpackages : packageOf? (load usualParsers.reader ⟨[], w'⟩ none) = some "other" ∧
      packageOf? (load usualParsers.reader ⟨[], w⟩ none) = some "aiohttp_server" := by
    -- The names of variables are folded without the tables of letter case.
    simp only [load, options, Parsers.reader, Options.read, Options.ofInput, Options.strayNames,
      Options.unknownNames]
    delta OptionSource.ofInput OptionSource.ofVariables
    simp only [sameName, foldedName_eq, String.toList_append]
    decide +kernel
  obtain ⟨hother, husual⟩ := hpackages
  rw [hsame, husual] at hother
  exact absurd hother (by decide)

end Configuration
end StubPlan
