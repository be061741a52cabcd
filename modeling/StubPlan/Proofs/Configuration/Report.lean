import StubPlan.Configuration
import StubPlan.Proofs.Options.Directive
import StubPlan.Proofs.TypeExpr.SelfReference

/-! Which failures to find a configuration are reported to the user as such, and which end the run
without a word about the configuration. Whatever parses the files and looks up options, no others
do. -/
namespace StubPlan

/-- Whether a computation fails with an error that is not reported to the user. -/
def Configuration.Unreported {α : Type} : Except ConfigurationError α → Prop
  | .ok _ => False
  | .error e => e.report? = none

/-- The values of `tool` in a project file in which a table cannot be looked up: texts and lists
that hold the table's name, and values that hold nothing. -/
inductive Configuration.IsUnfitTool : Value → Prop
  | text {s : String} (h : toolName.toList <:+: s.toList) : IsUnfitTool (.text s)
  | list {items : List Value} (h : .text toolName ∈ items) : IsUnfitTool (.list items)
  | single {v : Value} (htext : ∀ s, v ≠ .text s) (hlist : ∀ items, v ≠ .list items)
    (hmap : ∀ entries, v ≠ .map entries) : IsUnfitTool v

/-- The sources that no document can be read from and that are not reported: directories, texts in
which a parser stumbles over more than a mistake in writing, and project files that are no text or
have an unfit `tool`. -/
inductive ConfigurationSource.Breaks (r : Configuration.Reader) : ConfigurationSource → Prop
  | directory {path : String} : Breaks r (.yaml path .directory)
  | text {path : String} {bytes : List UInt8} {text : List Char} {error : ParserError}
    (htext : fileText bytes = .ok text) (hread : r.yaml text = .error (.raised error)) :
    Breaks r (.yaml path (.file bytes))
  | projectDirectory {path : String} : Breaks r (.project path .directory)
  | projectBytes {path : String} {bytes : List UInt8} {fault : Utf8.Fault}
    (h : fileText bytes = .error fault) : Breaks r (.project path (.file bytes))
  | projectText {path : String} {bytes : List UInt8} {text : List Char} {error : ParserError}
    (htext : fileText bytes = .ok text) (hread : r.project text = .error (.raised error)) :
    Breaks r (.project path (.file bytes))
  | projectTool {path : String} {bytes : List UInt8} {text : List Char}
    {entries : List (Value × Value)} {tool : Value}
    (htext : fileText bytes = .ok text) (hread : r.project text = .ok entries)
    (htool : Value.get? "tool" entries = some tool) (hunfit : Configuration.IsUnfitTool tool) :
    Breaks r (.project path (.file bytes))

/-- Whether looking up options goes on in spite of what is wrong, which is told as faults then. -/
def OptionsError.IsTold (e : OptionsError) : Prop := ∃ faults, e = .faults faults

/-- A look-up of options takes mappings only, tells so of other documents, and does not break off in an
empty mapping. -/
structure Configuration.Reader.TakesMappings (r : Configuration.Reader) : Prop where
  single : ∀ v s, (∀ entries, v ≠ .map entries) →
    r.options v s = .error (.faults [⟨[], .notRecord⟩])
  nil : ∀ s e, r.options (.map []) s = .error e → e.IsTold

/-- The ways in which looking for a configuration ends the run: the path that is named is too long,
the source that decides cannot be read, or its document is a mapping in which looking up options
breaks off. -/
inductive Configuration.Breaks (r : Configuration.Reader) (s : Surroundings)
    (path : Option String) : Prop
  | name {named : String} (hnamed : path.filter (· ≠ "") = some named)
    (hlong : s.workspace.find named = .nameTooLong)
  | source {deciding : ConfigurationSource} (hsource : source s.workspace path = .ok deciding)
    (hbreaks : deciding.Breaks r)
  | document {deciding : ConfigurationSource} {place : String} {entries : List (Value × Value)}
    {e : OptionsError} (hsource : source s.workspace path = .ok deciding)
    (hdocument : document r deciding = .ok (place, .map entries))
    (hoptions : r.options (.map entries) s = .error e) (htold : ¬ e.IsTold)

namespace Configuration

variable {r : Reader} {s : Surroundings} {path : Option String} {deciding : ConfigurationSource}

section Steps

variable {α β : Type} {x : Except ConfigurationError α}

@[simp] lemma unreported_ok (a : α) : ¬ Unreported (.ok a) := id

@[simp] lemma unreported_error_iff {e : ConfigurationError} :
    Unreported (.error e : Except ConfigurationError α) ↔ e.report? = none := Iff.rfl

/-- Of two steps one goes unreported when the first one does, or the second one on what the first
gives. -/
lemma unreported_bind_iff {f : α → Except ConfigurationError β} :
    Unreported (x >>= f) ↔ Unreported x ∨ ∃ a, x = .ok a ∧ Unreported (f a) := by
  cases x <;> simp [bind, Except.bind]

lemma unreported_map_iff {f : α → β} : Unreported (x.map f) ↔ Unreported x := by
  cases x <;> simp [Except.map]

end Steps

/-- Of the search for the deciding source, only a path that is too long goes unreported. -/
lemma unreported_source_iff {w : Workspace} : Unreported (source w path) ↔
    ∃ named, path.filter (· ≠ "") = some named ∧ w.find named = .nameTooLong := by
  unfold source
  split
  · next named hnamed =>
    simp only [hnamed, Option.some.injEq, exists_eq_left']
    split
    · next hfound => simp [hfound]
    · next hlong => simp [hlong, ConfigurationError.report?]
    · next hlong => simpa [ConfigurationError.report?] using hlong
  · next hnone =>
    simp only [hnone, reduceCtorEq, false_and, exists_false, iff_false]
    split
    · exact id
    · split <;> simp [ConfigurationError.report?]

lemma unreported_readYaml_iff {place : String} {stored : Stored} :
    Unreported (readYaml r place stored) ↔ (ConfigurationSource.yaml place stored).Breaks r := by
  constructor
  · intro h
    unfold readYaml at h
    split at h
    · exact .directory
    · split at h
      · exact absurd h (by simp [ConfigurationError.report?])
      · next text htext =>
        split at h
        · exact absurd h (unreported_ok _)
        · exact absurd h (by simp [ConfigurationError.report?])
        · next hread => exact .text htext hread
  · rintro (_ | ⟨htext, hread⟩)
    · rfl
    · simp only [readYaml, htext, hread]
      rfl

lemma unreported_toolTable_iff {tools : Value} :
    Unreported (toolTable tools) ↔ IsUnfitTool tools := by
  constructor
  · intro h
    cases tools with
    | map entries =>
      simp only [toolTable] at h
      split at h <;> exact absurd h (by simp [ConfigurationError.report?])
    | text s =>
      simp only [toolTable] at h
      split at h
      · next hin => exact .text (TypeExpr.occursIn_iff.mp hin)
      · exact absurd h (by simp [ConfigurationError.report?])
    | list items =>
      simp only [toolTable] at h
      split at h
      · next hany =>
        obtain ⟨v, hv, hname⟩ := List.any_eq_true.mp hany
        cases v with
        | text s =>
          obtain rfl : s = toolName := of_decide_eq_true hname
          exact .list hv
        | _ => exact absurd hname (by simp)
      · exact absurd h (by simp [ConfigurationError.report?])
    | _ => exact .single (by simp) (by simp) (by simp)
  · rintro (hin | hin | ⟨htext, hlist, hmap⟩)
    · simp [toolTable, TypeExpr.occursIn_iff.mpr hin, ConfigurationError.report?]
    · simp only [toolTable]
      rw [if_pos (List.any_eq_true.mpr ⟨_, hin, decide_eq_true rfl⟩)]
      rfl
    · cases tools with
      | text s => exact absurd rfl (htext s)
      | list items => exact absurd rfl (hlist items)
      | map entries => exact absurd rfl (hmap entries)
      | _ => rfl

lemma unreported_readProject_iff {place : String} {stored : Stored} :
    Unreported (readProject r place stored) ↔ (ConfigurationSource.project place stored).Breaks r := by
  have hempty : ¬ Unreported (toolTable (.map [])) := by
    simp [toolTable, Value.get?, ConfigurationError.report?]
  constructor
  · intro h
    unfold readProject at h
    split at h
    · exact .projectDirectory
    · split at h
      · next hbytes => exact .projectBytes hbytes
      · next text htext =>
        split at h
        · next entries hread =>
          rcases htool : Value.get? "tool" entries with - | tool
          · rw [htool] at h
            exact absurd h hempty
          · rw [htool] at h
            exact .projectTool htext hread htool (unreported_toolTable_iff.mp h)
        · exact absurd h (by simp [ConfigurationError.report?])
        · next hread => exact .projectText htext hread
  · rintro (_ | _ | _ | hbytes | ⟨htext, hread⟩ | ⟨htext, hread, htool, hunfit⟩)
    · rfl
    · simp only [readProject, hbytes]
      rfl
    · simp only [readProject, htext, hread]
      rfl
    · simp only [readProject, htext, hread, htool]
      exact unreported_toolTable_iff.mpr hunfit

lemma unreported_document_iff : Unreported (document r deciding) ↔ deciding.Breaks r := by
  cases deciding with
  | yaml place stored => rw [document, unreported_map_iff, unreported_readYaml_iff]
  | project place stored => rw [document, unreported_map_iff, unreported_readProject_iff]

/-- Looking up options goes unreported when it breaks off, which it does not in a document that says
nothing. -/
lemma unreported_options_iff (hr : r.TakesMappings) {place : String} {v : Value} :
    Unreported (options r s place v) ↔
      ∃ entries e, v = .map entries ∧ r.options (.map entries) s = .error e ∧ ¬ e.IsTold := by
  have hread : Unreported (options r s place v) ↔
      ∃ e, r.options (if v.isEmpty then .map [] else v) s = .error e ∧ ¬ e.IsTold := by
    unfold options
    split <;> simp_all [ConfigurationError.report?, OptionsError.IsTold]
  rw [hread]
  by_cases hempty : v.isEmpty
  · rw [if_pos hempty]
    refine iff_of_false ?_ ?_
    · rintro ⟨e, he, htold⟩
      exact htold (hr.nil s e he)
    · rintro ⟨entries, e, rfl, he, htold⟩
      obtain rfl : entries = [] := List.isEmpty_iff.mp hempty
      exact htold (hr.nil s e he)
  · rw [if_neg hempty]
    constructor
    · rintro ⟨e, he, htold⟩
      by_cases hmap : ∃ entries, v = .map entries
      · obtain ⟨entries, rfl⟩ := hmap
        exact ⟨entries, e, rfl, he, htold⟩
      · rw [hr.single v s (not_exists.mp hmap)] at he
        exact absurd ⟨_, (Except.error.inj he).symm⟩ htold
    · rintro ⟨entries, e, rfl, he, htold⟩
      exact ⟨e, he, htold⟩

/-- Looking for a configuration goes unreported in these ways only. -/
lemma unreported_load_iff (hr : r.TakesMappings) : Unreported (load r s path) ↔ Breaks r s path := by
  rw [load, unreported_bind_iff, unreported_source_iff]
  simp only [unreported_bind_iff, unreported_document_iff]
  constructor
  · rintro (⟨named, hnamed, hlong⟩ | ⟨deciding, hsource, hbreaks | ⟨⟨place, v⟩, hdocument, h⟩⟩)
    · exact .name hnamed hlong
    · exact .source hsource hbreaks
    · obtain ⟨entries, e, rfl, he, htold⟩ := (unreported_options_iff hr).mp h
      exact .document hsource hdocument he htold
  · rintro (⟨hnamed, hlong⟩ | ⟨hsource, hbreaks⟩ | ⟨hsource, hdocument, he, htold⟩)
    · exact .inl ⟨_, hnamed, hlong⟩
    · exact .inr ⟨_, hsource, .inl hbreaks⟩
    · exact .inr ⟨_, hsource, .inr ⟨_, hdocument,
        (unreported_options_iff hr).mpr ⟨_, _, rfl, he, htold⟩⟩⟩

lemma load_of_document {place : String} {v : Value}
    (hsource : source s.workspace path = .ok deciding)
    (hdocument : document r deciding = .ok (place, v)) : load r s path = options r s place v := by
  simp only [load, hsource, hdocument, bind, Except.bind]

lemma options_of_not_map (hr : r.TakesMappings) {place : String} {v : Value}
    (hmap : ∀ entries, v ≠ .map entries) :
    options r s place v =
      if v.isEmpty then options r s place (.map [])
      else .error (.invalid place [⟨[], .notRecord⟩]) := by
  by_cases hempty : v.isEmpty
  · rw [if_pos hempty, options, if_pos hempty]
    rfl
  · rw [if_neg hempty, options, if_neg hempty, hr.single v s hmap]

/-- The usual look-up takes mappings only, and there is no key or directive in an empty one. -/
lemma takesMappings_reader (p : Parsers) : p.reader.TakesMappings where
  single v s hmap := by
    cases v with
    | map entries => exact absurd rfl (hmap entries)
    | _ => rfl
  nil s e h := by
    change Options.read (.map []) s = .error e at h
    have hnot : ¬ (Options.read (.map []) s = .error .keyNotText ∨
        Options.read (.map []) s = .error .unfitDirective) := by
      rw [Options.read_breaks_iff]
      rintro ⟨entries, hentries, hbreaks⟩
      obtain rfl := Value.map.inj hentries
      exact Options.not_breaks_nil hbreaks
    cases e with
    | faults faults => exact ⟨faults, rfl⟩
    | keyNotText => exact absurd (.inl h) hnot
    | unfitDirective => exact absurd (.inr h) hnot
    | other name => exact (Options.read_ne_other h).elim

/-- Whether a source holds just an integer. -/
def holdsInt (r : Reader) (deciding : ConfigurationSource) (place : String) (n : Int) : Bool :=
  match document r deciding with
  | .ok (found, .int m) => found = place ∧ m = n
  | _ => false

lemma document_of_holdsInt {place : String} {n : Int} (h : holdsInt r deciding place n) :
    document r deciding = .ok (place, .int n) := by
  unfold holdsInt at h
  split at h
  · next hdocument =>
    obtain ⟨rfl, rfl⟩ := of_decide_eq_true h
    exact hdocument
  · exact absurd h Bool.false_ne_true

/-- A search for a configuration ends the run unreported in these ways and no others. A document
that is no mapping is reported to be none, unless it is empty in some way: then it counts as an empty
mapping. -/
theorem load_report (r : Reader) (hr : r.TakesMappings) (s : Surroundings) (path : Option String) :
    (Unreported (load r s path) ↔ Breaks r s path) ∧
      ∀ deciding place v, source s.workspace path = .ok deciding →
        document r deciding = .ok (place, v) → (∀ entries, v ≠ .map entries) →
        load r s path =
          if v.isEmpty then options r s place (.map [])
          else .error (.invalid place [⟨[], .notRecord⟩]) := by
  refine ⟨unreported_load_iff hr, ?_⟩
  intro deciding place v hsource hdocument hmap
  rw [load_of_document hsource hdocument, options_of_not_map hr hmap]

def usualReader : Reader := (Parsers.standard .usual).reader

/-- An integer in place of the table is reported to be no table. -/
theorem load_report_integer :
    load usualReader
      ⟨[], ⟨"/w", [("pyproject.toml", .file "tool.aiohttp-stubgen = 5".toUTF8.toList)]⟩⟩ none =
      .error (.invalid "/w/pyproject.toml" [⟨[], .notRecord⟩]) := by
  have hdocument : document usualReader (.project "/w/pyproject.toml"
      (.file "tool.aiohttp-stubgen = 5".toUTF8.toList)) = .ok ("/w/pyproject.toml", .int 5) :=
    document_of_holdsInt (by decide +kernel)
  exact (load_report usualReader (takesMappings_reader _) _ none).2 _ _ _ (by rfl)
    hdocument (by simp)

/-- A project file that is no text ends the run, where a YAML file that is none is reported; and zero
in place of the table gives options. -/
theorem load_unreported_undecodable :
    Unreported (load usualReader
      ⟨[], ⟨"/w", [("pyproject.toml", .file [0xff])]⟩⟩ none) ∧
      load usualReader
        ⟨[], ⟨"/w", [("pyproject.toml", .file "tool.aiohttp-stubgen = 0".toUTF8.toList)]⟩⟩ none =
        .ok ⟨OptionField.default⟩ := by
  refine ⟨rfl, ?_⟩
  have hdocument : document usualReader (.project "/w/pyproject.toml"
      (.file "tool.aiohttp-stubgen = 0".toUTF8.toList)) = .ok ("/w/pyproject.toml", .int 0) :=
    document_of_holdsInt (by decide +kernel)
  rw [load_of_document (by rfl) hdocument]
  rfl

end Configuration
end StubPlan
