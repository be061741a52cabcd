import StubPlan.Options.Resolve
import StubPlan.Proofs.Except

/-! How looking up options in a document fails without a word about their values: a key of the
document is no name, or a directive has a value that it has no use for. -/
namespace StubPlan

namespace Value

def isText : Value → Bool
  | .text _ => true
  | _ => false

/-- Whether a value has a length, as texts, lists and mappings do. -/
def hasLength : Value → Bool
  | .text _ | .list _ | .map _ | .halves _ => true
  | _ => false

/-- Whether a value gives paths: a text, or texts in a list or as the keys of a mapping. -/
def givesPaths : Value → Bool
  | .text _ => true
  | .list items => items.all isText
  | .map entries => entries.all (·.1.isText)
  | _ => false

end Value

@[simp] lemma OptionsError.unfitDirective_ne_notFollowed : unfitDirective ≠ notFollowed := by
  simp [notFollowed]

section Parts

/-! Each part of a document that says where options are looked for fails in few ways. -/

variable {v : Value} {given : Option Value} {e : OptionsError} {input : List (String × Value)}

lemma Directive.pathOf_eq_error_iff :
    paths.pathOf v = .error e ↔ e = .unfitDirective ∧ v.isText = false := by
  cases v <;> simp [paths.pathOf, Value.isText, eq_comm (a := e)]

lemma Directive.mapM_pathOf_eq_error_iff {α : Type} (part : α → Value) {parts : List α} :
    parts.mapM (fun a => paths.pathOf (part a)) = .error e ↔
      e = .unfitDirective ∧ ∃ a ∈ parts, (part a).isText = false := by
  constructor
  · intro h
    obtain ⟨a, ha, h⟩ := Except.exists_of_mapM_eq_error h
    obtain ⟨rfl, hpart⟩ := pathOf_eq_error_iff.mp h
    exact ⟨rfl, a, ha, hpart⟩
  · rintro ⟨rfl, a, ha, hpart⟩
    have hunfit : ∀ b ∈ parts, ∀ d, paths.pathOf (part b) = .error d → d = .unfitDirective :=
      fun b _ d hd => (pathOf_eq_error_iff.mp hd).1
    exact (Except.mapM_eq_error_iff hunfit).mpr ⟨a, ha, pathOf_eq_error_iff.mpr ⟨rfl, hpart⟩⟩

lemma Directive.paths_eq_error_iff : paths given = .error e ↔
    e = .unfitDirective ∧ ∃ v, given = some v ∧ v.givesPaths = false := by
  rcases given with - | v
  · simp [paths]
  · cases v with
    | text s => simp [paths, Value.givesPaths]
    | list items =>
      rw [paths]
      refine (mapM_pathOf_eq_error_iff fun v => v).trans ?_
      simp [Value.givesPaths]
    | map entries =>
      rw [paths]
      refine (mapM_pathOf_eq_error_iff Prod.fst).trans ?_
      simp [Value.givesPaths]
    | _ => simp [paths, Value.givesPaths, eq_comm (a := e)]

lemma Directives.readPrefix_eq_error_iff : readPrefix given = .error e ↔
    e = .unfitDirective ∧ ∃ v, given = some v ∧ v.hasLength = false := by
  rcases given with - | v
  · simp [readPrefix]
  · cases v <;> simp [readPrefix, Value.hasLength, eq_comm (a := e)]

lemma Directives.eq_notFollowed_of_readPrefix (h : readPrefix given = .ok (.error e)) :
    e = .notFollowed := by
  unfold readPrefix at h
  split at h <;> simp_all

lemma Directives.readArguments_list (items : List Value) :
    readArguments (some (.list items)) = items.mapM fun v => Directive.paths.pathOf v := rfl

lemma Directives.readArguments_eq_error_iff (he : e ≠ .notFollowed) :
    readArguments given = .error e ↔ e = .unfitDirective ∧
      ∃ items, given = some (.list items) ∧ ∃ v ∈ items, v.isText = false := by
  rcases given with - | v
  · simp [readArguments]
  · cases v with
    | list items =>
      rw [readArguments_list, Directive.mapM_pathOf_eq_error_iff fun v => v]
      simp
    | flag b => simp [readArguments]
    | _ => simp only [readArguments]; split <;> simp [he.symm]

end Parts

section Directives

/-! Some directives are read before anything else is looked at. -/

variable {e : OptionsError} {input : List (String × Value)} {d : Directives}

/-- A directive that is read at once has a value that it has no use for. -/
inductive Directives.IsUnfit (input : List (String × Value)) : Prop
  | maxSplits {v : Value} (hv : Directive.find? input Directive.maxSplits = some v)
      (hlength : v.hasLength) (hempty : v.isEmpty = false)
  | envPrefix {v : Value} (hv : Directive.find? input Directive.envPrefix = some v)
      (hlength : v.hasLength = false)
  | assignmentFiles {v : Value} (hv : Directive.find? input Directive.assignmentFiles = some v)
      (hpaths : v.givesPaths = false)
  | arguments {items : List Value} {v : Value}
      (hitems : Directive.find? input Directive.arguments = some (.list items)) (hv : v ∈ items)
      (htext : v.isText = false)

/-- Whether a document says how often names may be split by something that has a length and is not
empty. -/
def Directives.splitsUnfit (input : List (String × Value)) : Bool :=
  (Directive.find? input Directive.maxSplits).any fun v => v.hasLength && !v.isEmpty

lemma Directives.splitsUnfit_iff : splitsUnfit input ↔
    ∃ v, Directive.find? input Directive.maxSplits = some v ∧ v.hasLength ∧ v.isEmpty = false := by
  simp [splitsUnfit, Option.any_eq_true]

/-- The directives in a document whose names may be split as often as it says. -/
def Directives.readUnsplit (input : List (String × Value)) : Except OptionsError Directives := do
  let envPrefix ← readPrefix (Directive.find? input Directive.envPrefix)
  let assignmentFiles ← Directive.paths (Directive.find? input Directive.assignmentFiles)
  let arguments ← readArguments (Directive.find? input Directive.arguments)
  return {
    envPrefix
    caseSensitive := Directive.isOn input Directive.caseSensitive
    ignoreEmpty := Directive.isOn input Directive.ignoreEmpty
    nullText := match Directive.find? input Directive.nullText with
      | some (.text s) => some s
      | _ => none
    assignmentFiles
    valueFolders := Directive.paths (Directive.find? input Directive.valueFolders)
    arguments }

lemma Directives.read_eq (input : List (String × Value)) :
    read input = if splitsUnfit input then .error .unfitDirective else readUnsplit input := by
  obtain hnone | ⟨v, hv⟩ :=
    Option.eq_none_or_eq_some (Directive.find? input Directive.maxSplits)
  · simp only [read, splitsUnfit, hnone]
    rfl
  · simp only [read, splitsUnfit, Directive.isOn, hv]
    cases v <;> rfl

lemma Directives.readUnsplit_eq_unfitDirective_iff :
    readUnsplit input = .error .unfitDirective ↔
      readPrefix (Directive.find? input Directive.envPrefix) = .error .unfitDirective ∨
        Directive.paths (Directive.find? input Directive.assignmentFiles) = .error .unfitDirective ∨
          readArguments (Directive.find? input Directive.arguments) = .error .unfitDirective := by
  refine Except.bind_eq_error_iff_or (fun d hd => (readPrefix_eq_error_iff.mp hd).1) fun front => ?_
  refine Except.bind_eq_error_iff_or (fun d hd => (Directive.paths_eq_error_iff.mp hd).1)
    fun files => ?_
  rw [Except.bind_eq_error_iff]
  simp [pure, Except.pure]

/-- Reading directives breaks off exactly when one of those that are read at once is unfit. -/
lemma Directives.read_eq_unfitDirective_iff :
    read input = .error .unfitDirective ↔ IsUnfit input := by
  have hparts : read input = .error .unfitDirective ↔
      splitsUnfit input ∨ readUnsplit input = .error .unfitDirective := by
    rw [read_eq]
    by_cases hsplits : splitsUnfit input <;> simp [hsplits]
  rw [hparts, splitsUnfit_iff, readUnsplit_eq_unfitDirective_iff, readPrefix_eq_error_iff,
    Directive.paths_eq_error_iff, readArguments_eq_error_iff (by simp)]
  constructor
  · rintro (⟨v, hv, hlength, hempty⟩ | ⟨-, v, hv, hlength⟩ | ⟨-, v, hv, hpaths⟩ |
      ⟨-, items, hitems, v, hv, htext⟩)
    · exact .maxSplits hv hlength hempty
    · exact .envPrefix hv hlength
    · exact .assignmentFiles hv hpaths
    · exact .arguments hitems hv htext
  · rintro (⟨hv, hlength, hempty⟩ | ⟨hv, hlength⟩ | ⟨hv, hpaths⟩ | ⟨hitems, hv, htext⟩)
    · exact .inl ⟨_, hv, hlength, hempty⟩
    · exact .inr (.inl ⟨rfl, _, hv, hlength⟩)
    · exact .inr (.inr (.inl ⟨rfl, _, hv, hpaths⟩))
    · exact .inr (.inr (.inr ⟨rfl, _, hitems, _, hv, htext⟩))

/-- Reading directives breaks off in one way, besides the faults that are told. -/
lemma Directives.eq_unfitDirective_of_read (he : e ≠ .notFollowed) (h : read input = .error e) :
    e = .unfitDirective := by
  rw [read_eq] at h
  split at h
  · exact (Except.error.inj h).symm
  · simp only [readUnsplit, Except.bind_eq_error_iff] at h
    obtain h | ⟨front, -, h | ⟨files, -, h | ⟨arguments, -, h⟩⟩⟩ := h
    · exact (readPrefix_eq_error_iff.mp h).1
    · exact (Directive.paths_eq_error_iff.mp h).1
    · exact ((readArguments_eq_error_iff he).mp h).1
    · exact absurd h (by simp [pure, Except.pure])

lemma Directives.readUnsplit_of_read (h : read input = .ok d) : readUnsplit input = .ok d := by
  rw [read_eq] at h
  split at h
  · exact absurd h (by simp)
  · exact h

lemma Directives.eq_notFollowed_of_read (h : read input = .ok d) (he : d.envPrefix = .error e) :
    e = .notFollowed := by
  have hread := readUnsplit_of_read h
  simp only [readUnsplit, Except.bind_eq_ok_iff] at hread
  obtain ⟨front, hfront, files, -, arguments, -, hd⟩ := hread
  obtain rfl := Except.ok.inj hd
  obtain rfl : front = .error e := he
  exact eq_notFollowed_of_readPrefix hfront

lemma Directives.valueFolders_of_read (h : read input = .ok d) :
    d.valueFolders = Directive.paths (Directive.find? input Directive.valueFolders) := by
  have hread := readUnsplit_of_read h
  simp only [readUnsplit, Except.bind_eq_ok_iff] at hread
  obtain ⟨front, -, files, -, arguments, -, hd⟩ := hread
  obtain rfl := Except.ok.inj hd
  rfl

end Directives

section Places

/-! Where options are looked for besides the document, a place that cannot be looked into is a fault
that is told. -/

variable {s : Surroundings} {d : Directives} {e : OptionsError} {input : List (String × Value)}

lemma Surroundings.eq_notFollowed_of_assignments {files : List String}
    (h : s.assignments files = .error e) : e = .notFollowed := by
  obtain ⟨done, path, -, hfile⟩ := Except.exists_of_foldlM_eq_error h
  split at hfile
  · split at hfile
    · exact absurd hfile (by simp)
    · exact (Except.error.inj hfile).symm
  · exact absurd hfile (by simp)

lemma Surroundings.eq_notFollowed_of_valueIn? {caseSensitive : Bool} {folder name : String}
    (h : s.valueIn? caseSensitive folder name = .error e) : e = .notFollowed := by
  unfold valueIn? at h
  split at h
  · exact absurd h (by simp)
  · split at h
    · split at h
      · exact absurd h (by simp)
      · exact (Except.error.inj h).symm
    · exact absurd h (by simp)

/-- Folders are of no use when they are not given by texts, or when they cannot be looked into. -/
lemma Surroundings.folderValues_eq_error {front : String} (h : s.folderValues d front = .error e) :
    d.valueFolders = .error e ∨ e = .notFollowed := by
  rw [folderValues, Except.bind_eq_error_iff] at h
  obtain h | ⟨folders, -, h⟩ := h
  · exact .inl h
  · right
    dsimp only at h
    split at h
    · exact (Except.error.inj h).symm
    · obtain h | ⟨found, -, h⟩ := Except.bind_eq_error_iff.mp h
      · obtain ⟨f, -, h⟩ := Except.exists_of_mapM_eq_error h
        obtain h | ⟨values, -, h⟩ := Except.bind_eq_error_iff.mp h
        · obtain ⟨folder, -, h⟩ := Except.exists_of_mapM_eq_error h
          exact eq_notFollowed_of_valueIn? h
        · exact absurd h (by simp [pure, Except.pure])
      · exact absurd h (by simp [pure, Except.pure])

end Places

section Document

/-! What becomes of a whole document. -/

variable {s : Surroundings} {v : Value} {input : List (String × Value)}

/-- The values for which a document cannot name all that is to be read: what has two parts must have
an empty one first. -/
inductive Directive.CannotNameSources : Value → Prop
  | list {first second : Value} (h : first.isEmpty = false) :
    CannotNameSources (.list [first, second])
  | map {key value : Value} {entry : Value × Value} (h : key.isEmpty = false) :
    CannotNameSources (.map [(key, value), entry])
  | text {name : String} (h : name.length = 2) : CannotNameSources (.text name)
  | single {v : Value} (h : v.hasLength = false) : CannotNameSources v

/-- A directive of a document has a value that it has no use for. Folders are looked into last, so
that nothing else must have been at fault before. -/
inductive Options.IsUnfit (s : Surroundings) (input : List (String × Value)) : Prop
  | sources {v : Value} (hv : Directive.find? input Directive.sources = some v)
      (hnames : Directive.CannotNameSources v)
  | directives (hnone : Directive.find? input Directive.sources = none)
      (hunfit : Directives.IsUnfit input)
  | valueFolders (hnone : Directive.find? input Directive.sources = none) {d : Directives}
      {assigned : List Assignments.Assignment} {front : String} {v : Value}
      (hread : Directives.read input = .ok d)
      (hfiles : s.assignments d.assignmentFiles = .ok assigned) (hfront : d.envPrefix = .ok front)
      (hv : Directive.find? input Directive.valueFolders = some v) (hpaths : v.givesPaths = false)

lemma Options.not_isUnfit_nil : ¬ IsUnfit s [] := by
  rintro (⟨hv, -⟩ | ⟨-, ⟨hv⟩ | ⟨hv⟩ | ⟨hv⟩ | ⟨hv⟩⟩ | ⟨-, -, -, -, hv, -⟩) <;>
    exact absurd hv (by simp [Directive.find?])

lemma Options.ofNamedSources_eq_unfitDirective_iff :
    ofNamedSources v = .error .unfitDirective ↔ Directive.CannotNameSources v := by
  constructor
  · intro h
    unfold ofNamedSources at h
    split at h
    · split at h
      · exact absurd h (by simp)
      · next hempty => exact .list (by simpa using hempty)
    · split at h
      · exact absurd h (by simp)
      · next hempty => exact .map (by simpa using hempty)
    · split at h
      · next hlength => exact .text hlength
      · exact absurd h (by simp [OptionsError.notFollowed])
    · exact absurd h (by simp [OptionsError.notFollowed])
    · exact absurd h (by simp [OptionsError.notFollowed])
    · exact absurd h (by simp [OptionsError.notFollowed])
    · next hlist hmap htext _ _ _ =>
      exact .single (by cases v <;> simp_all [Value.hasLength])
  · rintro (hempty | hempty | hlength | hlength)
    · simp [ofNamedSources, hempty]
    · simp [ofNamedSources, hempty]
    · simp [ofNamedSources, hlength]
    · cases v with
      | text s | list items | map entries | halves codes =>
        exact absurd hlength (by simp [Value.hasLength])
      | _ => rfl

/-- Where looking up options fails without faults: at once or, when all else could be read, in the
folders. -/
lemma Options.ofInput_eq_error {e : OptionsError} (he : ∀ faults, e ≠ .faults faults)
    (h : ofInput input s = .error e) : Directives.read input = .error e ∨
      ∃ d assigned front, Directives.read input = .ok d ∧
        s.assignments d.assignmentFiles = .ok assigned ∧ d.envPrefix = .ok front ∧
        Directive.paths (Directive.find? input Directive.valueFolders) = .error e := by
  simp only [ofInput, Except.bind_eq_error_iff, Except.mapError_eq_error_iff] at h
  obtain h | ⟨d, hread, h | ⟨assigned, hfiles, h | ⟨front, hfront, h | ⟨folders, -, h⟩⟩⟩⟩ := h
  · exact .inl h
  · exact absurd (Surroundings.eq_notFollowed_of_assignments h) (he _)
  · exact absurd (Directives.eq_notFollowed_of_read hread h) (he _)
  · obtain h | h := Surroundings.folderValues_eq_error h
    · rw [Directives.valueFolders_of_read hread] at h
      exact .inr ⟨d, assigned, front, hread, hfiles, hfront, h⟩
    · exact absurd h (he _)
  · obtain ⟨faults, -, h⟩ := h
    exact absurd h.symm (he faults)

lemma Options.ofInput_eq_unfitDirective_iff : ofInput input s = .error .unfitDirective ↔
    Directives.IsUnfit input ∨
      ∃ d assigned front v, Directives.read input = .ok d ∧
        s.assignments d.assignmentFiles = .ok assigned ∧ d.envPrefix = .ok front ∧
        Directive.find? input Directive.valueFolders = some v ∧ v.givesPaths = false := by
  constructor
  · intro h
    obtain h | ⟨d, assigned, front, hread, hfiles, hfront, h⟩ := ofInput_eq_error (by simp) h
    · exact .inl (Directives.read_eq_unfitDirective_iff.mp h)
    · obtain ⟨-, v, hv, hpaths⟩ := Directive.paths_eq_error_iff.mp h
      exact .inr ⟨d, assigned, front, v, hread, hfiles, hfront, hv, hpaths⟩
  · rintro (h | ⟨d, assigned, front, v, hread, hfiles, hfront, hv, hpaths⟩)
    · rw [ofInput, Directives.read_eq_unfitDirective_iff.mpr h]
      rfl
    · have hfolders : s.folderValues d front = .error .unfitDirective := by
        rw [Surroundings.folderValues, Directives.valueFolders_of_read hread,
          Directive.paths_eq_error_iff.mpr ⟨rfl, v, hv, hpaths⟩]
        rfl
      simp only [ofInput, Except.bind_eq_error_iff]
      exact .inr ⟨d, hread, .inr ⟨assigned, hfiles, .inr ⟨front, hfront, .inl hfolders⟩⟩⟩

lemma Options.eq_unfitDirective_of_ofInput {e : OptionsError} (he : ∀ faults, e ≠ .faults faults)
    (h : ofInput input s = .error e) : e = .unfitDirective := by
  obtain h | ⟨d, assigned, front, -, -, -, h⟩ := ofInput_eq_error he h
  · exact Directives.eq_unfitDirective_of_read (he _) h
  · exact (Directive.paths_eq_error_iff.mp h).1

lemma Options.eq_unfitDirective_of_ofNamedSources {e : OptionsError}
    (he : ∀ faults, e ≠ .faults faults) (h : ofNamedSources v = .error e) : e = .unfitDirective := by
  have hunfit (h : (.error .unfitDirective : Except OptionsError Options) = .error e) :
      e = .unfitDirective := (Except.error.inj h).symm
  have hfollowed : (.error .notFollowed : Except OptionsError Options) ≠ .error e :=
    fun h => he _ (Except.error.inj h).symm
  have hempty : (ofSources [] []).mapError .faults ≠ .error e := fun h => by
    obtain ⟨faults, -, h⟩ := Except.mapError_eq_error_iff.mp h
    exact he faults h.symm
  unfold ofNamedSources at h
  split at h
  · split at h
    · exact absurd h hempty
    · exact hunfit h
  · split at h
    · exact absurd h hempty
    · exact hunfit h
  · split at h
    · exact hunfit h
    · exact absurd h hfollowed
  · exact absurd h hfollowed
  · exact absurd h hfollowed
  · exact absurd h hfollowed
  · exact hunfit h

lemma Options.namedEntries?_eq_none_iff {entries : List (Value × Value)} :
    namedEntries? entries = none ↔ ∃ e ∈ entries, keyName? e.1 = none := by
  rw [namedEntries?, Option.mapM_eq_none_iff]
  exact exists_congr fun e => and_congr_right fun _ => Option.map_eq_none_iff

/-- The entries of a mapping in which looking up options breaks off: a key is no name, or a directive
is unfit. -/
inductive Options.Breaks (s : Surroundings) (entries : List (Value × Value)) : Prop
  | key (hkey : ∃ e ∈ entries, keyName? e.1 = none)
  | directive {input : List (String × Value)} (hinput : namedEntries? entries = some input)
    (hunfit : IsUnfit s input)

lemma Options.not_breaks_nil : ¬ Breaks s [] := by
  rintro (⟨e, he, -⟩ | ⟨hinput, hunfit⟩)
  · exact List.not_mem_nil he
  · obtain rfl := Option.some.inj hinput
    exact not_isUnfit_nil hunfit

/-- Keys are to blame exactly when one of them is no name. -/
lemma Options.read_eq_keyNotText_iff : Options.read v s = .error .keyNotText ↔
    ∃ entries, v = .map entries ∧ ∃ e ∈ entries, keyName? e.1 = none := by
  unfold Options.read
  split
  · next entries =>
    simp only [Value.map.injEq, exists_eq_left', ← namedEntries?_eq_none_iff]
    split
    · next input hinput =>
      refine iff_of_false (fun h => ?_) (by simp [hinput])
      split at h
      · exact absurd (eq_unfitDirective_of_ofNamedSources (by simp) h) (by simp)
      · exact absurd (eq_unfitDirective_of_ofInput (by simp) h) (by simp)
    · next hnone => simp [hnone]
  · next hmap =>
    simp only [reduceCtorEq, false_iff, not_exists, Except.error.injEq]
    rintro entries ⟨rfl, -⟩
    exact hmap entries rfl

/-- A directive is to blame exactly when it has a value that it has no use for, and no key is. -/
lemma Options.read_eq_unfitDirective_iff : Options.read v s = .error .unfitDirective ↔
    ∃ entries input, v = .map entries ∧ namedEntries? entries = some input ∧ IsUnfit s input := by
  unfold Options.read
  split
  · next entries =>
    simp only [Value.map.injEq, exists_and_left, exists_eq_left']
    split
    · next input hinput =>
      simp only [hinput, Option.some.injEq, exists_eq_left']
      split
      · next named hnamed =>
        rw [ofNamedSources_eq_unfitDirective_iff]
        refine ⟨fun h => .sources hnamed h, ?_⟩
        rintro (⟨hv, h⟩ | ⟨hnone, -⟩ | ⟨hnone⟩)
        · exact Option.some.inj (hnamed.symm.trans hv) ▸ h
        · exact absurd (hnamed.symm.trans hnone) (by simp)
        · exact absurd (hnamed.symm.trans hnone) (by simp)
      · next hnone =>
        rw [ofInput_eq_unfitDirective_iff]
        constructor
        · rintro (h | ⟨d, assigned, front, v, hread, hfiles, hfront, hv, hpaths⟩)
          · exact .directives hnone h
          · exact .valueFolders hnone hread hfiles hfront hv hpaths
        · rintro (⟨hv, -⟩ | ⟨-, h⟩ | ⟨-, hread, hfiles, hfront, hv, hpaths⟩)
          · exact absurd (hnone.symm.trans hv) (by simp)
          · exact .inl h
          · exact .inr ⟨_, _, _, _, hread, hfiles, hfront, hv, hpaths⟩
    · next hnone => simp [hnone]
  · next hmap =>
    simp only [Except.error.injEq, reduceCtorEq, false_iff, not_exists]
    rintro entries input ⟨rfl, -⟩
    exact hmap entries rfl

/-- The usual look-up has no further ways to fail. -/
lemma Options.read_ne_other {name : String} : Options.read v s ≠ .error (.other name) := by
  unfold Options.read
  split
  · split
    · split
      · exact fun h => absurd (eq_unfitDirective_of_ofNamedSources (by simp) h) (by simp)
      · exact fun h => absurd (eq_unfitDirective_of_ofInput (by simp) h) (by simp)
    · simp
  · simp

/-- Options are looked up without faults, or with some, unless the document is a mapping in which
looking them up breaks off. -/
lemma Options.read_breaks_iff :
    (Options.read v s = .error .keyNotText ∨ Options.read v s = .error .unfitDirective) ↔
      ∃ entries, v = .map entries ∧ Breaks s entries := by
  rw [read_eq_keyNotText_iff, read_eq_unfitDirective_iff]
  constructor
  · rintro (⟨entries, rfl, hkey⟩ | ⟨entries, input, rfl, hinput, hunfit⟩)
    · exact ⟨entries, rfl, .key hkey⟩
    · exact ⟨entries, rfl, .directive hinput hunfit⟩
  · rintro ⟨entries, rfl, hkey | ⟨hinput, hunfit⟩⟩
    · exact .inl ⟨entries, rfl, hkey⟩
    · exact .inr ⟨entries, _, rfl, hinput, hunfit⟩

end Document

end StubPlan
