import Mathlib.Tactic.Common
import StubPlan.Description.Standard

/-! Which failures to load a description are reported with its source, and which end the run: those in
which a parser or a request goes wrong in a way of its own. Whatever parses, requests and validates,
nothing else does. -/
namespace StubPlan.Loader

variable {δ : Type}

/-- Whether loading a source fails, and not with a cause that is reported with the source. -/
def Unreported (source : String) : Except LoadError δ → Prop
  | .ok _ => False
  | .error (.failed named _) => named ≠ source
  | .error _ => True

instance (source : String) : DecidablePred (Unreported source : Except LoadError δ → Prop)
  | .ok _ => inferInstanceAs (Decidable False)
  | .error (.failed named _) => inferInstanceAs (Decidable (named ≠ source))
  | .error (.parser _) => inferInstanceAs (Decidable True)
  | .error (.request _) => inferInstanceAs (Decidable True)

/-- A validator takes no value but mappings. -/
def TakesMappings (l : Loader δ) : Prop :=
  ∀ v, (∀ entries, v ≠ .map entries) → ∃ faults, l.validate v = .error faults

variable {l : Loader δ} {w : Workspace} {source : String}

/-- The text that a source holds: a file's, or that of a response to a request for the URL. -/
inductive Holds (l : Loader δ) (w : Workspace) (source : String) : List Char → Prop
  | file {bytes : List UInt8} {text : List Char} (hurl : isUrl source = false)
    (hfile : w.find source = .stored (.file bytes)) (htext : fileText bytes = .ok text) :
    Holds l w source text
  | response {text : String} (hurl : isUrl source) (hreply : l.fetch source = .text text) :
    Holds l w source text.toList

/-- The ways in which loading a source ends the run: a request that fails otherwise than by the transfer
or the response, and a text in which the parser stumbles over more than a mistake in writing. -/
inductive Breaks (l : Loader δ) (w : Workspace) (source : String) : Prop
  | request {name : String} (hurl : isUrl source) (hreply : l.fetch source = .raised name)
  | text {text : List Char} {error : ParserError} (htext : Holds l w source text)
    (hread : l.yaml text = .error (.raised error))

/-- A document holds a description: an empty one holds that of an empty mapping, and another one must be
a mapping in which the validator finds it. -/
inductive Describes (l : Loader δ) : Value → δ → Prop
  | empty {v : Value} {d : δ} (h : v.isEmpty) (hvalid : l.validate (.map []) = .ok d) :
    Describes l v d
  | map {entries : List (Value × Value)} {d : δ} (hsome : entries ≠ [])
    (hvalid : l.validate (.map entries) = .ok d) : Describes l (.map entries) d

section Document

variable {v : Value} {d : δ} {text : List Char}

lemma ofDocument_eq_ok_iff (hl : l.TakesMappings) :
    l.ofDocument source v = .ok d ↔ Describes l v d := by
  have hofDocument : l.ofDocument source v = .ok d ↔
      l.validate (if v.isEmpty then .map [] else v) = .ok d := by
    unfold ofDocument
    split <;> simp_all
  rw [hofDocument]
  by_cases hempty : v.isEmpty
  · rw [if_pos hempty]
    constructor
    · exact .empty hempty
    · rintro (⟨-, hvalid⟩ | ⟨hsome, -⟩)
      · exact hvalid
      · exact absurd (List.isEmpty_iff.mp hempty) hsome
  · rw [if_neg hempty]
    constructor
    · intro h
      by_cases hmap : ∃ entries, v = .map entries
      · obtain ⟨entries, rfl⟩ := hmap
        exact .map (fun hnil => hempty (List.isEmpty_iff.mpr hnil)) h
      · obtain ⟨faults, hfaults⟩ := hl v (not_exists.mp hmap)
        exact absurd (h.symm.trans hfaults) (by simp)
    · rintro (⟨h, -⟩ | ⟨-, hvalid⟩)
      · exact absurd h hempty
      · exact hvalid

lemma not_unreported_ofDocument : ¬ Unreported source (l.ofDocument source v) := by
  unfold ofDocument
  split
  · exact id
  · exact fun h => h rfl

lemma unreported_ofText_iff : Unreported source (l.ofText source text) ↔
    ∃ error, l.yaml text = .error (.raised error) := by
  unfold ofText
  split
  · next hread => simp [hread, not_unreported_ofDocument]
  · next hread => simp [hread, Unreported]
  · next hread => simp [hread, Unreported]

lemma ofText_eq_ok_iff (hl : l.TakesMappings) : l.ofText source text = .ok d ↔
    ∃ v, l.yaml text = .ok v ∧ Describes l v d := by
  unfold ofText
  split
  · next hread => simp [hread, ofDocument_eq_ok_iff hl]
  · next hread => simp [hread]
  · next hread => simp [hread]

end Document

/-- What is loaded is in the text that the source holds. -/
lemma load_of_holds {text : List Char} (h : Holds l w source text) :
    l.load w source = l.ofText source text := by
  obtain ⟨hurl, hfile, htext⟩ | ⟨hurl, hreply⟩ := h
  · simp [load, ofFile, hurl, hfile, htext]
  · simp [load, ofUrl, hurl, hreply]

/-- A source holds a text, or loading it fails before a document is looked at: with a cause that is
reported, or by a request that ends the run. -/
lemma load_cases (l : Loader δ) (w : Workspace) (source : String) :
    (∃ text, Holds l w source text) ∨
      (∃ cause, l.load w source = .error (.failed source cause)) ∨
      (Breaks l w source ∧ ∃ e, l.load w source = .error e) := by
  rcases hurl : isUrl source with - | -
  · have hload : l.load w source = l.ofFile w source := by simp [load, hurl]
    rw [hload, ofFile]
    split
    · exact .inr (.inl ⟨_, rfl⟩)
    · exact .inr (.inl ⟨_, rfl⟩)
    · next bytes hfile =>
      rcases htext : fileText bytes with fault | text
      · exact .inr (.inl ⟨_, rfl⟩)
      · exact .inl ⟨text, .file hurl hfile htext⟩
    · exact .inr (.inl ⟨_, rfl⟩)
  · have hload : l.load w source = l.ofUrl source := by simp [load, hurl]
    rw [hload, ofUrl]
    split
    · next text hreply => exact .inl ⟨_, .response hurl hreply⟩
    · exact .inr (.inl ⟨_, rfl⟩)
    · next name hreply => exact .inr (.inr ⟨.request hurl hreply, _, rfl⟩)

/-- Loading a source goes unreported in these ways only. -/
lemma unreported_load_iff : Unreported source (l.load w source) ↔ Breaks l w source := by
  constructor
  · intro h
    obtain ⟨text, htext⟩ | ⟨cause, hfailed⟩ | ⟨hbreaks, -⟩ := load_cases l w source
    · rw [load_of_holds htext] at h
      obtain ⟨error, hread⟩ := unreported_ofText_iff.mp h
      exact .text htext hread
    · rw [hfailed] at h
      exact absurd rfl h
    · exact hbreaks
  · rintro (⟨hurl, hreply⟩ | ⟨htext, hread⟩)
    · simp [load, ofUrl, hurl, hreply, Unreported]
    · rw [load_of_holds htext, unreported_ofText_iff]
      exact ⟨_, hread⟩

lemma load_eq_ok_iff (hl : l.TakesMappings) {d : δ} : l.load w source = .ok d ↔
    ∃ text, Holds l w source text ∧ ∃ v, l.yaml text = .ok v ∧ Describes l v d := by
  constructor
  · intro h
    obtain ⟨text, htext⟩ | ⟨cause, hfailed⟩ | ⟨-, e, herror⟩ := load_cases l w source
    · rw [load_of_holds htext, ofText_eq_ok_iff hl] at h
      exact ⟨text, htext, h⟩
    · exact absurd (h.symm.trans hfailed) (by simp)
    · exact absurd (h.symm.trans herror) (by simp)
  · rintro ⟨text, htext, h⟩
    rw [load_of_holds htext]
    exact (ofText_eq_ok_iff hl).mpr h

/-- Loading a source ends the run unreported in these ways and no others; and it gives a description
exactly when the source holds a text whose document has it. -/
theorem load_contract (l : Loader δ) (hl : l.TakesMappings) (w : Workspace) (source : String) :
    (Unreported source (l.load w source) ↔ Breaks l w source) ∧
      ∀ d, l.load w source = .ok d ↔
        ∃ text, Holds l w source text ∧ ∃ v, l.yaml text = .ok v ∧ Describes l v d :=
  ⟨unreported_load_iff, fun _ => load_eq_ok_iff hl⟩

lemma takesMappings_standard (served : Option Served) (maxDepth : Nat) :
    (standard served maxDepth).TakesMappings := by
  intro v hmap
  refine ⟨[⟨[], .notRecord⟩], ?_⟩
  cases v with
  | map entries => exact absurd rfl (hmap entries)
  | halves codes =>
    simp only [standard, Value.joined]
    split <;> rfl
  | _ => rfl

/-- A workspace with a file that says nothing, and one with a date that no calendar has. -/
def blankAndNoDate : Workspace :=
  ⟨"/w", [("blank.yaml", .file []), ("meta.yaml", .file "2024-13-45".toUTF8.toList)]⟩

/-- A file that says nothing describes nothing, and it is the file's text that does not. -/
theorem load_contract_blank : (standard none 100).load blankAndNoDate "blank.yaml" = .ok .empty ∧
    ¬ Breaks (standard none 100) blankAndNoDate "blank.yaml" := by
  obtain ⟨hbreaks, hok⟩ :=
    load_contract (standard none 100) (takesMappings_standard none 100) blankAndNoDate "blank.yaml"
  have hfile : blankAndNoDate.find "blank.yaml" = .stored (.file []) := by decide +kernel
  have hholds : Holds (standard none 100) blankAndNoDate "blank.yaml" [] :=
    .file (by decide +kernel) hfile rfl
  have hload : (standard none 100).load blankAndNoDate "blank.yaml" = .ok .empty :=
    (hok _).mpr ⟨[], hholds, .null, by rfl, .empty rfl rfl⟩
  refine ⟨hload, fun h => ?_⟩
  have hunreported := hbreaks.mpr h
  rw [hload] at hunreported
  exact hunreported

/-- A file whose text is a date that no calendar has ends the run. -/
theorem load_unreported_noDate :
    Unreported "meta.yaml" ((standard none 100).load blankAndNoDate "meta.yaml") := by
  decide +kernel

end StubPlan.Loader
