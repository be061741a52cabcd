import Mathlib.Data.List.Nodup
import StubPlan.Proofs.Description.Checked
import StubPlan.Proofs.Options.Named
import StubPlan.Proofs.Options.Takes

/-! Options one by one. In a document that names options and nothing else each option has a value that
counts for it, and the options are read exactly when each of them takes its own. What is said of one
option in the document or in the environment therefore changes no other. -/
namespace StubPlan

section Faults

/-! What is not taken has a fault to show for it. -/

lemma Checked.textOfBytes_ne_error_nil (bs : List UInt8) : textOfBytes bs ≠ .error [] := by
  unfold textOfBytes
  split <;> simp

lemma readFlagWord_ne_error_nil (word : String) : readFlagWord word ≠ .error [] := by
  unfold readFlagWord
  split <;> simp

lemma readFlag_ne_error_nil (v : Value) : readFlag v ≠ .error [] := by
  cases v with
  | text s => exact readFlagWord_ne_error_nil s
  | bytes bs =>
    simp only [readFlag]
    split
    · exact readFlagWord_ne_error_nil _
    · simp
  | int n =>
    simp only [readFlag]
    split
    · split <;> simp
    · simp
  | float x =>
    simp only [readFlag]
    split
    · split
      · split <;> simp
      · simp
    · simp
  | _ => simp [readFlag]

lemma OptionField.read_ne_error_nil (f : OptionField) (given : Value) :
    f.read given ≠ .error [] := by
  unfold OptionField.read
  split
  · simp
  · split
    · exact Checked.map_ne_error_nil (readFlag_ne_error_nil _) _
    · simp
    · simp
    · simp
    · exact Checked.map_ne_error_nil (Checked.textOfBytes_ne_error_nil _) _
    · simp

lemma OptionField.resolve_ne_error_nil (f : OptionField) (sources : List OptionSource) :
    f.resolve sources ≠ .error [] := by
  unfold OptionField.resolve
  split
  · exact Checked.under_ne_error_nil (f.read_ne_error_nil _) _
  · simp

/-- Options are made of sources exactly when each of them is. -/
lemma Options.ofSources_eq_ok_iff {o : Options} {sources : List OptionSource} :
    ofSources sources [] = .ok o ↔ ∀ f : OptionField, f.resolve sources = .ok (o.value f) := by
  refine ⟨fun h f => ?_, fun h => ofSources_eq_ok h⟩
  unfold ofSources at h
  split at h
  · next hfaults =>
    have hall := (List.append_eq_nil_iff.mp hfaults).1
    have hnone := List.flatMap_eq_nil_iff.mp hall f f.mem_all
    obtain rfl := Except.ok.inj h
    rcases hf : f.resolve sources with faults | v
    · rw [hf] at hnone
      obtain rfl : faults = [] := hnone
      exact absurd hf (f.resolve_ne_error_nil sources)
    · simp only [hf]
  · exact absurd h (by simp)

end Faults

namespace OptionField

/-- The entries of a document under an option's name, in any case of letters. -/
def entriesIn (f : OptionField) (input : List (String × Value)) : List (String × Value) :=
  input.filter fun e => foldedName e.1 = f.name.toList

/-- The variables of an environment that set an option, in any case of letters. -/
def variablesIn (f : OptionField) (env : Environment) : Environment :=
  env.filter fun e => sameName false e.1 (environmentPrefix ++ f.name)

/-- The value that counts for an option: that in the document, be it blank or null, else the last one
in the environment, else the default. -/
def chosen (f : OptionField) (input : List (String × Value)) (env : Environment) : Value :=
  match (f.entriesIn input).head?, (f.variablesIn env).getLast? with
  | some (_, v), _ => v
  | none, some (_, s) => .text s
  | none, none => f.default

variable {f : OptionField} {input input' : List (String × Value)} {env env' : Environment}

lemma chosen_congr (hinput : f.entriesIn input' = f.entriesIn input)
    (henv : f.variablesIn env' = f.variablesIn env) :
    f.chosen input' env' = f.chosen input env := by
  rw [chosen, hinput, henv, chosen]

end OptionField

namespace Options

/-- The document that gives values under names. -/
def document (input : List (String × Value)) : Value := .map (input.map fun e => (.text e.1, e.2))

/-- Whether every name in a document is that of an option, and none of them is named twice. -/
structure NamesEachOnce (input : List (String × Value)) : Prop where
  known : ∀ e ∈ input, ∃ f : OptionField, foldedName e.1 = f.name.toList
  once : (input.map fun e => foldedName e.1).Nodup

variable {input : List (String × Value)}

lemma namedEntries?_map (input : List (String × Value)) :
    namedEntries? (input.map fun e => (.text e.1, e.2)) = some input := by
  rw [namedEntries?]
  induction input with
  | nil => rfl
  | cons e rest ih =>
    rw [List.map_cons, List.mapM_cons, ih]
    rfl

/-- With no option named twice it does not matter that the spelling of the name itself goes first. -/
lemma ofInput_eq_head? (h : NamesEachOnce input) (f : OptionField) :
    OptionSource.ofInput input f = (f.entriesIn input).head?.map Prod.snd := by
  rw [OptionField.entriesIn, List.head?_filter]
  change ((input.find? (·.1 = f.name)).or
    (input.find? fun e => foldedName e.1 = f.name.toList)).map Prod.snd = _
  rcases hexact : input.find? (·.1 = f.name) with _ | e
  · rw [hexact, Option.none_or]
  · have hname : e.1 = f.name := by simpa using List.find?_some hexact
    have hfolded : foldedName e.1 = f.name.toList := by rw [hname, f.foldedName_name]
    have hmem := List.mem_of_find?_eq_some hexact
    rcases hfold : input.find? fun e => foldedName e.1 = f.name.toList with _ | e'
    · exact absurd hfolded (by simpa using List.find?_eq_none.mp hfold e hmem)
    · have hfolded' : foldedName e'.1 = f.name.toList := by simpa using List.find?_some hfold
      have hsame := List.inj_on_of_nodup_map h.once hmem (List.mem_of_find?_eq_some hfold)
        (hfolded.trans hfolded'.symm)
      rw [hexact, hfold, hsame, Option.some_or]

/-- Of the variables that set an option the last counts. -/
lemma ofVariables_eq_getLast? (env : Environment) (f : OptionField) :
    OptionSource.ofVariables .usual environmentPrefix (env.map fun (name, v) => (name, some v)) f =
      (f.variablesIn env).getLast?.map fun e => .text e.2 := by
  have hall (settings : List (String × Option String)) :
      settings.filter (fun e => !(false && e.2 = some "")) = settings := by simp
  simp only [OptionSource.ofVariables, Directives.usual, OptionField.variablesIn]
  rw [hall, ← List.map_reverse, List.find?_map, ← List.head?_reverse, ← List.filter_reverse,
    List.head?_filter]
  simp only [Function.comp_def]
  rcases env.reverse.find? _ with _ | e <;> rfl

lemma resolve_usualSources (h : NamesEachOnce input) (s : Surroundings) (f : OptionField) :
    f.resolve (usualSources input s) =
      Checked.under (.key f.name) (f.read (f.chosen input s.env)) := by
  have hnone : OptionSource.ofVariables .usual environmentPrefix [] f = none := rfl
  simp only [OptionField.resolve, usualSources, OptionField.chosen, List.findSome?_cons,
    List.findSome?_nil, OptionSource.ofArguments, ofInput_eq_head? h, ofVariables_eq_getLast?,
    hnone]
  rcases (f.entriesIn input).head? with _ | e
  · rcases (f.variablesIn s.env).getLast? with _ | e
    · simp [OptionSource.ofValues, f.read_default, Checked.under]
    · rfl
  · rfl

/-- A document that names options is read into the values that its options take of what counts for
them. -/
lemma read_document_eq_ok_iff (h : NamesEachOnce input) (s : Surroundings) (o : Options) :
    Options.read (document input) s = .ok o ↔
      ∀ f : OptionField, f.Takes (f.chosen input s.env) (o.value f) := by
  rw [document, read_of_known (namedEntries?_map input) h.known, Except.mapError_eq_ok_iff,
    ofSources_eq_ok_iff]
  refine forall_congr' fun f => ?_
  rw [resolve_usualSources h, Checked.under_eq_ok_iff, OptionField.read_eq_ok_iff]

/-- Options are settled one by one: a document that names options is read exactly when each of them
takes the value that counts for it, into what it makes of that value, and no option changes with what
the document or the environment says of another. -/
theorem read_document_each (h : NamesEachOnce input) (s : Surroundings) :
    (∀ o : Options, Options.read (document input) s = .ok o ↔
      ∀ f : OptionField, f.Takes (f.chosen input s.env) (o.value f)) ∧
    ((∃ o, Options.read (document input) s = .ok o) ↔
      ∀ f : OptionField, ∃ v, f.Takes (f.chosen input s.env) v) ∧
    ∀ (input' : List (String × Value)) (s' : Surroundings) (f : OptionField),
      NamesEachOnce input' →
      (∀ g ≠ f, g.entriesIn input' = g.entriesIn input ∧
        g.variablesIn s'.env = g.variablesIn s.env) →
      ∀ o o' : Options, Options.read (document input) s = .ok o →
        Options.read (document input') s' = .ok o' → ∀ g ≠ f, o'.value g = o.value g := by
  refine ⟨read_document_eq_ok_iff h s, ⟨fun ⟨o, ho⟩ f => ?_, fun hall => ?_⟩, ?_⟩
  · exact ⟨o.value f, (read_document_eq_ok_iff h s o).mp ho f⟩
  · choose value hvalue using hall
    exact ⟨⟨value⟩, (read_document_eq_ok_iff h s ⟨value⟩).mpr hvalue⟩
  · intro input' s' f h' hothers o o' ho ho' g hg
    have htakes := (read_document_eq_ok_iff h s o).mp ho g
    have htakes' := (read_document_eq_ok_iff h' s' o').mp ho' g
    rw [OptionField.chosen_congr (hothers g hg).1 (hothers g hg).2] at htakes'
    exact htakes'.unique htakes

/-- A port in the document, in another case of letters, and none: the options differ in the port only. -/
theorem read_document_each_port :
    let input : List (String × Value) := [("Server_Port", .int 9000)]
    let s : Surroundings := ⟨[], ⟨"/work", []⟩⟩
    NamesEachOnce input ∧ NamesEachOnce [] ∧ ∃ o o', Options.read (document input) s = .ok o ∧
      Options.read (document []) s = .ok o' ∧ o.value .serverPort = .text "9000" ∧
      o'.value .serverPort = .null ∧ ∀ g ≠ .serverPort, o'.value g = o.value g := by
  intro input s
  have hport : foldedName "Server_Port" = OptionField.serverPort.name.toList := by decide +kernel
  have h : NamesEachOnce input := ⟨by simpa [input] using ⟨.serverPort, hport⟩, by simp [input]⟩
  have hnone : NamesEachOnce [] := ⟨by simp, by simp⟩
  have hothers (g : OptionField) (hg : g ≠ .serverPort) :
      g.entriesIn input = g.entriesIn [] := by
    have hname : OptionField.serverPort.name.toList ≠ g.name.toList := by
      cases g <;> first | exact absurd rfl hg | decide +kernel
    simp [OptionField.entriesIn, input, hport, hname]
  have hempty (g : OptionField) : g.Takes (g.chosen [] s.env) g.default := g.takes_default
  have hfirst : OptionField.serverPort.chosen input s.env = .int 9000 := by
    simp [OptionField.chosen, OptionField.entriesIn, input, hport]
  let ported : Options := ⟨fun g => if g = .serverPort then .text "9000" else g.default⟩
  have ho : Options.read (document input) s = .ok ported := by
    refine ((read_document_each h s).1 ported).mpr fun g => ?_
    by_cases hg : g = .serverPort
    · rw [hg, hfirst]
      exact .int (by simp [OptionField.kind]) (by decide +kernel)
    · rw [OptionField.chosen_congr (hothers g hg) rfl]
      simpa [ported, hg] using hempty g
  have ho' := ((read_document_each hnone s).1 ⟨OptionField.default⟩).mpr hempty
  exact ⟨h, hnone, ported, ⟨OptionField.default⟩, ho, ho', rfl, rfl,
    (read_document_each h s).2.2 [] s .serverPort hnone (fun g hg => ⟨(hothers g hg).symm, rfl⟩)
      ported ⟨OptionField.default⟩ ho ho'⟩

end Options
end StubPlan
