import StubPlan.Proofs.Except
import StubPlan.Proofs.Unicode.LowerCase
import StubPlan.Options.Resolve

/-! Documents that name options and hold no directives. Nothing but the document itself and the
environment is looked at, and each option is settled on its own. -/
namespace StubPlan

variable {o : Options} {s : Surroundings} {input : List (String × Value)}

lemma foldedName_eq (name : String) : foldedName name = Unicode.lowerShort name.toList :=
  Unicode.lower_eq_lowerShort name.toList

namespace OptionField

lemma foldedName_name (f : OptionField) : foldedName f.name = f.name.toList := by
  have hsmall : f.name.toList.all fun c => c.toNat < 128 ∧ c.isUpper = false := by
    cases f <;> decide +kernel
  exact Unicode.lower_eq_self fun c hc => of_decide_eq_true (List.all_eq_true.mp hsmall c hc)

/-- No directive has the name of an option, in any case of letters. -/
lemma not_mem_directives (f : OptionField) {name : String} (h : foldedName name = f.name.toList) :
    name ∉ Directive.all := by
  have hdirectives : ∀ name ∈ Directive.all, (foldedName name).head? = some '_' := by
    simp only [foldedName_eq]
    decide +kernel
  have hname : f.name.toList.head? ≠ some '_' := by cases f <;> decide +kernel
  intro hmem
  rw [← h] at hname
  exact hname (hdirectives name hmem)

end OptionField

/-- What is done when no directive says otherwise. -/
def Directives.usual : Directives where
  envPrefix := .ok environmentPrefix
  caseSensitive := false
  ignoreEmpty := false
  nullText := none
  assignmentFiles := []
  valueFolders := .ok []
  arguments := []

lemma Directive.find?_eq_none {name : String} (h : ∀ e ∈ input, e.1 ∉ Directive.all)
    (hname : name ∈ Directive.all) : Directive.find? input name = none := by
  have hfind : input.find? (·.1 = name) = none := by
    refine List.find?_eq_none.mpr fun e he heq => ?_
    obtain rfl : e.1 = name := of_decide_eq_true heq
    exact h e he hname
  rw [Directive.find?, hfind]
  rfl

lemma Directives.read_eq_usual (h : ∀ e ∈ input, e.1 ∉ Directive.all) :
    read input = .ok usual := by
  have hnone : ∀ name ∈ Directive.all, Directive.find? input name = none :=
    fun name => Directive.find?_eq_none h
  simp only [Directive.all, List.cons_append, List.nil_append, List.forall_mem_cons] at hnone
  obtain ⟨hbeginning, hcase, hempty, hnull, hsplits, hfiles, hfolders, harguments, -⟩ := hnone
  simp only [read, Directive.isOn, hbeginning, hcase, hempty, hnull, hsplits, hfiles, hfolders,
    harguments]
  rfl

lemma Surroundings.folderValues_usual (s : Surroundings) (front : String) :
    s.folderValues .usual front = .ok [] := rfl

namespace Options

/-- All that is looked at when a document has no directives. -/
def usualSources (input : List (String × Value)) (s : Surroundings) : List OptionSource :=
  [.ofArguments [], .ofInput input,
   .ofVariables .usual environmentPrefix (s.env.map fun (name, v) => (name, some v)),
   .ofVariables .usual environmentPrefix [], .ofValues []]

/-- A document without directives is read from itself and the environment. -/
lemma read_of_no_directives {entries : List (Value × Value)} (hinput : namedEntries? entries = some input)
    (hplain : ∀ e ∈ input, e.1 ∉ Directive.all) :
    Options.read (.map entries) s =
      (ofSources (usualSources input s) (unknownNames input)).mapError .faults := by
  have hsources : Directive.find? input Directive.sources = none :=
    Directive.find?_eq_none hplain (by decide)
  have hremaining : Directives.remaining input = input :=
    List.filter_eq_self.mpr fun e he => by simpa using hplain e he
  have hfolders := s.folderValues_usual environmentPrefix
  have hfiles : s.assignments Directives.usual.assignmentFiles = .ok [] := rfl
  have hfront : Directives.usual.envPrefix = .ok environmentPrefix := rfl
  have hstray : strayNames .usual environmentPrefix [] = [] := rfl
  rw [Options.read, hinput]
  simp only [hsources, ofInput, Directives.read_eq_usual hplain, Except.ok_bind, hfiles, hfront,
    hfolders, hremaining, hstray, List.nil_append]
  rfl

lemma unknownNames_eq_nil (h : ∀ e ∈ input, ∃ f : OptionField, foldedName e.1 = f.name.toList) :
    unknownNames input = [] := by
  refine List.filter_eq_nil_iff.mpr fun name hname hunknown => ?_
  obtain ⟨e, he, rfl⟩ := List.mem_map.mp hname
  obtain ⟨f, hf⟩ := h e he
  have hother := List.all_eq_true.mp hunknown f f.mem_all
  simp [hf] at hother

/-- A document that names options and nothing else is read from itself and the environment, and no
name in it is unknown. -/
lemma read_of_known {entries : List (Value × Value)} (hinput : namedEntries? entries = some input)
    (hknown : ∀ e ∈ input, ∃ f : OptionField, foldedName e.1 = f.name.toList) :
    Options.read (.map entries) s = (ofSources (usualSources input s) []).mapError .faults := by
  have hplain : ∀ e ∈ input, e.1 ∉ Directive.all := by
    intro e he
    obtain ⟨f, hf⟩ := hknown e he
    exact f.not_mem_directives hf
  rw [read_of_no_directives hinput hplain, unknownNames_eq_nil hknown]

lemma ofSources_eq_ok {sources : List OptionSource} {value : OptionField → Value}
    (h : ∀ f : OptionField, f.resolve sources = .ok (value f)) : ofSources sources [] = .ok ⟨value⟩ := by
  have hfaults : faults sources [] = [] := by
    simp [faults, h]
  rw [ofSources, hfaults]
  simp only [h]

end Options
end StubPlan
