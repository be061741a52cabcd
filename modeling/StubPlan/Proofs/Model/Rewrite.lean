import Mathlib.Logic.Function.Iterate
import StubPlan.Import
import StubPlan.Proofs.TypeExpr.SelfReference

/-! A rewritten model never names its own class outside quotes, is a fixed point of rewriting, and
differs from the model in nothing but its quotes. -/
namespace StubPlan

namespace Property

def types (p : Property) : List (Option String) :=
  [p.dataType, p.datatypeWithEnum, p.baseType, p.complexType]

@[simp] lemma types_quoteSelf (className : String) (p : Property) :
    (p.quoteSelf className).types = p.types.map (Option.map (TypeExpr.quoteSelf className)) := rfl

@[simp] lemma name_quoteSelf (className : String) (p : Property) :
    (p.quoteSelf className).name = p.name := rfl

lemma ext_types {p q : Property} (hn : p.name = q.name) (ht : p.types = q.types) : p = q := by
  cases p
  cases q
  simp_all [types]

/-- A property whose types are quoted already stays as it is. -/
lemma quoteSelf_quoteSelf (className : String) (p : Property) :
    (p.quoteSelf className).quoteSelf className = p.quoteSelf className := by
  apply ext_types
  · rfl
  · have twice : TypeExpr.quoteSelf className ∘ TypeExpr.quoteSelf className =
        TypeExpr.quoteSelf className := by
      funext e
      exact TypeExpr.quoteSelf_quoteSelf className e
    simp only [types_quoteSelf, List.map_map]
    congr 1
    funext e
    rw [Function.comp_apply, Option.map_map, twice]

end Property

namespace Model

@[simp] lemma classname_rewrite (m : Model) : m.rewrite.model.classname = m.classname := rfl

@[simp] lemma vars_rewrite (m : Model) :
    m.rewrite.model.vars = m.vars.map (Property.quoteSelf m.classname) := rfl

/-- The rewritten model is rewritten to itself, with the same imports. -/
lemma rewrite_rewrite (m : Model) : m.rewrite.model.rewrite = m.rewrite := by
  have hvars : (m.vars.map (Property.quoteSelf m.classname)).map
      (Property.quoteSelf m.classname) = m.vars.map (Property.quoteSelf m.classname) := by
    rw [List.map_map]
    apply List.map_congr_left
    intro p _
    exact p.quoteSelf_quoteSelf m.classname
  change RewrittenModel.mk ⟨m.classname, _, m.imports⟩ _ = ⟨⟨m.classname, _, m.imports⟩, _⟩
  rw [vars_rewrite, classname_rewrite, hvars]
  rfl

/-- Rewriting a model leaves no bare reference to its own class in any type, changes nothing when it
is done again, however often, and keeps the class name, the imports, the order and names of the
properties and which of their types are missing. -/
theorem rewrite_quotes_only (m : Model) :
    (∀ p ∈ m.rewrite.model.vars, ∀ e, some e ∈ p.types → ∀ t ∈ TypeExpr.tokenize e,
      t.kind = .name → m.classname ∉ Text.splitAt '.' t.text) ∧
    (∀ n, (fun r : RewrittenModel => r.model.rewrite)^[n] m.rewrite = m.rewrite) ∧
    m.rewrite.model.classname = m.classname ∧
    m.rewrite.model.imports = m.imports ∧
    m.rewrite.model.vars.map (·.name) = m.vars.map (·.name) ∧
    m.rewrite.model.vars.map (·.types.map Option.isNone) =
      m.vars.map (·.types.map Option.isNone) := by
  refine ⟨?_, fun n => Function.iterate_fixed m.rewrite_rewrite n, rfl, rfl, ?_, ?_⟩
  · intro p hp e he t ht hname hself
    obtain ⟨q, -, rfl⟩ := List.mem_map.mp hp
    rw [Property.types_quoteSelf] at he
    obtain ⟨e', -, hquoted⟩ := List.mem_map.mp he
    obtain ⟨e'', -, rfl⟩ := Option.map_eq_some_iff.mp hquoted
    have hr := TypeExpr.refersTo_of_mem_tokenize_quoteSelf ht
    simp [TypeExpr.Token.refersTo, hname, hself] at hr
  · simp [List.map_map, Function.comp_def]
  · simp [List.map_map, Function.comp_def]

end Model
end StubPlan
