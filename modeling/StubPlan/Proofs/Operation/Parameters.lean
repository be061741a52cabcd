import Mathlib.Data.List.Forall2
import StubPlan.Operation
import StubPlan.Proofs.Text.Blank

/-! What the handlers of a group are called with. The parameters of a handler are those that its operation
declares, one for one and location by location, and there is one list of them that says what is declared. -/
namespace StubPlan

namespace Parameter

/-- The type that a parameter says it has: the one that is declared, or the general one where there is none
or a blank one. -/
inductive SaysType (p : Parameter) : String → Prop
  | declared {type : String} (h : p.dataType = some type) (hblank : Text.isBlank type = false) :
      SaysType p type
  | general (h : ∀ type ∈ p.dataType, Text.isBlank type) : SaysType p "Any"

/-- What a handler takes for a declared parameter; it may be missing unless it is required. -/
structure IsTakenAs (p : Parameter) (h : HandlerParameter) : Prop where
  name : h.name = p.name
  required : h.required = p.required
  description : h.description = p.description.getD ""
  type : ∃ type, p.SaysType type ∧ h.pythonType = if p.required then type else type ++ " | None"

variable {p : Parameter} {h : HandlerParameter} {type : String}

lemma saysType_iff : p.SaysType type ↔ type = (Text.present? p.dataType).getD anyType := by
  constructor
  · rintro (⟨hdeclared, hblank⟩ | hnone)
    · rw [Text.present?_eq_some_iff.mpr ⟨hdeclared, hblank⟩, Option.getD_some]
    · rw [Text.present?_eq_none_iff_forall.mpr hnone, Option.getD_none, anyType]
  · rintro rfl
    rcases hpresent : Text.present? p.dataType with _ | type
    · exact .general (Text.present?_eq_none_iff_forall.mp hpresent)
    · obtain ⟨hdeclared, hblank⟩ := Text.present?_eq_some_iff.mp hpresent
      exact .declared hdeclared hblank

/-- Apart from its place, what is taken for a parameter is determined by the parameter. -/
lemma isTakenAs_iff : p.IsTakenAs h ↔ h = p.toHandler h.isBody := by
  constructor
  · rintro ⟨hname, hrequired, hdescription, type, htype, hpython⟩
    rw [saysType_iff.mp htype] at hpython
    cases h
    subst hname hrequired hdescription hpython
    rfl
  · intro heq
    rw [heq]
    exact ⟨rfl, rfl, rfl, _, saysType_iff.mpr rfl, rfl⟩

lemma isTakenAs_toHandler (p : Parameter) (isBody : Bool) : p.IsTakenAs (p.toHandler isBody) :=
  isTakenAs_iff.mpr rfl

lemma SaysType.not_isBlank (h : p.SaysType type) : Text.isBlank type = false := by
  cases h with
  | declared hdeclared hblank => exact hblank
  | general hnone => decide

lemma IsTakenAs.not_isBlank (hp : p.IsTakenAs h) : Text.isBlank h.pythonType = false := by
  obtain ⟨type, htype, hpython⟩ := hp.type
  rw [hpython]
  split
  · exact htype.not_isBlank
  · rw [Text.isBlank_append, htype.not_isBlank, Bool.false_and]

end Parameter

namespace Operation

/-- The parameters that an operation declares, location by location. -/
def declaredParameters (op : Operation) : List Parameter :=
  op.pathParams ++ op.queryParams ++ op.headerParams ++ op.cookieParams ++ op.bodyParam.toList

/-- The parameters of a handler that say what an operation declares: one for each declared parameter, in
order, of which the last is the body if there is one, and no other. -/
structure IsCalledWith (op : Operation) (ps : List HandlerParameter) : Prop where
  taken : List.Forall₂ Parameter.IsTakenAs op.declaredParameters ps
  isBody_iff : ∀ i h, ps[i]? = some h → (h.isBody ↔ op.bodyParam.isSome ∧ i + 1 = ps.length)

variable {op : Operation} {ps qs : List HandlerParameter}

lemma forall₂_isTakenAs_map (isBody : Bool) (declared : List Parameter) :
    List.Forall₂ Parameter.IsTakenAs declared (declared.map (Parameter.toHandler isBody)) := by
  rw [List.forall₂_map_right_iff, List.forall₂_same]
  exact fun p _ => p.isTakenAs_toHandler isBody

lemma isBody_eq_false_of_mem {declared : List Parameter} {h : HandlerParameter}
    (hmem : h ∈ declared.map (Parameter.toHandler false)) : h.isBody = false := by
  obtain ⟨p, -, rfl⟩ := List.mem_map.mp hmem
  rfl

lemma isBody_handlerParameters_iff {i : Nat} {h : HandlerParameter}
    (hi : op.handlerParameters[i]? = some h) :
    h.isBody ↔ op.bodyParam.isSome ∧ i + 1 = op.handlerParameters.length := by
  rw [handlerParameters] at hi ⊢
  generalize hfront : (op.pathParams ++ op.queryParams ++ op.headerParams ++ op.cookieParams).map
    (Parameter.toHandler false) = front at hi ⊢
  generalize op.bodyParam = given at hi ⊢
  rcases given with _ | body
  · have hmem : h ∈ front := by simpa using List.mem_of_getElem? hi
    rw [← hfront] at hmem
    simp [isBody_eq_false_of_mem hmem]
  · rw [Option.toList_some, List.map_singleton] at hi ⊢
    rw [List.length_append, List.length_singleton, Nat.add_right_cancel_iff]
    rcases Nat.lt_or_ge i front.length with hlt | hge
    · rw [List.getElem?_append_left hlt] at hi
      have hmem := List.mem_of_getElem? hi
      rw [← hfront] at hmem
      rw [isBody_eq_false_of_mem hmem]
      exact iff_of_false Bool.false_ne_true fun hlast => hlt.ne hlast.2
    · rw [List.getElem?_append_right hge, List.getElem?_singleton, Option.ite_none_right_eq_some] at hi
      obtain ⟨hzero, hbody⟩ := hi
      rw [← Option.some.inj hbody]
      exact iff_of_true rfl ⟨rfl, by omega⟩

lemma isCalledWith_handlerParameters (op : Operation) : op.IsCalledWith op.handlerParameters where
  taken := List.rel_append (forall₂_isTakenAs_map false _) (forall₂_isTakenAs_map true _)
  isBody_iff := fun _ _ => isBody_handlerParameters_iff

/-- Each parameter of a handler is taken for the one declared in its place. -/
lemma IsCalledWith.isTakenAs_getElem (h : op.IsCalledWith ps) {i : Nat} (hi : i < ps.length) :
    ∃ hdeclared : i < op.declaredParameters.length, op.declaredParameters[i].IsTakenAs ps[i] := by
  obtain ⟨hlen, htaken⟩ := List.forall₂_iff_get.mp h.taken
  exact ⟨hlen ▸ hi, htaken i (hlen ▸ hi) hi⟩

/-- What is declared leaves no choice. -/
lemma IsCalledWith.unique (h : op.IsCalledWith ps) (k : op.IsCalledWith qs) : ps = qs := by
  have hlen : ps.length = qs.length := h.taken.length_eq.symm.trans k.taken.length_eq
  refine List.ext_getElem hlen fun i hi hi' => ?_
  obtain ⟨hdeclared, hp⟩ := h.isTakenAs_getElem hi
  obtain ⟨_, hq⟩ := k.isTakenAs_getElem hi'
  have hbody : ps[i].isBody = qs[i].isBody := by
    apply Bool.eq_iff_iff.mpr
    rw [h.isBody_iff i _ (List.getElem?_eq_getElem hi), k.isBody_iff i _ (List.getElem?_eq_getElem hi'),
      hlen]
  calc ps[i] = op.declaredParameters[i].toHandler ps[i].isBody := Parameter.isTakenAs_iff.mp hp
    _ = op.declaredParameters[i].toHandler qs[i].isBody := by rw [hbody]
    _ = qs[i] := (Parameter.isTakenAs_iff.mp hq).symm

lemma isCalledWith_iff : op.IsCalledWith ps ↔ ps = op.handlerParameters := by
  refine ⟨fun h => h.unique op.isCalledWith_handlerParameters, ?_⟩
  rintro rfl
  exact op.isCalledWith_handlerParameters

/-- No parameter of a handler has a blank type. -/
lemma not_isBlank_pythonType {h : HandlerParameter} (hmem : h ∈ op.handlerParameters) :
    Text.isBlank h.pythonType = false := by
  obtain ⟨i, hi, rfl⟩ := List.getElem_of_mem hmem
  obtain ⟨_, htaken⟩ := op.isCalledWith_handlerParameters.isTakenAs_getElem hi
  exact htaken.not_isBlank

end Operation

lemma HandlerNames.ofGroup?_eq_none_iff {classname : Option String} :
    HandlerNames.ofGroup? classname = none ↔ ∀ name ∈ classname, Text.isBlank name := by
  rw [HandlerNames.ofGroup?, Option.map_eq_none_iff, Text.present?_eq_none_iff_forall]

lemma OperationGroup.operations_annotate (rewriter : Option ImportRewriter) (group : OperationGroup) :
    (group.annotate rewriter).operations =
      group.operations.map (Operation.annotate (HandlerNames.ofGroup? group.classname)) := by
  change annotateOperations _ (group.operations.map some) = _
  rw [annotateOperations, List.filterMap_map, ← List.filterMap_eq_map]
  rfl

/-- The handler of an operation is called with one parameter for each that is declared, in the order of the
locations and with the body last, and there is one such list. Names and whether a parameter is required are
kept; a missing description is empty; the type is the declared one, or the general one where it is blank,
and none is blank. A group has one annotated operation for each of its own, in order, with these parameters
and the group's handler names, which a group with a blank name does not have. -/
theorem OperationGroup.annotate_parameters (rewriter : Option ImportRewriter) (group : OperationGroup) :
    (∀ (op : Operation) (ps : List HandlerParameter), ps = op.handlerParameters ↔
      List.Forall₂ Parameter.IsTakenAs (op.pathParams ++ op.queryParams ++ op.headerParams ++
        op.cookieParams ++ op.bodyParam.toList) ps ∧
      ∀ i h, ps[i]? = some h → (h.isBody ↔ op.bodyParam.isSome ∧ i + 1 = ps.length)) ∧
    (∀ op : Operation, ∀ h ∈ op.handlerParameters, Text.isBlank h.pythonType = false) ∧
    List.Forall₂ (fun op a => a.operation = op ∧ a.parameters = op.handlerParameters ∧
        a.handler = (group.annotate rewriter).handler)
      group.operations (group.annotate rewriter).operations ∧
    (group.annotate rewriter).handler = HandlerNames.ofGroup? group.classname ∧
    ((group.annotate rewriter).handler = none ↔ ∀ name ∈ group.classname, Text.isBlank name) := by
  refine ⟨fun op ps => ?_, fun op h => Operation.not_isBlank_pythonType, ?_, rfl,
    HandlerNames.ofGroup?_eq_none_iff⟩
  · rw [← Operation.isCalledWith_iff]
    exact ⟨fun h => ⟨h.taken, h.isBody_iff⟩, fun h => ⟨h.1, h.2⟩⟩
  · rw [OperationGroup.operations_annotate, List.forall₂_map_right_iff, List.forall₂_same]
    exact fun op _ => ⟨rfl, rfl, rfl⟩

end StubPlan
