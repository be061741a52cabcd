import Mathlib.Logic.Relation
import StubPlan.Operation
import StubPlan.Proofs.Text.Blank

/-! The success contract of an operation. It is made by the first response that declares success. What
else is declared, before that response or after it, can be edited in any number of steps and the contract
stays the same. -/
namespace StubPlan
open Chars
open Relation (ReflTransGen)

namespace Response

/-- Whether a response declares success: its code begins with a two, blanks before it left out. -/
def DeclaresSuccess (r : Response) : Prop :=
  ∃ code ∈ r.code, ['2'] <+: trim code.toList

/-- Whether a response is passed over: it is missing, its code is missing or blank, or the code does not
begin with a two. -/
def IsPassedOver (x : Option Response) : Prop :=
  ∀ code ∈ x.bind (·.code), Text.isBlank code ∨ ¬ ['2'] <+: trim code.toList

instance (r : Response) : Decidable r.DeclaresSuccess := by
  unfold DeclaresSuccess
  infer_instance

instance (x : Option Response) : Decidable (IsPassedOver x) := by
  unfold IsPassedOver
  infer_instance

/-- One edit to the responses of an operation that leaves the first one that declares success as it
is: to a response that is passed over, or to what comes after one that declares success. -/
inductive Edit : List (Option Response) → List (Option Response) → Prop
  | insert {x} (front back) : IsPassedOver x → Edit (front ++ back) (front ++ x :: back)
  | remove {x} (front back) : IsPassedOver x → Edit (front ++ x :: back) (front ++ back)
  | change {x y} (front back) : IsPassedOver x → IsPassedOver y →
      Edit (front ++ x :: back) (front ++ y :: back)
  | later {x} (front between back) : IsPassedOver x →
      Edit (front ++ x :: (between ++ back)) (front ++ (between ++ x :: back))
  | earlier {x} (front between back) : IsPassedOver x →
      Edit (front ++ (between ++ x :: back)) (front ++ x :: (between ++ back))
  | rest {r} (front back back') : r.DeclaresSuccess →
      Edit (front ++ some r :: back) (front ++ some r :: back')

/-- Whether `r` is the first response that declares success. -/
def IsFirstSuccess (responses : List (Option Response)) (r : Response) : Prop :=
  ∃ front back, responses = front ++ some r :: back ∧ (∀ x ∈ front, IsPassedOver x) ∧
    r.DeclaresSuccess

/-- The first response that declares success, if there is one. -/
def firstSuccess? (responses : List (Option Response)) : Option Response :=
  responses.findSome? fun x => x.filter isSuccess

variable {responses edited : List (Option Response)} {r : Response} {x : Option Response}

section First

lemma prefix_iff_head? {s : List Char} : ['2'] <+: s ↔ s.head? = some '2' := by
  rw [List.head?_eq_some_iff]
  exact ⟨fun ⟨t, ht⟩ => ⟨t, ht.symm⟩, fun ⟨t, ht⟩ => ⟨t, ht.symm⟩⟩

lemma isSuccess_iff : r.isSuccess ↔ r.DeclaresSuccess := by
  unfold isSuccess DeclaresSuccess
  cases r.code <;> simp [prefix_iff_head?]

/-- A blank code begins with nothing, so that blank codes need no case of their own. -/
lemma isPassedOver_iff : IsPassedOver x ↔ x.filter isSuccess = none := by
  have hblank : ∀ code : String, (Text.isBlank code ∨ ¬ ['2'] <+: trim code.toList) ↔
      ¬ ['2'] <+: trim code.toList := by
    refine fun code => or_iff_right_of_imp fun h hprefix => ?_
    rw [trim_of_isBlank h] at hprefix
    exact absurd hprefix (by decide)
  rw [Option.filter_eq_none_iff]
  simp only [IsPassedOver, hblank, isSuccess_iff, DeclaresSuccess]
  cases x <;> simp

lemma firstSuccess?_eq_some_iff : firstSuccess? responses = some r ↔ IsFirstSuccess responses r := by
  rw [firstSuccess?, List.findSome?_eq_some_iff]
  constructor
  · rintro ⟨front, x, back, rfl, hx, hfront⟩
    obtain ⟨rfl, hr⟩ := Option.filter_eq_some_iff.mp hx
    exact ⟨front, back, rfl, fun y hy => isPassedOver_iff.mpr (hfront y hy), isSuccess_iff.mp hr⟩
  · rintro ⟨front, back, rfl, hfront, hr⟩
    have hx : (some r).filter isSuccess = some r :=
      Option.filter_eq_some_iff.mpr ⟨rfl, isSuccess_iff.mpr hr⟩
    exact ⟨front, some r, back, rfl, hx, fun y hy => isPassedOver_iff.mp (hfront y hy)⟩

lemma firstSuccess?_eq_none_iff : firstSuccess? responses = none ↔ ∀ x ∈ responses, IsPassedOver x := by
  simp only [firstSuccess?, List.findSome?_eq_none_iff, isPassedOver_iff]

end First

section Edits

lemma firstSuccess?_insert (h : IsPassedOver x) (front back : List (Option Response)) :
    firstSuccess? (front ++ x :: back) = firstSuccess? (front ++ back) := by
  rw [firstSuccess?, firstSuccess?, List.findSome?_append, List.findSome?_append, List.findSome?_cons,
    isPassedOver_iff.mp h]

lemma firstSuccess?_move (h : IsPassedOver x) (front between back : List (Option Response)) :
    firstSuccess? (front ++ (between ++ x :: back)) =
      firstSuccess? (front ++ x :: (between ++ back)) := by
  rw [firstSuccess?_insert h, ← List.append_assoc, firstSuccess?_insert h, List.append_assoc]

lemma firstSuccess?_success (h : r.DeclaresSuccess) (front back : List (Option Response)) :
    firstSuccess? (front ++ some r :: back) = (firstSuccess? front).or (some r) := by
  have hr : (some r).filter isSuccess = some r :=
    Option.filter_eq_some_iff.mpr ⟨rfl, isSuccess_iff.mpr h⟩
  rw [firstSuccess?, firstSuccess?, List.findSome?_append, List.findSome?_cons, hr]

lemma firstSuccess?_of_edit (h : Edit responses edited) :
    firstSuccess? edited = firstSuccess? responses := by
  cases h with
  | insert front back hx => exact firstSuccess?_insert hx front back
  | remove front back hx => exact (firstSuccess?_insert hx front back).symm
  | change front back hx hy => rw [firstSuccess?_insert hx, firstSuccess?_insert hy]
  | later front between back hx => exact firstSuccess?_move hx front between back
  | earlier front between back hx => exact (firstSuccess?_move hx front between back).symm
  | rest front back back' hr => rw [firstSuccess?_success hr, firstSuccess?_success hr]

lemma firstSuccess?_of_edits (h : ReflTransGen Edit responses edited) :
    firstSuccess? edited = firstSuccess? responses := by
  induction h with
  | refl => rfl
  | tail _ hedit ih => rw [firstSuccess?_of_edit hedit, ih]

end Edits

end Response

open Response (IsPassedOver Edit IsFirstSuccess firstSuccess? firstSuccess?_eq_some_iff
  firstSuccess?_eq_none_iff firstSuccess?_of_edits)

variable {responses edited : List (Option Response)} {returnType : Option String} {r : Response}

lemma successResponse_eq (responses : List (Option Response)) (returnType : Option String) :
    successResponse responses returnType =
      match firstSuccess? responses with
      | some r => ⟨readStatus r.code, (Text.present? r.baseType).or (Text.present? returnType)⟩
      | none => ⟨defaultStatus, Text.present? returnType⟩ := rfl

lemma successResponse_of_isFirstSuccess (h : IsFirstSuccess responses r) (returnType : Option String) :
    successResponse responses returnType =
      ⟨readStatus r.code, (Text.present? r.baseType).or (Text.present? returnType)⟩ := by
  rw [successResponse_eq, firstSuccess?_eq_some_iff.mpr h]

lemma successResponse_of_isPassedOver (h : ∀ x ∈ responses, IsPassedOver x)
    (returnType : Option String) :
    successResponse responses returnType = ⟨defaultStatus, Text.present? returnType⟩ := by
  rw [successResponse_eq, firstSuccess?_eq_none_iff.mpr h]

/-- The class of the success response is never blank. -/
lemma not_isBlank_responseClass {name : String}
    (h : (successResponse responses returnType).responseClass = some name) :
    Text.isBlank name = false := by
  rw [successResponse_eq] at h
  split at h
  · rcases Option.or_eq_some_iff.mp h with h | ⟨-, h⟩ <;> exact Text.not_isBlank_of_present? h
  · exact Text.not_isBlank_of_present? h

/-- A class that is not blank is the handler's result, and is listed; without a class the result is the
general one. -/
lemma lookup_extensions {a : AnnotatedOperation}
    (hclass : ∀ name ∈ a.success.responseClass, Text.isBlank name = false)
    (hresult : a.resultType = handlerResultType (some a.success)) :
    a.extensions.lookup "x-success-response-class" = a.success.responseClass.map .typeName ∧
      a.extensions.lookup "x-handler-result-type" =
        some (.typeName (a.success.responseClass.getD payloadType)) := by
  rcases hname : a.success.responseClass with - | name
  · simp [AnnotatedOperation.extensions, List.lookup_cons, hresult, hname, handlerResultType,
      Text.present?]
  · have hblank := hclass name hname
    have hne := Text.ne_empty_of_not_isBlank hblank
    simp [AnnotatedOperation.extensions, List.lookup_cons, Option.filter_some, hresult, hname,
      handlerResultType, hne, Text.present?_of_not_isBlank hblank]

/-- The status, the class and the handler's result stay the same when the responses are edited beside the
first one that declares success. The class is that of this response, else the one the operation returns,
blank names left out. It is listed exactly when there is one, as the handler's result; without one the
handler's result is the general payload. -/
theorem Operation.annotate_of_edits (op : Operation) (names : Option HandlerNames)
    (h : ReflTransGen Edit op.responses edited) :
    let a := op.annotate names
    let b := { op with responses := edited }.annotate names
    (b.success.status = a.success.status ∧ b.success.responseClass = a.success.responseClass ∧
      b.resultType = a.resultType) ∧
    (∀ r, IsFirstSuccess op.responses r → a.success.responseClass =
      (Text.present? r.baseType).or (Text.present? op.returnBaseType)) ∧
    ((∀ x ∈ op.responses, IsPassedOver x) →
      a.success.responseClass = Text.present? op.returnBaseType) ∧
    a.extensions.lookup "x-success-response-class" = a.success.responseClass.map .typeName ∧
    a.extensions.lookup "x-handler-result-type" =
      some (.typeName (a.success.responseClass.getD "JSONPayload")) := by
  intro a b
  have hsame : b.success = a.success := by
    change successResponse edited op.returnBaseType = successResponse op.responses op.returnBaseType
    rw [successResponse_eq, successResponse_eq, firstSuccess?_of_edits h]
  have hresult : b.resultType = a.resultType :=
    congrArg (fun success => handlerResultType (some success)) hsame
  refine ⟨⟨congrArg _ hsame, congrArg _ hsame, hresult⟩, fun r hr => ?_, fun hpassed => ?_, ?_⟩
  · exact congrArg SuccessResponse.responseClass (successResponse_of_isFirstSuccess hr _)
  · exact congrArg SuccessResponse.responseClass (successResponse_of_isPassedOver hpassed _)
  · exact lookup_extensions (fun name => not_isBlank_responseClass) rfl

/-- A hole goes, an error response moves past the one that declares success, a blank code becomes a word,
and the responses after that one go; and an operation that declares no success at all. -/
theorem Operation.annotate_of_edits_created :
    let pet : Response := ⟨some " 201 ", some "Pet", none⟩
    let missing : Response := ⟨some "404", some "Error", none⟩
    let blank : Response := ⟨some "  ", some "Blank", none⟩
    let other : Response := ⟨some "default", none, none⟩
    let op : Operation := ⟨"createPet", "POST", "/pets", none, [], [], [], [], none,
      [none, some missing, some blank, some pet, some ⟨some "200", some "Widget", none⟩], some "Pets"⟩
    let failing : Operation := { op with responses := [some missing, none] }
    let edited := [some other, some pet]
    ReflTransGen Edit op.responses edited ∧ IsFirstSuccess op.responses pet ∧
      (∀ x ∈ failing.responses, IsPassedOver x) ∧
      ({ op with responses := edited }.annotate none).success.status = 201 ∧
      (op.annotate none).success.responseClass = some "Pet" ∧
      (failing.annotate none).success.responseClass = some "Pets" := by
  intro pet missing blank other op failing edited
  have hmissing : IsPassedOver (some missing) := by decide
  have hblank : IsPassedOver (some blank) := by decide
  have hpet : pet.DeclaresSuccess := by decide
  have hedits : ReflTransGen Edit op.responses edited :=
    .head (.remove [] _ (by decide)) <| .head (.later [] [some blank, some pet] _ hmissing) <|
      .head (.change [] _ hblank (by decide)) <| .single (.rest [some other] _ [] hpet)
  have hfirst : IsFirstSuccess op.responses pet :=
    ⟨[none, some missing, some blank], _, rfl, by decide, hpet⟩
  have hpassed : ∀ x ∈ failing.responses, IsPassedOver x := by decide
  have h := annotate_of_edits op none hedits
  have hfailing := annotate_of_edits failing none .refl
  exact ⟨hedits, hfirst, hpassed, h.1.1.trans (by decide), (h.2.1 pet hfirst).trans (by decide),
    (hfailing.2.2.1 hpassed).trans (by decide)⟩

end StubPlan
