import StubPlan.Description.Schema
import StubPlan.Proofs.Description.Shape

/-! The parts of an API description, and what holds of all of them: their documents can be told apart,
and they are nothing but the values of their shapes. -/
namespace StubPlan

/-- A type whose documents can be told apart and whose values are those of its shape. -/
class LawfulDescribed (α : Type) [Described α] : Prop where
  isSound : (Described.shape α).isSound
  toCarrier_ofCarrier (c : (Described.shape α).Carrier) :
    Described.toCarrier (Described.ofCarrier c : α) = c

namespace Described
open LawfulDescribed

variable {α : Type} [Described α] [LawfulDescribed α]

@[simp] lemma map_toCarrier_ofCarrier (cs : List (shape α).Carrier) :
    (cs.map (ofCarrier : _ → α)).map toCarrier = cs := by
  rw [List.map_map]
  exact List.map_id'' toCarrier_ofCarrier cs

@[simp] lemma map_toCarrier_ofCarrier? (c : Option (shape α).Carrier) :
    (c.map (ofCarrier : _ → α)).map toCarrier = c := by
  cases c <;> simp [toCarrier_ofCarrier]

end Described

section Instances
open Described

instance : LawfulDescribed Parameter where
  isSound := by decide +kernel
  toCarrier_ofCarrier _ := rfl

instance : LawfulDescribed Response where
  isSound := by decide +kernel
  toCarrier_ofCarrier _ := rfl

instance : LawfulDescribed Operation where
  isSound := by decide +kernel
  toCarrier_ofCarrier := by
    rintro ⟨operationId, httpMethod, path, summary, pathParams, queryParams, headerParams,
      cookieParams, bodyParam, responses, returnBaseType, ⟨⟩⟩
    have hresponses : (responses.map (Option.map (ofCarrier : _ → Response))).map
        (Option.map toCarrier) = responses := by
      rw [List.map_map]
      exact List.map_id'' map_toCarrier_ofCarrier? responses
    change (operationId, httpMethod, path, summary,
      (pathParams.map (ofCarrier : _ → Parameter)).map toCarrier,
      (queryParams.map (ofCarrier : _ → Parameter)).map toCarrier,
      (headerParams.map (ofCarrier : _ → Parameter)).map toCarrier,
      (cookieParams.map (ofCarrier : _ → Parameter)).map toCarrier,
      (bodyParam.map (ofCarrier : _ → Parameter)).map toCarrier,
      (responses.map (Option.map (ofCarrier : _ → Response))).map (Option.map toCarrier),
      returnBaseType, ()) = _
    simp only [map_toCarrier_ofCarrier, map_toCarrier_ofCarrier?, hresponses]

instance : LawfulDescribed OperationGroup where
  isSound := by decide +kernel
  toCarrier_ofCarrier := by
    rintro ⟨classname, operations, imports, ⟨⟩⟩
    change (classname, (operations.map (ofCarrier : _ → Operation)).map toCarrier, imports, ()) = _
    rw [map_toCarrier_ofCarrier]

instance : LawfulDescribed Property where
  isSound := by decide +kernel
  toCarrier_ofCarrier _ := rfl

instance : LawfulDescribed Model where
  isSound := by decide +kernel
  toCarrier_ofCarrier := by
    rintro ⟨classname, vars, imports, ⟨⟩⟩
    change (classname, (vars.map (ofCarrier : _ → Property)).map toCarrier, imports, ()) = _
    rw [map_toCarrier_ofCarrier]

instance : LawfulDescribed ServerVariable where
  isSound := by decide +kernel
  toCarrier_ofCarrier _ := rfl

instance : LawfulDescribed Server where
  isSound := by decide +kernel
  toCarrier_ofCarrier := by
    rintro ⟨url, description, declared, ⟨⟩⟩
    have hdeclared : (declared.map fun e => (e.1, e.2.map (ofCarrier : _ → ServerVariable))).map
        (fun e => (e.1, e.2.map toCarrier)) = declared := by
      have hentry : ∀ e ∈ declared, (e.1, (e.2.map (ofCarrier : _ → ServerVariable)).map toCarrier) =
          id e := fun e _ => Prod.ext rfl (map_toCarrier_ofCarrier? e.2)
      rw [List.map_map]
      exact (List.map_congr_left hentry).trans (List.map_id declared)
    exact Prod.ext rfl (Prod.ext rfl (Prod.ext hdeclared rfl))

instance : LawfulDescribed Contact where
  isSound := by decide +kernel
  toCarrier_ofCarrier _ := rfl

instance : LawfulDescribed Info where
  isSound := by decide +kernel
  toCarrier_ofCarrier := by
    rintro ⟨title, description, version, termsOfService, contact, ⟨⟩⟩
    change (title, description, version, termsOfService,
      (contact.map (ofCarrier : _ → Contact)).map toCarrier, ()) = _
    rw [map_toCarrier_ofCarrier?]

instance : LawfulDescribed ApiDescription where
  isSound := by decide +kernel
  toCarrier_ofCarrier := by
    rintro ⟨info, servers, operationGroups, models, ⟨⟩⟩
    change ((info.map (ofCarrier : _ → Info)).map toCarrier,
      (servers.map (ofCarrier : _ → Server)).map toCarrier,
      (operationGroups.map (ofCarrier : _ → OperationGroup)).map toCarrier,
      (models.map (ofCarrier : _ → Model)).map toCarrier, ()) = _
    simp only [map_toCarrier_ofCarrier, map_toCarrier_ofCarrier?]

end Instances

/-- The kinds of parts that an API description is made of, itself among them. -/
inductive Descriptor where
  | parameter
  | response
  | operation
  | operationGroup
  | property
  | model
  | serverVariable
  | server
  | contact
  | info
  | apiDescription
  deriving DecidableEq, Repr

namespace Descriptor

/-- The values of a kind. -/
@[reducible] def Carrier : Descriptor → Type
  | parameter => Parameter
  | response => Response
  | operation => Operation
  | operationGroup => OperationGroup
  | property => Property
  | model => Model
  | serverVariable => ServerVariable
  | server => Server
  | contact => Contact
  | info => Info
  | apiDescription => ApiDescription

instance : (d : Descriptor) → Described d.Carrier
  | parameter => inferInstanceAs (Described Parameter)
  | response => inferInstanceAs (Described Response)
  | operation => inferInstanceAs (Described Operation)
  | operationGroup => inferInstanceAs (Described OperationGroup)
  | property => inferInstanceAs (Described Property)
  | model => inferInstanceAs (Described Model)
  | serverVariable => inferInstanceAs (Described ServerVariable)
  | server => inferInstanceAs (Described Server)
  | contact => inferInstanceAs (Described Contact)
  | info => inferInstanceAs (Described Info)
  | apiDescription => inferInstanceAs (Described ApiDescription)

instance : (d : Descriptor) → LawfulDescribed d.Carrier
  | parameter => inferInstanceAs (LawfulDescribed Parameter)
  | response => inferInstanceAs (LawfulDescribed Response)
  | operation => inferInstanceAs (LawfulDescribed Operation)
  | operationGroup => inferInstanceAs (LawfulDescribed OperationGroup)
  | property => inferInstanceAs (LawfulDescribed Property)
  | model => inferInstanceAs (LawfulDescribed Model)
  | serverVariable => inferInstanceAs (LawfulDescribed ServerVariable)
  | server => inferInstanceAs (LawfulDescribed Server)
  | contact => inferInstanceAs (LawfulDescribed Contact)
  | info => inferInstanceAs (LawfulDescribed Info)
  | apiDescription => inferInstanceAs (LawfulDescribed ApiDescription)

end Descriptor
end StubPlan
