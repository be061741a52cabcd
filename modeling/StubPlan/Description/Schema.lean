import StubPlan.Description.Basic
import StubPlan.Description.Shape

/-! The shapes of the parts of an API description, and reading and writing them. -/
namespace StubPlan

class Described (α : Type) where
  shape : Shape
  ofCarrier : shape.Carrier → α
  toCarrier : α → shape.Carrier

namespace Described

def read (α : Type) [Described α] (v : Value) : Checked α :=
  ((shape α).read v).map ofCarrier

def write {α : Type} [Described α] (spelling : Spelling) (x : α) : Value :=
  (shape α).write spelling (toCarrier x)

end Described

def optionalText : Shape := .optional (.text "")

instance : Described Parameter where
  shape := .record <|
    .field "name" true (.text "") <|
    .field "data_type" false optionalText <|
    .field "required" false .flag <|
    .field "description" false optionalText .none
  ofCarrier := fun (name, dataType, required, description, ()) =>
    { name, dataType, required, description }
  toCarrier := fun p => (p.name, p.dataType, p.required, p.description, ())

instance : Described Response where
  shape := .record <|
    .field "code" false optionalText <|
    .field "base_type" false optionalText <|
    .field "description" false optionalText .none
  ofCarrier := fun (code, baseType, description, ()) => { code, baseType, description }
  toCarrier := fun r => (r.code, r.baseType, r.description, ())

def operationShape (response : Shape) : Shape :=
  let parameters := Shape.many (Described.shape Parameter)
  .record <|
    .field "operation_id" false (.text "") <|
    .field "http_method" false (.text "GET") <|
    .field "path" false (.text "") <|
    .field "summary" false optionalText <|
    .field "path_params" false parameters <|
    .field "query_params" false parameters <|
    .field "header_params" false parameters <|
    .field "cookie_params" false parameters <|
    .field "body_param" false (.optional (Described.shape Parameter)) <|
    .field "responses" false (.many response) <|
    .field "return_base_type" false optionalText .none

open Described in
instance : Described Operation where
  shape := operationShape (.slot (shape Response))
  ofCarrier := fun (operationId, httpMethod, path, summary, pathParams, queryParams, headerParams,
      cookieParams, bodyParam, responses, returnBaseType, ()) =>
    { operationId, httpMethod, path, summary
      pathParams := pathParams.map ofCarrier
      queryParams := queryParams.map ofCarrier
      headerParams := headerParams.map ofCarrier
      cookieParams := cookieParams.map ofCarrier
      bodyParam := bodyParam.map ofCarrier
      responses := responses.map (Option.map ofCarrier)
      returnBaseType }
  toCarrier := fun op =>
    (op.operationId, op.httpMethod, op.path, op.summary, op.pathParams.map toCarrier,
      op.queryParams.map toCarrier, op.headerParams.map toCarrier, op.cookieParams.map toCarrier,
      op.bodyParam.map toCarrier, op.responses.map (Option.map toCarrier),
      op.returnBaseType, ())

def Operation.readWithHoles (v : Value) : Checked Operation :=
  ((operationShape (.optional (Described.shape Response))).read v).map Described.ofCarrier

open Described in
instance : Described OperationGroup where
  shape := .record <|
    .field "classname" false optionalText <|
    .field "operations" false (.many (shape Operation)) <|
    .field "imports" false (.many (.text "")) .none
  ofCarrier := fun (classname, operations, imports, ()) =>
    { classname, operations := operations.map ofCarrier, imports }
  toCarrier := fun g => (g.classname, g.operations.map toCarrier, g.imports, ())

instance : Described Property where
  shape := .record <|
    .field "name" true (.text "") <|
    .field "data_type" false optionalText <|
    .field "datatype_with_enum" false optionalText <|
    .field "base_type" false optionalText <|
    .field "complex_type" false optionalText .none
  ofCarrier := fun (name, dataType, datatypeWithEnum, baseType, complexType, ()) =>
    { name, dataType, datatypeWithEnum, baseType, complexType }
  toCarrier := fun p => (p.name, p.dataType, p.datatypeWithEnum, p.baseType, p.complexType, ())

open Described in
instance : Described Model where
  shape := .record <|
    .field "classname" true (.text "") <|
    .field "vars" false (.many (shape Property)) <|
    .field "imports" false (.many (.text "")) .none
  ofCarrier := fun (classname, vars, imports, ()) =>
    { classname, vars := vars.map ofCarrier, imports }
  toCarrier := fun m => (m.classname, m.vars.map toCarrier, m.imports, ())

instance : Described ServerVariable where
  shape := .record <|
    .field "default" false optionalText <|
    .field "enum" false (.many (.text "")) <|
    .field "description" false optionalText .none
  ofCarrier := fun (default, choices, description, ()) => { default, choices, description }
  toCarrier := fun v => (v.default, v.choices, v.description, ())

open Described in
instance : Described Server where
  shape := .record <|
    .field "url" false optionalText <|
    .field "description" false optionalText <|
    .field "variables" false (.table (.optional (shape ServerVariable))) .none
  ofCarrier := fun (url, description, declared, ()) =>
    { url, description, declared := declared.map fun (name, v) => (name, v.map ofCarrier) }
  toCarrier := fun s =>
    (s.url, s.description, s.declared.map fun (name, v) => (name, v.map toCarrier), ())

instance : Described Contact where
  shape := .record <|
    .field "name" false optionalText <|
    .field "email" false optionalText <|
    .field "url" false optionalText .none
  ofCarrier := fun (name, email, url, ()) => { name, email, url }
  toCarrier := fun c => (c.name, c.email, c.url, ())

open Described in
instance : Described Info where
  shape := .record <|
    .field "title" false optionalText <|
    .field "description" false optionalText <|
    .field "version" false optionalText <|
    .field "terms_of_service" false optionalText <|
    .field "contact" false (.optional (shape Contact)) .none
  ofCarrier := fun (title, description, version, termsOfService, contact, ()) =>
    { title, description, version, termsOfService, contact := contact.map ofCarrier }
  toCarrier := fun i =>
    (i.title, i.description, i.version, i.termsOfService, i.contact.map toCarrier, ())

open Described in
instance : Described ApiDescription where
  shape := .record <|
    .field "info" false (.optional (shape Info)) <|
    .field "servers" false (.many (shape Server)) <|
    .field "operation_groups" false (.many (shape OperationGroup)) <|
    .field "models" false (.many (shape Model)) .none
  ofCarrier := fun (info, servers, operationGroups, models, ()) =>
    { info := info.map ofCarrier
      servers := servers.map ofCarrier
      operationGroups := operationGroups.map ofCarrier
      models := models.map ofCarrier }
  toCarrier := fun d =>
    (d.info.map toCarrier, d.servers.map toCarrier, d.operationGroups.map toCarrier,
      d.models.map toCarrier, ())

end StubPlan
