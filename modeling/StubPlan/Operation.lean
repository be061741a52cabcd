import StubPlan.Import
import StubPlan.Numeral

/-! The handler contract of an operation: its parameters in order, the response it succeeds with,
and the type its handler gives back. -/
namespace StubPlan
open Chars

/-- The type of a value about which nothing is declared. -/
def anyType : String := "Any"

/-- The type of a response about which nothing is declared. -/
def payloadType : String := "JSONPayload"

def defaultStatus : Int := 200

structure HandlerParameter where
  name : String
  pythonType : String
  required : Bool
  description : String
  isBody : Bool
  deriving DecidableEq, Repr

structure SuccessResponse where
  status : Int
  responseClass : Option String
  deriving DecidableEq, Repr

/-- The names of a group's handler interface: its class, the module that holds it, and the attribute
it is bound to. -/
structure HandlerNames where
  className : String
  moduleName : String
  attributeName : String
  deriving DecidableEq, Repr

/-- A value that the templates find under a vendor extension. -/
inductive Extension where
  | parameters (ps : List HandlerParameter)
  | status (code : Int)
  | typeName (name : String)
  deriving DecidableEq, Repr

structure AnnotatedOperation where
  operation : Operation
  parameters : List HandlerParameter
  success : SuccessResponse
  resultType : String
  handler : Option HandlerNames
  deriving DecidableEq, Repr

structure AnnotatedGroup where
  group : OperationGroup
  operations : List AnnotatedOperation
  imports : List String
  handler : Option HandlerNames
  deriving DecidableEq, Repr

/-- The type under which a handler sees a parameter; one that is not required may be missing. -/
def Parameter.pythonType (p : Parameter) : String :=
  let declared := (Text.present? p.dataType).getD anyType
  if p.required then declared else declared ++ " | None"

def Parameter.toHandler (isBody : Bool) (p : Parameter) : HandlerParameter :=
  ⟨p.name, p.pythonType, p.required, p.description.getD "", isBody⟩

/-- The handler's parameters: path, query, header, cookie, then the body. -/
def Operation.handlerParameters (op : Operation) : List HandlerParameter :=
  (op.pathParams ++ op.queryParams ++ op.headerParams ++ op.cookieParams).map
      (Parameter.toHandler false) ++
    op.bodyParam.toList.map (Parameter.toHandler true)

/-- The number that a status code writes; a malformed or missing one counts as the default. -/
def readStatus (code : Option String) : Int :=
  (code.bind fun text => Numeral.int? text.toList).getD defaultStatus

/-- Whether a response declares success: its code starts with a two. -/
def Response.isSuccess (r : Response) : Bool :=
  match r.code with
  | some code => (trim code.toList).head? = some '2'
  | none => false

/-- The response that an operation succeeds with: the first declared one whose code starts with a
two. Its type falls back to the operation's own. -/
def successResponse (responses : List (Option Response)) (returnType : Option String) :
    SuccessResponse :=
  let fallback := Text.present? returnType
  match responses.findSome? fun r => r.filter Response.isSuccess with
  | some r => ⟨readStatus r.code, (Text.present? r.baseType).or fallback⟩
  | none => ⟨defaultStatus, fallback⟩

def Operation.success (op : Operation) : SuccessResponse :=
  successResponse op.responses op.returnBaseType

def handlerResultType (success : Option SuccessResponse) : String :=
  (Text.present? (success.bind (·.responseClass))).getD payloadType

/-- The names of a group's handler interface; a blank name has none. -/
def HandlerNames.ofGroup? (classname : Option String) : Option HandlerNames :=
  (Text.present? classname).map fun name =>
    let snake := Name.snakeCase name
    ⟨"I" ++ name ++ "Handler", snake ++ "_handler", snake⟩

def Operation.annotate (names : Option HandlerNames) (op : Operation) : AnnotatedOperation :=
  ⟨op, op.handlerParameters, op.success, handlerResultType (some op.success), names⟩

def annotateOperations (names : Option HandlerNames) (ops : List (Option Operation)) :
    List AnnotatedOperation :=
  ops.filterMap (Option.map (Operation.annotate names))

/-- The contract under the keys that the templates expect. -/
def AnnotatedOperation.extensions (a : AnnotatedOperation) : List (String × Extension) :=
  [("x-handler-parameters", .parameters a.parameters),
   ("x-success-status-code", .status a.success.status)] ++
  ((a.success.responseClass.filter (· ≠ "")).map fun name =>
    ("x-success-response-class", Extension.typeName name)).toList ++
  [("x-handler-result-type", .typeName a.resultType)]

/-- A group annotated with its handler's names; its imports become relative when there is a
rewriter. -/
def OperationGroup.annotate (rewriter : Option ImportRewriter) (group : OperationGroup) :
    AnnotatedGroup :=
  let names := HandlerNames.ofGroup? group.classname
  let imports := match rewriter with
    | some r => r.rewriteImports (group.imports.map some)
    | none => group.imports
  ⟨group, annotateOperations names (group.operations.map some), imports, names⟩

end StubPlan
