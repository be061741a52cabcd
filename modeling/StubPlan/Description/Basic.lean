/-! What a parsed API description says: operations grouped by resource, models, servers and general
information. -/
namespace StubPlan

/-- A parameter of an operation, in any location. -/
structure Parameter where
  name : String
  dataType : Option String
  required : Bool
  description : Option String
  deriving DecidableEq, Repr

/-- A declared response: the text of its status code and the name of its type. -/
structure Response where
  code : Option String
  baseType : Option String
  description : Option String
  deriving DecidableEq, Repr

/-- An operation, its parameters parted by location. A response may be a hole where nothing usable
was declared. -/
structure Operation where
  operationId : String
  httpMethod : String
  path : String
  summary : Option String
  pathParams : List Parameter
  queryParams : List Parameter
  headerParams : List Parameter
  cookieParams : List Parameter
  bodyParam : Option Parameter
  responses : List (Option Response)
  returnBaseType : Option String
  deriving DecidableEq, Repr

/-- The operations that share one handler interface, with the import statements they need. -/
structure OperationGroup where
  classname : Option String
  operations : List Operation
  imports : List String
  deriving DecidableEq, Repr

/-- A property of a model; its four types are expressions. -/
structure Property where
  name : String
  dataType : Option String
  datatypeWithEnum : Option String
  baseType : Option String
  complexType : Option String
  deriving DecidableEq, Repr

/-- A model, with the names of the other models it depends on. -/
structure Model where
  classname : String
  vars : List Property
  imports : List String
  deriving DecidableEq, Repr

/-- A variable of a server's URL template. -/
structure ServerVariable where
  default : Option String
  choices : List String
  description : Option String
  deriving DecidableEq, Repr

/-- A server: a URL template and the variables declared for it, in order. -/
structure Server where
  url : Option String
  description : Option String
  declared : List (String × Option ServerVariable)
  deriving DecidableEq, Repr

/-- Whom to ask about the API. -/
structure Contact where
  name : Option String
  email : Option String
  url : Option String
  deriving DecidableEq, Repr

/-- General information about the API. -/
structure Info where
  title : Option String
  description : Option String
  version : Option String
  termsOfService : Option String
  contact : Option Contact
  deriving DecidableEq, Repr

structure ApiDescription where
  info : Option Info
  servers : List Server
  operationGroups : List OperationGroup
  models : List Model
  deriving DecidableEq, Repr

def ApiDescription.empty : ApiDescription := ⟨none, [], [], []⟩

end StubPlan
