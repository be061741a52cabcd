import StubPlan.Generation.Context
import StubPlan.Operation
import StubPlan.Options.Assign

/-! A generation run as a sequence of requests. Context and rewriter are made when they are first
needed and kept from then on. -/
namespace StubPlan

/-- A run: its options and description, and what has been made of them so far. -/
structure Session where
  options : Options
  description : ApiDescription
  context? : Option Context
  rewriter? : Option ImportRewriter

structure Generated where
  context : Context
  groups : List AnnotatedGroup
  models : List RewrittenModel

inductive Request where
  | context
  | properties
  | layout
  | rewriter
  | freshContext
  | annotateGroup (group : OperationGroup)
  | rewriteModels (models : List Model)
  | generate

inductive Answer where
  | context (c : Context)
  | properties (entries : List (String × Value))
  | layout (l : Layout)
  | rewriter (r : ImportRewriter)
  | group (g : AnnotatedGroup)
  | models (ms : List RewrittenModel)
  | generated (g : Generated)

namespace Session

/-- A run of which nothing has been asked yet. -/
def start (options : Options) (description : ApiDescription) : Session :=
  ⟨options, description, none, none⟩

/-- The context, made and kept at first use; a failure is not kept. -/
def context (s : Session) : Except Obstacle Context × Session :=
  match s.context? with
  | some c => (.ok c, s)
  | none => match Context.resolve s.options s.description with
    | .ok c => (.ok c, { s with context? := some c })
    | .error e => (.error e, s)

def rewriterFor (c : Context) : ImportRewriter :=
  ImportRewriter.make (some c.packageName) (some c.modelPackage)

/-- The rewriter, made and kept at first use. -/
def rewriter (s : Session) : Except Obstacle ImportRewriter × Session :=
  match s.rewriter? with
  | some r => (.ok r, s)
  | none => match s.context with
    | (.ok c, s) => (.ok (rewriterFor c), { s with rewriter? := some (rewriterFor c) })
    | (.error e, s) => (.error e, s)

def fromContext (s : Session) (answer : Context → Answer) : Except Obstacle Answer × Session :=
  let (c, s) := s.context
  (c.map answer, s)

def fromRewriter (s : Session) (answer : ImportRewriter → Answer) :
    Except Obstacle Answer × Session :=
  let (r, s) := s.rewriter
  (r.map answer, s)

/-- Everything for the described groups and models. Without any, the rewriter is not needed. -/
def generate (s : Session) : Except Obstacle Generated × Session :=
  let needed := !(s.description.operationGroups.isEmpty && s.description.models.isEmpty)
  let (rewriter, s) := if needed then
      let (r, s) := s.rewriter
      (r.map some, s)
    else (.ok none, s)
  match rewriter with
  | .error e => (.error e, s)
  | .ok r =>
    let (context, s) := s.context
    (context.map fun c =>
      { context := c
        groups := s.description.operationGroups.map (OperationGroup.annotate r)
        models := s.description.models.map Model.rewrite }, s)

def answer (s : Session) : Request → Except Obstacle Answer × Session
  | .context => s.fromContext .context
  | .properties => s.fromContext fun c => .properties c.properties
  | .layout => s.fromContext fun c => .layout c.layout
  | .rewriter => s.fromRewriter .rewriter
  | .freshContext => ((Context.resolve s.options s.description).map .context, s)
  | .annotateGroup group => s.fromRewriter fun r => .group (group.annotate (some r))
  | .rewriteModels models =>
    if models.isEmpty then (.ok (.models []), s)
    else s.fromRewriter fun _ => .models (models.map Model.rewrite)
  | .generate =>
    let (g, s) := s.generate
    (g.map .generated, s)

def assignOption (s : Session) (name : String) (v : Value) : Except AssignmentError Session :=
  (s.options.assign name v).map fun options => { s with options }

def replaceDescription (s : Session) (d : ApiDescription) : Session :=
  { s with description := d }

def assignRewriter (s : Session) (r : ImportRewriter) : Session :=
  { s with rewriter? := some r }

end Session
end StubPlan
