import StubPlan.Description.Basic
import StubPlan.Name.SnakeCase
import StubPlan.TypeExpr.SelfReference

/-! Import statements of generated code. They are relative, so that the code does not depend on the
name under which its package is installed, and models are imported from the package `schemas`. -/
namespace StubPlan

/-- How a name is written into a statement; `None` stands for a name that is not there. -/
def importedName (name : Option String) : String := name.getD "None"

/-- A segment `models` inside a dotted name, with the dots around it. -/
def modelsSegment : String := ".models."

/-- A segment `schemas` inside a dotted name, with the dots around it. -/
def schemasSegment : String := ".schemas."

/-- Statements that import from the model package or from the root package become relative. -/
structure ImportRewriter where
  packageName : Option String
  modelPackage : Option String
  deriving DecidableEq, Repr

/-- A model whose references to itself are quoted, and the imports it needs. -/
structure RewrittenModel where
  model : Model
  imports : List String
  deriving DecidableEq, Repr

/-- The statements that import the models a model depends on from the modules beside it, each
once. -/
def Model.siblingImports (model : Model) : List String :=
  model.imports.foldl
    (fun statements dependency =>
      if Text.isBlank dependency || dependency = model.classname then statements
      else
        let statement :=
          "from ." ++ Name.snakeCase dependency ++ " import " ++ dependency
        if statements.contains statement then statements else statements ++ [statement])
    []

/-- A property whose four types have every reference to the class in quotes. -/
def Property.quoteSelf (className : String) (p : Property) : Property :=
  let quote := Option.map (TypeExpr.quoteSelf className)
  { p with
    dataType := quote p.dataType
    datatypeWithEnum := quote p.datatypeWithEnum
    baseType := quote p.baseType
    complexType := quote p.complexType }

def Model.rewrite (model : Model) : RewrittenModel :=
  ⟨{ model with vars := model.vars.map (Property.quoteSelf model.classname) },
    model.siblingImports⟩

namespace ImportRewriter

/-- A rewriter; without a model package, models live in the package `schemas` of the root
package. -/
def make (packageName modelPackage : Option String) : ImportRewriter :=
  match modelPackage with
  | none | some "" => ⟨packageName, some (importedName packageName ++ ".schemas")⟩
  | given => ⟨packageName, given⟩

def importPrefix (package : Option String) : String := "from " ++ importedName package ++ "."

def modelPrefixes (r : ImportRewriter) : List String :=
  let given := importPrefix r.modelPackage
  [given, Text.replace modelsSegment schemasSegment given]

/-- A statement with `models` redirected to `schemas` and the package's own names left out. -/
def relativeStatement (r : ImportRewriter) (statement : String) : String :=
  let redirected := Text.replace modelsSegment schemasSegment statement
  match r.modelPrefixes.findSome? (Text.dropFront? · redirected) with
  | some rest => "from ..schemas." ++ rest
  | none => match Text.dropFront? (importPrefix r.packageName) redirected with
    | some rest => "from .." ++ rest
    | none => redirected

/-- The relative form of a statement; a blank one stays as it is. -/
def toRelativeImport (r : ImportRewriter) (statement : String) : String :=
  if Text.isBlank statement then statement else r.relativeStatement statement

def rewriteImports (r : ImportRewriter) (statements : List (Option String)) : List String :=
  (statements.filterMap fun s => s.filter (· ≠ "")).map r.toRelativeImport

def toModelImport (r : ImportRewriter) (name : String) : String :=
  r.toRelativeImport
    (importPrefix r.modelPackage ++ Name.snakeCase name ++ " import " ++ name)

end ImportRewriter
end StubPlan
