import StubPlan.Failure
import StubPlan.Options.Resolve
import StubPlan.Toml.Document
import StubPlan.TypeExpr.SelfReference
import StubPlan.Yaml.Document

/-! Finding and reading the configuration of a run. One source decides: the file that is named, else
the first of three files that is there. -/
namespace StubPlan

/-- Where the configuration of a run stands: in a YAML file, or in a table of the project file. Each
has the text of its path and what is stored there. -/
inductive ConfigurationSource where
  | yaml (path : String) (stored : Stored)
  | project (path : String) (stored : Stored)
  deriving DecidableEq, Repr

/-- Why there is no configuration. Those from `nameTooLong` on are not reported to the user as faults
of a configuration, but end the run. -/
inductive ConfigurationError where
  | notThere (path : String)
  | noSource
  | malformed (path : String)
  | undecodable (path : String) (fault : Utf8.Fault)
  | malformedProject (path : String)
  | invalid (path : String) (faults : List Fault)
  | nameTooLong
  | isDirectory
  | notUnicode
  | parser (error : ParserError)
  | keyNotText
  | unfitDirective
  | options (name : String)
  | toolNotTable
  deriving DecidableEq, Repr

namespace ConfigurationError

/-- What is said of a file that holds no document. -/
def malformedReason : String := "Malformed configuration"

/-- What the user is told, for the causes that are reported. -/
def report? : ConfigurationError → Option ConfigurationFailure
  | notThere path => some ⟨"Configuration file not found", some path, none⟩
  | noSource => some ⟨"config not found", none, none⟩
  | malformed path => some ⟨malformedReason, some path, none⟩
  | undecodable path fault => some ⟨malformedReason ++ ": " ++ fault.message, some path, none⟩
  | malformedProject path => some ⟨"Malformed pyproject.toml", some path, none⟩
  | invalid path faults =>
    some ⟨"Invalid configuration", some path, faults.head?.map Fault.location⟩
  | _ => none

end ConfigurationError

namespace Configuration

/-- Parsers of YAML texts and of project files, which give the entries of a table. -/
structure Parsers where
  yaml : List Char → Except ParserFault Value
  project : List Char → Except ParserFault (List (Value × Value))

/-- What a configuration is read with: parsers, and a way to look options up in a document. -/
structure Reader extends Parsers where
  options : Value → Surroundings → Except OptionsError Options

/-- The reader that looks options up in the document, the environment and the places that the document
names. -/
def Parsers.reader (p : Parsers) : Reader := { p with options := Options.read }

/-- How many nodes of a YAML text may lie around another, and how many steps down the values of a
project file may lie. Neither is a property of texts, but of what has room to read them. -/
structure Depths where
  yaml : Nat
  project : Toml.Steps

/-- The depths that there is room for when the program starts. -/
def Depths.usual : Depths := ⟨488, ⟨985⟩⟩

/-- The parsers that the program runs with. The one of YAML knows the tags of kinds, but not those of
complex numbers and of objects by name. -/
def Parsers.standard (depths : Depths) : Parsers :=
  ⟨Yaml.read .extended depths.yaml, Toml.read depths.project⟩

variable (r : Reader)

/-- The files that are looked for, in order. -/
def filenames : List String := ["aiohttp-stubgen.yaml", "aiohttp-stubgen.yml"]

/-- The project file, which is looked for last. -/
def projectFilename : String := "pyproject.toml"

/-- The table of the project file that holds the configuration. -/
def toolName : String := "aiohttp-stubgen"

/-- The file of a name under the root, if there is one. -/
def candidate (w : Workspace) (name : String) : Option (String × Stored) :=
  match w.find name with
  | .stored s => some (w.under name, s)
  | _ => none

/-- The source that decides: the file that is named, else the first one found. -/
def source (w : Workspace) (path : Option String) :
    Except ConfigurationError ConfigurationSource :=
  match path.filter (· ≠ "") with
  | some path => match w.find path with
    | .stored s => .ok (.yaml path s)
    | .nameTooLong => .error .nameTooLong
    | _ => .error (.notThere path)
  | none => match filenames.findSome? (candidate w) with
    | some (path, s) => .ok (.yaml path s)
    | none => match candidate w projectFilename with
      | some (path, s) => .ok (.project path s)
      | none => .error .noSource

def readYaml (path : String) : Stored → Except ConfigurationError Value
  | .directory => .error .isDirectory
  | .file bytes => match fileText bytes with
    | .error fault => .error (.undecodable path fault)
    | .ok text => match r.yaml text with
      | .ok v => .ok v
      | .error .malformed => .error (.malformed path)
      | .error (.raised error) => .error (.parser error)

/-- The configuration in the value of `tool`. A text or a list that holds the table's name is faulty,
and so is a value that holds nothing at all. -/
def toolTable (tools : Value) : Except ConfigurationError Value :=
  let isName : Value → Bool
    | .text s => s = toolName
    | _ => false
  match tools with
  | .map entries => match Value.get? toolName entries with
    | some v => .ok v
    | none => .error .noSource
  | .text s =>
    if TypeExpr.occursIn toolName.toList s.toList then .error .toolNotTable else .error .noSource
  | .list items => if items.any isName then .error .toolNotTable else .error .noSource
  | _ => .error .toolNotTable

def readProject (path : String) : Stored → Except ConfigurationError Value
  | .directory => .error .isDirectory
  | .file bytes => match fileText bytes with
    | .error _ => .error .notUnicode
    | .ok text => match r.project text with
      | .ok entries => toolTable ((Value.get? "tool" entries).getD (.map []))
      | .error .malformed => .error (.malformedProject path)
      | .error (.raised error) => .error (.parser error)

def document : ConfigurationSource → Except ConfigurationError (String × Value)
  | .yaml path s => (readYaml r path s).map (path, ·)
  | .project path s => (readProject r path s).map (path, ·)

/-- The options that a document gives; one that says nothing counts as an empty mapping. -/
def options (s : Surroundings) (path : String) (document : Value) :
    Except ConfigurationError Options :=
  match r.options (if document.isEmpty then .map [] else document) s with
  | .ok o => .ok o
  | .error .keyNotText => .error .keyNotText
  | .error .unfitDirective => .error .unfitDirective
  | .error (.faults faults) => .error (.invalid path faults)
  | .error (.other name) => .error (.options name)

def load (s : Surroundings) (path : Option String) : Except ConfigurationError Options := do
  let (path, v) ← document r (← source s.workspace path)
  options r s path v

end Configuration
end StubPlan
