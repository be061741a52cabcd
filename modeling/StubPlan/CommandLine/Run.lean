import StubPlan.CommandLine.Arguments
import StubPlan.Configuration
import StubPlan.Console.Printer
import StubPlan.Description.Load
import StubPlan.Generation.Context

/-! What a command prints and how it ends. -/
namespace StubPlan

def programVersion : String := "0.1.0"

inductive RunError where
  | configuration (e : ConfigurationError)
  | description (e : LoadError)
  | obstacle (o : Obstacle)
  | printing (e : PrintError)
  deriving Repr

/-- The message about an error, for those that are the user's to mend. -/
def RunError.report? : RunError → Option String
  | configuration e => e.report?.map ConfigurationFailure.message
  | description (.failed source cause) => some (loadFailureMessage source cause.text?)
  | _ => none

/-- How a run ends: well, with a report of an error, with a complaint about the arguments, or by an
error that nothing catches. -/
inductive Ending where
  | done
  | reported
  | misused (e : UsageError)
  | interrupted (e : RunError)
  deriving Repr

def Ending.exitCode : Ending → Nat
  | done => 0
  | reported | interrupted _ => 1
  | misused _ => 2

/-- The lines that a run prints, and its end. -/
structure Outcome where
  lines : List String
  ending : Ending
  deriving Repr

/-- What is printed at once: its lines, or why there are none. -/
abbrev Printed := Except PrintError (List String)

namespace Outcome

/-- Texts printed one after another; an error stops at the text that has it. -/
def print (ending : Ending) : List Printed → Outcome
  | [] => ⟨[], ending⟩
  | .error e :: _ => ⟨[], .interrupted (.printing e)⟩
  | .ok lines :: rest =>
    let after := print ending rest
    ⟨lines ++ after.lines, after.ending⟩

/-- What is printed when a run stops: the message for the user, if there is one. -/
def ofError (p : Printer) (e : RunError) : Outcome :=
  match e.report? with
  | none => ⟨[], .interrupted e⟩
  | some message => print .reported [p.print (codesOf ("[red]Error:[/red] " ++ p.escape message))]

end Outcome

/-- The value of an option that is a text and not empty. What is no text names nothing either, but no
message can tell that. -/
def Options.source (o : Options) (f : OptionField) : Except RunError (Option String) :=
  match o.value f with
  | .text "" => .ok none
  | .text s => .ok (some s)
  | .halves _ => .error (.printing .unencodable)
  | _ => .ok none

/-- The source of the description: the one on the command line, else the one in the options. -/
def Selection.source (s : Selection) (o : Options) : Except RunError (Option String) :=
  match s.description.filter (· ≠ "") with
  | some source => .ok (some source)
  | none => o.source .description

structure Tools where
  parsers : Configuration.Parsers
  loader : Loader ApiDescription
  printer : Printer

def Context.load (t : Tools) (around : Surroundings) (s : Selection) : Except RunError Context := do
  let options ← (Configuration.load t.parsers.reader around s.config).mapError .configuration
  let description ← match ← s.source options with
    | none => .ok .empty
    | some source => (t.loader.load around.workspace source).mapError .description
  (Context.resolve options description).mapError .obstacle

namespace Context

def propertyTable (c : Context) : Table :=
  { title := codesOf "Resolved properties"
    header := (codesOf "Property", codesOf "Value")
    rows := c.properties.map fun (name, v) => (codesOf name, v.codes) }

end Context

namespace Layout

/-- The text of a path of the layout below the output folder. -/
def shownPath (l : Layout) (relative : String) : String := (l.outputPath relative).getD "None"

def folders (l : Layout) : List (String × String) :=
  [("models", l.schemasDir), ("controllers", l.controllersDir),
   ("controller tests", l.controllerTestsDir), ("handlers", l.handlersDir)]

def folderTable (l : Layout) : Table :=
  { title := codesOf ("Layout of " ++ l.packageName)
    header := (codesOf "Artifact", codesOf "Folder")
    rows := l.folders.map fun (name, relative) => (codesOf name, codesOf (l.shownPath relative)) }

end Layout

namespace Invocation

def helpLines : List String :=
  ["Usage: aiohttp-stubgen COMMAND [-c PATH] [-d PATH-OR-URL]",
   "",
   "properties  the resolved property set of a generation run",
   "layout      where each kind of generated artifact is written",
   "version     the version of the program"]

def run (t : Tools) (around : Surroundings) : Invocation → Outcome
  | .help => ⟨helpLines, .done⟩
  | .version =>
    Outcome.print .done [t.printer.print (codesOf ("aiohttp-stubgen version: " ++ programVersion))]
  | .properties s => match Context.load t around s with
    | .error e => Outcome.ofError t.printer e
    | .ok c => Outcome.print .done [t.printer.printTable c.propertyTable]
  | .layout s => match Context.load t around s with
    | .error e => Outcome.ofError t.printer e
    | .ok c =>
      Outcome.print .done (t.printer.printTable c.layout.folderTable ::
        t.printer.print (codesOf "[dim]Supporting files:[/dim]") ::
        c.layout.supportingFiles.map fun f =>
          t.printer.print (codesOf ("  - " ++ c.layout.shownPath f.path)))

end Invocation

def runArguments (t : Tools) (around : Surroundings) (args : List String) : Outcome :=
  match Invocation.read false args with
  | .error e => ⟨[], .misused e⟩
  | .ok invocation => invocation.run t around

end StubPlan
