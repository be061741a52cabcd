import StubPlan.Description.Flag
import StubPlan.Environment.Assignments
import StubPlan.Numeral
import StubPlan.Options.Basic
import StubPlan.Options.Directive
import StubPlan.Text.Blank
import StubPlan.Workspace

/-! The value of each option: what the input says, else the environment, else the default. Names are
matched in any case of letters, and a blank text counts as the default. -/
namespace StubPlan

namespace OptionField

/-- A number where a text is asked for counts as its text, a blank text as the default; other texts
lose the blanks at their ends. -/
def normalize (f : OptionField) (v : Value) : Value :=
  match v with
  | .text s => if Text.isBlank s then f.default else .text (Text.trim s)
  | .halves codes => .halves (Chars.trimCodes codes)
  | .int _ | .float _ => if f.kind = .flag then v else .text (v.scalarText?.getD "")
  | v => v

def isTooLong : Value → Bool
  | .int n => n.natAbs ≥ tenTo maxNumeralDigits
  | _ => false

def read (f : OptionField) (given : Value) : Checked Value :=
  if f.kind ≠ .flag ∧ isTooLong given then Checked.fault .unusable
  else match f.kind, f.normalize given with
    | .flag, v => (readFlag v).map Value.flag
    | .optionalText, .null => .ok .null
    | _, .text s => .ok (.text s)
    | _, .halves codes => .ok (.halves codes)
    | _, .bytes bs => (Checked.textOfBytes bs).map Value.text
    | _, _ => Checked.fault .notText

end OptionField

abbrev OptionSource := OptionField → Option Value

namespace OptionSource

/-- What a document gives: the value under an option's name, as it is spelled if the document has that
spelling, else in any case of letters. -/
def ofInput (input : List (String × Value)) : OptionSource := fun f =>
  ((input.find? (·.1 = f.name)).or
    (input.find? fun (name, _) => foldedName name = f.name.toList)).map (·.2)

/-- What variables give under the names of options with a prefix. Of one name the last counts, and
one of them without a value gives none. -/
def ofVariables (d : Directives) (front : String) (settings : List (String × Option String)) :
    OptionSource := fun f => do
  let counted := settings.filter fun (_, v) => !(d.ignoreEmpty && v = some "")
  let (_, v) ← counted.reverse.find? fun (name, _) =>
    sameName d.caseSensitive name (front ++ f.name)
  let s ← v
  some (if d.nullText = some s then .null else .text s)

/-- What arguments give: an option's name after two hyphens, and its value after an equals sign or in
the next argument. The word for null means nothing. -/
def ofArguments : List String → OptionSource
  | [], _ => none
  | word :: rest, f =>
    let value := fun (s : String) => if s = "null" then Value.null else .text s
    let found := match Text.dropFront? ("--" ++ f.name ++ "=") word, rest with
      | some s, _ => some (value s)
      | none, next :: _ => if word = "--" ++ f.name then some (value next) else none
      | none, [] => none
    (ofArguments rest f).or found

def ofValues (values : List (OptionField × Value)) : OptionSource := fun f =>
  (values.find? (·.1 = f)).map (·.2)

end OptionSource

/-- What surrounds a run: its environment and its files. -/
structure Surroundings where
  env : Environment
  workspace : Workspace

namespace Surroundings

/-- The assignments in files, those of a later file counting more. A path without a file gives none. -/
def assignments (s : Surroundings) (paths : List String) :
    Except OptionsError (List Assignments.Assignment) :=
  paths.foldlM (fun done path => match s.workspace.find path with
    | .stored (.file bytes) => match fileText bytes with
      | .ok text => .ok ((Assignments.read s.env text).foldl (fun done a => Table.put a done) done)
      | .error _ => .error .notFollowed
    | _ => .ok done) []

def valueIn? (s : Surroundings) (caseSensitive : Bool) (folder name : String) :
    Except OptionsError (Option Value) :=
  match (s.workspace.namesIn folder).find? (sameName caseSensitive · name) with
  | none => .ok none
  | some found => match s.workspace.find (folder ++ "/" ++ found) with
    | .stored (.file bytes) => match fileText bytes with
      | .ok text => .ok (some (.text (String.ofList (Chars.trim text))))
      | .error _ => .error .notFollowed
    | _ => .ok none

/-- What the files in folders give, those in a later folder counting more. What is no folder cannot
be looked into, unless nothing is there. -/
def folderValues (s : Surroundings) (d : Directives) (front : String) :
    Except OptionsError (List (OptionField × Value)) := do
  let folders := (← d.valueFolders).filter fun path => s.workspace.find path ≠ .nothing
  if folders.any fun path => s.workspace.find path ≠ .stored .directory then throw .notFollowed
  let found ← OptionField.all.mapM fun f => do
    let values ← folders.reverse.mapM fun folder =>
      s.valueIn? d.caseSensitive folder (front ++ f.name)
    return (values.findSome? id).map (f, ·)
  return found.filterMap id

end Surroundings

namespace OptionField

/-- The value of an option: what the first source says that gives one, else the default. -/
def resolve (f : OptionField) (sources : List OptionSource) : Checked Value :=
  match sources.findSome? (· f) with
  | some given => Checked.under (.key f.name) (f.read given)
  | none => .ok f.default

end OptionField

namespace Options

def unknownNames (input : List (String × Value)) : List String :=
  (input.map (·.1)).filter fun name => OptionField.all.all fun f => foldedName name ≠ f.name.toList

/-- The names that assignments give a value to and that no option has, with a prefix before it. The
names of the options themselves do not count when there is a prefix. -/
def strayNames (d : Directives) (front : String) (assigned : List Assignments.Assignment) :
    List String :=
  let named := (assigned.filter fun (_, v) => (v.getD "") ≠ "").map fun (name, _) =>
    if d.caseSensitive then name else String.ofList (foldedName name)
  named.filter fun name => OptionField.all.all fun f =>
    !sameName d.caseSensitive name (front ++ f.name) && (front = "" || name ≠ f.name)

/-- All faults: those of values in the order of the options, then names that no option has. -/
def faults (sources : List OptionSource) (unknown : List String) : List Fault :=
  (OptionField.all.flatMap fun f => match f.resolve sources with
    | .ok _ => []
    | .error faults => faults) ++ unknown.eraseDups.map fun name => ⟨[.key name], .unknownField⟩

/-- The options that sources give, when no names are unknown. -/
def ofSources (sources : List OptionSource) (unknown : List String) : Checked Options :=
  match faults sources unknown with
  | [] => .ok ⟨fun f => match f.resolve sources with
      | .ok v => v
      | .error _ => f.default⟩
  | found => .error found

/-- The name that a key is. Codes with halves of surrogate pairs are a name too, but none of an option or
a directive; null characters stand for the halves. -/
def keyName? : Value → Option String
  | .text name => some name
  | .halves codes => some (String.ofList (codes.map Char.ofNat))
  | _ => none

def namedEntries? (entries : List (Value × Value)) : Option (List (String × Value)) :=
  entries.mapM fun (k, v) => (keyName? k).map (·, v)

/-- The options of an input whose directives say what else is looked at. Arguments count most, then
the input, the environment, files of assignments and folders. -/
def ofInput (input : List (String × Value)) (s : Surroundings) : Except OptionsError Options := do
  let d ← Directives.read input
  let assigned ← s.assignments d.assignmentFiles
  let front ← d.envPrefix
  let inFolders ← s.folderValues d front
  let input := Directives.remaining input
  let settings := s.env.map fun (name, v) => (name, some v)
  let sources :=
    [OptionSource.ofArguments d.arguments, .ofInput input, .ofVariables d front settings,
     .ofVariables d front assigned, .ofValues inFolders]
  (ofSources sources (strayNames d front assigned ++ unknownNames input)).mapError .faults

/-- The options when a directive names all sources: none of them can be followed, so that there must
be none in the first of two parts. -/
def ofNamedSources : Value → Except OptionsError Options
  | .list [sources, _] | .map [(sources, _), _] =>
    if sources.isEmpty then (ofSources [] []).mapError .faults else .error .unfitDirective
  | .text s => if s.length = 2 then .error .unfitDirective else .error .notFollowed
  | .list _ | .map _ | .halves _ => .error .notFollowed
  | _ => .error .unfitDirective

def read (document : Value) (s : Surroundings) : Except OptionsError Options :=
  match document with
  | .map entries => match namedEntries? entries with
    | some input => match Directive.find? input Directive.sources with
      | some sources => ofNamedSources sources
      | none => ofInput input s
    | none => .error .keyNotText
  | _ => .error (.faults [⟨[], .notRecord⟩])

end Options
end StubPlan
