import StubPlan.Text.Replace

/-! The arguments of the command line: a command, then options in any order. -/
namespace StubPlan

/-- Where configuration and description are, as far as the command line says it. -/
structure Selection where
  config : Option String
  description : Option String
  deriving DecidableEq, Repr

inductive Invocation where
  | properties (s : Selection)
  | layout (s : Selection)
  | version
  | help
  deriving DecidableEq, Repr

/-- Why arguments ask for nothing. -/
inductive UsageError where
  | noCommand
  | unknownCommand (name : String)
  | unknownOption (name : String)
  | valueMissing (name : String)
  | unwantedValue (name : String)
  | unexpected (argument : String)
  deriving DecidableEq, Repr

def UsageError.message : UsageError → String
  | noCommand => "Missing command."
  | unknownCommand name => "No such command '" ++ name ++ "'."
  | unknownOption name => "No such option: " ++ name
  | valueMissing name => "Option '" ++ name ++ "' requires an argument."
  | unwantedValue name => "Option '" ++ name ++ "' does not take a value."
  | unexpected argument => "Got unexpected extra argument (" ++ argument ++ ")"

inductive CommandOption where
  | config
  | description
  | help
  deriving DecidableEq, Repr

namespace CommandOption

def names : CommandOption → String × Option Char
  | config => ("--config", some 'c')
  | description => ("--description", some 'd')
  | help => ("--help", none)

def ofLong? (allowed : List CommandOption) (name : List Char) : Option CommandOption :=
  allowed.find? fun o => o.names.1.toList = name

def ofShort? (allowed : List CommandOption) (c : Char) : Option CommandOption :=
  allowed.find? fun o => o.names.2 = some c

end CommandOption

/-- What an argument is: an option with the value that is written in it, if any, the mark after which
no option follows, or a word. -/
inductive Argument where
  | option (o : CommandOption) (value : Option String)
  | mark
  | word
  deriving DecidableEq, Repr

/-- An argument by the options that are allowed. A value stands after an equals sign behind a long
name, and directly behind a short one. -/
def Argument.read (allowed : List CommandOption) (arg : String) : Except UsageError Argument :=
  let long (s : List Char) : Option (CommandOption × Option String) :=
    match Chars.cutAt? '=' s with
    | some (name, value) =>
      (CommandOption.ofLong? allowed name).map (·, some (String.ofList value))
    | none => (CommandOption.ofLong? allowed s).map (·, none)
  match arg.toList with
  | ['-', '-'] => .ok .mark
  | '-' :: '-' :: rest => match long ('-' :: '-' :: rest) with
    | some (o, value) => .ok (.option o value)
    | none => .error (.unknownOption arg)
  | '-' :: c :: rest => match CommandOption.ofShort? allowed c with
    | some o => .ok (.option o (if rest = [] then none else some (String.ofList rest)))
    | none => .error (.unknownOption (String.ofList ['-', c]))
  | _ => .ok .word

/-- What the arguments of a command give: values of options, of which the last one counts, whether
help is asked for, and the words. -/
structure Given where
  selection : Selection
  help : Bool
  words : List String

def Given.set (g : Given) (o : CommandOption) (value : String) : Given :=
  match o with
  | .config => { g with selection := { g.selection with config := some value } }
  | .description => { g with selection := { g.selection with description := some value } }
  | .help => g

def readArguments (allowed : List CommandOption) (g : Given) :
    List String → Except UsageError Given
  | [] => .ok g
  | arg :: rest =>
    match Argument.read allowed arg with
    | .error e => .error e
    | .ok .mark => .ok { g with words := g.words ++ rest }
    | .ok .word => readArguments allowed { g with words := g.words ++ [arg] } rest
    | .ok (.option .help none) => readArguments allowed { g with help := true } rest
    | .ok (.option .help (some _)) => .error (.unwantedValue arg)
    | .ok (.option o (some value)) => readArguments allowed (g.set o value) rest
    | .ok (.option o none) => match rest with
      | value :: rest => readArguments allowed (g.set o value) rest
      | [] => .error (.valueMissing arg)

/-- The arguments of one command. Help comes before a complaint about words. -/
def readCommand (allowed : List CommandOption) (make : Selection → Invocation)
    (args : List String) : Except UsageError Invocation := do
  let g ← readArguments allowed ⟨⟨none, none⟩, false, []⟩ args
  match g.help, g.words with
  | true, _ => return .help
  | false, [] => return make g.selection
  | false, word :: _ => throw (.unexpected word)

def sourceOptions : List CommandOption := [.config, .description, .help]

def Invocation.ofCommand (name : String) (args : List String) : Except UsageError Invocation :=
  match name with
  | "properties" => readCommand sourceOptions .properties args
  | "layout" => readCommand sourceOptions .layout args
  | "version" => readCommand [.help] (fun _ => .version) args
  | _ => .error (.unknownCommand name)

/-- What arguments ask for. Before the command, help is the only option; once it is asked for, the
command does not matter. -/
def Invocation.read (helped : Bool) : List String → Except UsageError Invocation
  | [] => if helped then .ok .help else .error .noCommand
  | arg :: rest =>
    match Argument.read [.help] arg with
    | .error e => .error e
    | .ok (.option _ none) => Invocation.read true rest
    | .ok (.option _ (some _)) => .error (.unwantedValue arg)
    | .ok .mark => match rest with
      | [] => if helped then .ok .help else .error .noCommand
      | name :: args => if helped then .ok .help else Invocation.ofCommand name args
    | .ok .word => if helped then .ok .help else Invocation.ofCommand arg rest

end StubPlan
