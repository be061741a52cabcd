import StubPlan.Description.Fault
import StubPlan.Environment.Basic
import StubPlan.Value

/-! Directives: entries of a document that are no options themselves but say where options are looked
for besides. Their names begin with an underscore and are matched as they are written. -/
namespace StubPlan

/-- Why a document gives no options: it is no mapping with text keys, a directive has a value of a kind
that it has no use for, values are faulty, or looking them up fails in another way, which has a name. -/
inductive OptionsError where
  | keyNotText
  | unfitDirective
  | faults (faults : List Fault)
  | other (name : String)
  deriving DecidableEq, Repr

def OptionsError.notFollowed : OptionsError := .faults [⟨[], .unusable⟩]

/-- The beginning of the names of environment variables that set options, unless a document gives
another. -/
def environmentPrefix : String := "AIOHTTP_STUBGEN_"

namespace Directive

def envPrefix : String := "_env_prefix"

/-- Whether the case of letters counts in the names of variables. -/
def caseSensitive : String := "_case_sensitive"

def ignoreEmpty : String := "_env_ignore_empty"

/-- The value of a variable that stands for nothing. -/
def nullText : String := "_env_parse_none_str"

def maxSplits : String := "_env_nested_max_split"

def assignmentFiles : String := "_env_file"

def valueFolders : String := "_secrets_dir"

def arguments : String := "_cli_parse_args"

/-- All that is to be read, in place of the document. -/
def sources : String := "_build_sources"

def idle : List String :=
  ["_nested_model_default_partial_update", "_env_prefix_target", "_env_file_encoding",
   "_env_nested_delimiter", "_env_parse_enums", "_cli_prog_name", "_cli_settings_source",
   "_cli_parse_none_str", "_cli_hide_none_type", "_cli_avoid_json", "_cli_enforce_required",
   "_cli_use_class_docs_for_groups", "_cli_exit_on_error", "_cli_prefix", "_cli_flag_prefix_char",
   "_cli_implicit_flags", "_cli_ignore_unknown_args", "_cli_kebab_case", "_cli_shortcuts"]

def all : List String :=
  [envPrefix, caseSensitive, ignoreEmpty, nullText, maxSplits, assignmentFiles, valueFolders,
   arguments, sources] ++ idle

/-- The value of a directive; null is the same as none. -/
def find? (input : List (String × Value)) (name : String) : Option Value :=
  ((input.find? (·.1 = name)).map (·.2)).filter fun v => !(v matches .null)

def isOn (input : List (String × Value)) (name : String) : Bool :=
  (find? input name).any fun v => !v.isEmpty

def paths : Option Value → Except OptionsError (List String)
  | none => .ok []
  | some (.text s) => .ok [s]
  | some (.list items) => items.mapM pathOf
  | some (.map entries) => entries.mapM fun (k, _) => pathOf k
  | some _ => .error .unfitDirective
where
  /-- The path that a value writes. -/
  pathOf : Value → Except OptionsError String
    | .text s => .ok s
    | _ => .error .unfitDirective

end Directive

structure Directives where
  envPrefix : Except OptionsError String
  caseSensitive : Bool
  ignoreEmpty : Bool
  nullText : Option String
  assignmentFiles : List String
  valueFolders : Except OptionsError (List String)
  arguments : List String

namespace Directives
open Directive (find? isOn paths)

/-- The beginning of the names of variables. Values that have a length but are no text are found
unfit only when a name is looked up. -/
def readPrefix : Option Value → Except OptionsError (Except OptionsError String)
  | none => .ok (.ok environmentPrefix)
  | some (.text s) => .ok (.ok s)
  | some (.list _) | some (.map _) | some (.halves _) => .ok (.error .notFollowed)
  | some _ => .error .unfitDirective

/-- The arguments that a document gives; without a list of texts there are none. -/
def readArguments : Option Value → Except OptionsError (List String)
  | none => .ok []
  | some (.list items) => items.mapM fun
    | .text s => .ok s
    | _ => .error .unfitDirective
  | some (.flag _) => .ok []
  | some v => if v.number? = some (.inl 0) then .ok [] else .error .notFollowed

def read (input : List (String × Value)) : Except OptionsError Directives := do
  match find? input Directive.maxSplits with
  | some (.text _) | some (.list _) | some (.map _) | some (.halves _) =>
    if isOn input Directive.maxSplits then throw .unfitDirective
  | _ => pure ()
  let envPrefix ← readPrefix (find? input Directive.envPrefix)
  let assignmentFiles ← paths (find? input Directive.assignmentFiles)
  return {
    envPrefix
    caseSensitive := isOn input Directive.caseSensitive
    ignoreEmpty := isOn input Directive.ignoreEmpty
    nullText := match find? input Directive.nullText with | some (.text s) => some s | _ => none
    assignmentFiles
    valueFolders := paths (find? input Directive.valueFolders)
    arguments := ← readArguments (find? input Directive.arguments) }

def remaining (input : List (String × Value)) : List (String × Value) :=
  input.filter fun e => !Directive.all.contains e.1

end Directives
end StubPlan
