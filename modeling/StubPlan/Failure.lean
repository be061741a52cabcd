import StubPlan.Description.Fault
import StubPlan.Text.Blank

/-! What a user is told when a configuration or a description cannot be used. -/
namespace StubPlan

/-- A configuration that cannot be used: what is wrong, the file, and the option at fault. -/
structure ConfigurationFailure where
  reason : String
  path : Option String
  field : Option String
  deriving DecidableEq, Repr

/-- The text that reports a configuration; an empty path or option is not mentioned. -/
def ConfigurationFailure.message (f : ConfigurationFailure) : String :=
  let place := match f.path with
    | none | some "" => ""
    | some path => " in '" ++ path ++ "'"
  let option := match f.field with
    | none | some "" => ""
    | some name => " (field: " ++ name ++ ")"
  f.reason ++ place ++ option

/-- The text that reports a description which cannot be loaded, with the text of the cause. -/
def loadFailureMessage (source : String) (cause : Option String) : String :=
  "Failed to load description from '" ++ source ++ "'" ++
    match cause with
    | some text => ": " ++ text
    | none => ""

end StubPlan
