import StubPlan.Options.Basic

/-! Options after one of them has been assigned by its name. A value is taken as it stands, and names
are matched as they are written. -/
namespace StubPlan

/-- Why nothing is assigned: no option has the name, it names what is only told of the options, or it
names what the options consist of and no value fits. -/
inductive AssignmentError where
  | unknownName
  | readOnly
  | unfit
  deriving DecidableEq, Repr

namespace Options

def toldNames : List String := ["model_fields_set", "model_extra", "__fields_set__", "__weakref__"]

/-- The name of what kind of thing the options are; no value stands for such a kind. -/
def kindName : String := "__class__"

/-- The name of all options together, which take a mapping. -/
def entriesName : String := "__dict__"

/-- The name of a value without parts; options have none. -/
def rootName : String := "__root__"

/-- Whether a name is a private one, under which a caller may leave a value of its own. -/
def isPrivate (name : String) : Bool := name.toList.head? = some '_' && name ≠ rootName

/-- The options after an assignment. What is left under a private name changes none of them. -/
def assign (o : Options) (name : String) (v : Value) : Except AssignmentError Options :=
  match OptionField.ofName? name with
  | some f => .ok (o.set f v)
  | none =>
    if toldNames.contains name then .error .readOnly
    else if name = kindName ∨ (name = entriesName ∧ !(v matches .map _)) then .error .unfit
    else if isPrivate name then .ok o
    else .error .unknownName

end Options
end StubPlan
