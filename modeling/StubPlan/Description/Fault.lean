import StubPlan.Text.Replace
import StubPlan.Text.Utf8

/-! Faults of a document: what is wrong and where. A check goes on after a fault, so that it reports
all of them, in the order in which the document is read. -/
namespace StubPlan

/-- A step down into a document: to the value under a key, to an item, or to a key itself. -/
inductive Step where
  | key (name : String)
  | item (index : Nat)
  | keyItself
  deriving DecidableEq, Repr

/-- What is wrong with a value: it is not there, is of another kind than asked for, is bytes that encode
no text, does not write a flag, has no place in a record, or cannot be used at all. -/
inductive FaultKind where
  | missing
  | notText
  | notUnicode
  | notFlag
  | unreadableFlag
  | notList
  | notMapping
  | notRecord
  | unknownField
  | unusable
  deriving DecidableEq, Repr

/-- One thing that is wrong, at the end of a path into the document. -/
structure Fault where
  path : List Step
  kind : FaultKind
  deriving DecidableEq, Repr

def Step.text : Step → String
  | .key name => name
  | .item index => toString index
  | .keyItself => "[key]"

def Fault.location (f : Fault) : String := Text.join "." (f.path.map Step.text)

/-- A value, or all that is wrong with what should have given it. -/
abbrev Checked (α : Type) := Except (List Fault) α

namespace Checked

/-- The same outcome seen from one step further up. -/
def under {α : Type} (step : Step) : Checked α → Checked α
  | .ok x => .ok x
  | .error faults => .error (faults.map fun f => { f with path := step :: f.path })

/-- Both values, or the faults of both sides in order. -/
def both {α β : Type} : Checked α → Checked β → Checked (α × β)
  | .ok x, .ok y => .ok (x, y)
  | .ok _, .error faults => .error faults
  | .error faults, .ok _ => .error faults
  | .error first, .error second => .error (first ++ second)

def all {α : Type} : List (Checked α) → Checked (List α)
  | [] => .ok []
  | x :: rest => (both x (all rest)).map fun (y, ys) => y :: ys

def fault {α : Type} (kind : FaultKind) : Checked α := .error [⟨[], kind⟩]

def textOfBytes (bs : List UInt8) : Checked String :=
  match Utf8.decode bs with
  | .ok s => .ok (String.ofList s)
  | .error _ => fault .notUnicode

end Checked
end StubPlan
