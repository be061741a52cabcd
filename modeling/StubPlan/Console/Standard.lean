import StubPlan.Console.Markup
import StubPlan.Console.Printer
import StubPlan.Console.Table

/-! The printer that the program runs with. It writes characters only, so halves of surrogate pairs
stop it before anything else does. -/
namespace StubPlan

def chars? : Codes → Option (List Char)
  | [] => some []
  | n :: rest => if n.isValidChar then (chars? rest).map (Char.ofNat n :: ·) else none

def Markup.Fault.error : Markup.Fault → PrintError
  | .unreadableStyle _ => .other "ValueError"
  | _ => .markup

namespace Table

/-- The texts of a table. Codes that stand for no characters are left out. -/
def texts (t : Table) : List Char × (List Char × List Char) × List (List Char × List Char) :=
  let text (codes : Codes) : List Char := (chars? codes).getD []
  (text t.title, t.header.map text text, t.rows.map (Prod.map text text))

end Table

namespace Printer

def ofChars (codes : Codes) : Except PrintError (List Char) :=
  match chars? codes with
  | some s => .ok s
  | none => .error .unencodable

def standard (width : Nat) : Printer where
  shown codes := do
    let shown ← (Markup.shown (← ofChars codes)).mapError Markup.Fault.error
    return shown.map Char.toNat
  lines codes := (Wrap.lines .fold width ((chars? codes).getD [])).map (·.map Char.toNat)
  draw t := (Table.drawn width t.texts.1 t.texts.2.1 t.texts.2.2).map (·.map Char.toNat)
  encode codes := (ofChars codes).map String.ofList
  escape s := String.ofList (Markup.escape s.toList)

end Printer
end StubPlan
