import StubPlan.Value

/-! Printing on a console that reads markup. What markup shows as, how lines are broken and tables
are drawn, and which texts can be written, is up to a printer. -/
namespace StubPlan

/-- A text as the codes of its characters, among which halves of surrogate pairs may be. -/
abbrev Codes := List Nat

def codesOf (s : String) : Codes := s.toList.map Char.toNat

/-- The codes that show of a value; what has no text shows nothing. -/
def Value.codes : Value → Codes
  | .halves codes => codes
  | v => codesOf (v.scalarText?.getD "")

/-- A table of two columns: its title, what stands above each column, and its rows. -/
structure Table where
  title : Codes
  header : Codes × Codes
  rows : List (Codes × Codes)

/-- Why nothing is printed: markup that cannot be read, codes that cannot be written, or another error,
by its name. -/
inductive PrintError where
  | markup
  | unencodable
  | other (name : String)
  deriving DecidableEq, Repr

/-- A console: what shows of a text with markup, the lines of a text and of a table of which all shows,
the codes of a line as they are written, and a text made safe from being read as markup. -/
structure Printer where
  shown : Codes → Except PrintError Codes
  lines : Codes → List Codes
  draw : Table → List Codes
  encode : Codes → Except PrintError String
  escape : String → String

namespace Printer

variable (p : Printer)

def print (markup : Codes) : Except PrintError (List String) := do
  (p.lines (← p.shown markup)).mapM p.encode

def shownRow (row : Codes × Codes) : Except PrintError (Codes × Codes) := do
  return (← p.shown row.1, ← p.shown row.2)

def shownTable (t : Table) : Except PrintError Table := do
  let title ← p.shown t.title
  let header ← p.shownRow t.header
  return ⟨title, header, ← t.rows.mapM p.shownRow⟩

def printTable (t : Table) : Except PrintError (List String) := do
  (p.draw (← p.shownTable t)).mapM p.encode

end Printer
end StubPlan
