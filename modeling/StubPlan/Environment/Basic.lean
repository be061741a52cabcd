import StubPlan.Unicode.LetterCase

/-! The environment of a run: names with their values. -/
namespace StubPlan

abbrev Environment := List (String × String)

/-- A name without distinction of case. -/
def foldedName (name : String) : List Char := Unicode.lower name.toList

/-- Whether two names are the same, with or without distinction of case. -/
def sameName (caseSensitive : Bool) (a b : String) : Bool :=
  if caseSensitive then a = b else foldedName a = foldedName b

end StubPlan
