/-! Tables: values under names, in the order in which the names first came up. -/
namespace StubPlan.Table

variable {α : Type}

/-- A table with one more entry; a name that is there already keeps its place and takes the new
value. -/
def put (entry : String × α) : List (String × α) → List (String × α)
  | [] => [entry]
  | e :: rest => if e.1 = entry.1 then entry :: rest else e :: put entry rest

/-- The table of entries in order. Of one name the last value counts. -/
def ofEntries (entries : List (String × α)) : List (String × α) :=
  entries.foldl (fun done entry => put entry done) []

end StubPlan.Table
