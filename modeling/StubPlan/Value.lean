import StubPlan.Decimal.Shortest

/-! The values that a document holds. Mappings keep the order of their entries, and their keys may
be of any kind. -/
namespace StubPlan

/-- A point in time, by the precision it is written with. -/
inductive Moment where
  | date (year month day : Nat)
  | time (fields : String)
  | dateTime (fields : String)
  deriving DecidableEq, Repr

/-- The text of a moment in code: a call with its fields. -/
def Moment.code : Moment → String
  | .date y m d =>
    "datetime.date(" ++ toString y ++ ", " ++ toString m ++ ", " ++ toString d ++ ")"
  | .time fields => "datetime.time(" ++ fields ++ ")"
  | .dateTime fields => "datetime.datetime(" ++ fields ++ ")"

/-- A value of a document. Codes with single halves of surrogate pairs among them are no text, but a
document may hold them where it holds texts. A value that contains itself has no end. Of values of other kinds
nothing is known but whether they are empty. -/
inductive Value where
  | null
  | flag (b : Bool)
  | int (n : Int)
  | float (x : Binary64)
  | text (s : String)
  | halves (codes : List Nat)
  | bytes (bs : List UInt8)
  | moment (m : Moment)
  | list (items : List Value)
  | tuple (items : List Value)
  | set (items : List Value)
  | map (entries : List (Value × Value))
  | endless
  | other (empty : Bool)
  deriving Repr, Inhabited

namespace Value

/-- The text of a single value; lists, mappings and what is no text have none. -/
def scalarText? : Value → Option String
  | .null => some "None"
  | .flag b => some (if b then "True" else "False")
  | .int n => some (toString n)
  | .float x => some x.written
  | .text s => some s
  | .moment m => some m.code
  | .halves _ | .bytes _ => none
  | .list _ | .tuple _ | .set _ | .map _ | .endless | .other _ => none

/-- The text of a value in a path; a flag stands there as the number it is equal to. -/
def keyText : Value → String
  | .flag b => if b then "1" else "0"
  | v => v.scalarText?.getD ""

/-- Whether a value says nothing: null, false, zero, or empty. -/
def isEmpty : Value → Bool
  | .null => true
  | .flag b => !b
  | .int n => n == 0
  | .float x => x.isZero
  | .text s => s == ""
  | .halves _ => false
  | .moment _ => false
  | .bytes bs => bs.isEmpty
  | .list items | .tuple items | .set items => items.isEmpty
  | .map entries => entries.isEmpty
  | .endless => false
  | .other empty => empty

/-- The number that a value is equal to: true counts as one and false as zero. -/
def number? : Value → Option (Int ⊕ Binary64)
  | .flag b => some (.inl (if b then 1 else 0))
  | .int n => some (.inl n)
  | .float x => some (match x.toInt? with | some n => .inl n | none => .inr x)
  | _ => none

/-- Whether two values that are no tuples are the same key of a mapping. Numbers are the same when they
are equal, whatever their kinds, and so are two that are no numbers; a list or a mapping is no key. -/
def sameSingle (a b : Value) : Bool :=
  match a, b with
  | .null, .null => true
  | .text s, .text t => s == t
  | .halves s, .halves t => s == t
  | .bytes s, .bytes t => s == t
  | .moment m, .moment n => m == n
  | _, _ => match a.number?, b.number? with
    | some x, some y => x == y
    | _, _ => false

mutual
/-- Whether two values are the same key of a mapping; tuples are when their items are. -/
def sameKey : (a b : Value) → Bool
  | .tuple xs, .tuple ys => sameKeys xs ys
  | a, b => sameSingle a b
def sameKeys : (xs ys : List Value) → Bool
  | [], [] => true
  | x :: xs, y :: ys => sameKey x y && sameKeys xs ys
  | _, _ => false
end

/-- The entries with one more: the value of a key that is already there is replaced in its place. -/
def insertEntry (key value : Value) : List (Value × Value) → List (Value × Value)
  | [] => [(key, value)]
  | (k, v) :: rest =>
    if sameKey k key then (k, value) :: rest else (k, v) :: insertEntry key value rest

/-- A mapping made of entries in order; of equal keys the first stays and the last value wins. -/
def ofEntries (entries : List (Value × Value)) : Value :=
  .map (entries.foldl (fun done (k, v) => insertEntry k v done) [])

/-- A set made of values in order; of equal ones the first stays. -/
def ofItems (items : List Value) : Value :=
  .set ((items.foldl (fun done v => insertEntry v .null done) []).map (·.1))

/-- Whether a value can take in more items or entries, so that it is no key of a mapping. -/
def isOpen : Value → Bool
  | .list _ | .set _ | .map _ | .endless => true
  | _ => false

mutual
/-- Whether a value may be a key of a mapping; a tuple may when all its items may. -/
def isKey : Value → Bool
  | .list _ | .set _ | .map _ | .endless => false
  | .tuple items => allKeys items
  | _ => true
def allKeys : List Value → Bool
  | [] => true
  | v :: rest => v.isKey && allKeys rest
end

mutual
/-- Whether a value has no end, because something in it contains itself. -/
def isEndless : Value → Bool
  | .endless => true
  | .list items | .tuple items | .set items => anyEndless items
  | .map entries => anyEntryEndless entries
  | _ => false
def anyEndless : List Value → Bool
  | [] => false
  | v :: rest => v.isEndless || anyEndless rest
def anyEntryEndless : List (Value × Value) → Bool
  | [] => false
  | (_, v) :: rest => v.isEndless || anyEntryEndless rest
end

def get? (name : String) (entries : List (Value × Value)) : Option Value :=
  (entries.find? fun (k, _) => match k with | .text s => s = name | _ => false).map (·.2)

end Value
end StubPlan
