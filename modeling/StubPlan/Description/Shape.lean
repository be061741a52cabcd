import StubPlan.Description.Flag
import StubPlan.Name.SnakeCase
import StubPlan.Table

/-! Shapes of descriptors, and how a document is read and written by them. A field is named in snake
case or camel case; the camel case spelling wins where a record has both. -/
namespace StubPlan

mutual
/-- What a value has to look like. A text has a value of its own for when it is absent. A slot is
filled by every document, but may stand empty in a value made without one. -/
inductive Shape where
  | text (absent : String)
  | flag
  | optional (inner : Shape)
  | slot (inner : Shape)
  | many (item : Shape)
  | table (value : Shape)
  | record (fields : Fields)
/-- The fields of a record in order, each with its name and whether it must be there. -/
inductive Fields where
  | none
  | field (name : String) (required : Bool) (shape : Shape) (rest : Fields)
end

mutual
@[reducible] def Shape.Carrier : Shape → Type
  | .text _ => String
  | .flag => Bool
  | .optional inner => Option inner.Carrier
  | .slot inner => Option inner.Carrier
  | .many item => List item.Carrier
  | .table value => List (String × value.Carrier)
  | .record fields => fields.Carrier
@[reducible] def Fields.Carrier : Fields → Type
  | .none => Unit
  | .field _ _ shape rest => shape.Carrier × rest.Carrier
end

mutual
def Shape.absent : (s : Shape) → s.Carrier
  | .text absent => absent
  | .flag => false
  | .optional _ => Option.none
  | .slot _ => Option.none
  | .many _ => []
  | .table _ => []
  | .record fields => fields.absent
def Fields.absent : (fs : Fields) → fs.Carrier
  | .none => ()
  | .field _ _ shape rest => (shape.absent, rest.absent)
end

/-- How the names of fields are written. -/
inductive Spelling where
  | snake
  | camel
  deriving DecidableEq, Repr

/-- A snake case name with every underscore and letter after it joined into a capital. -/
def camelChars : List Char → List Char
  | '_' :: c :: rest => c.toUpper :: camelChars rest
  | c :: rest => c :: camelChars rest
  | [] => []

/-- The camel case spelling of a field's name. -/
def camelCase (name : String) : String := String.ofList (camelChars name.toList)

def Spelling.write (spelling : Spelling) (name : String) : String :=
  match spelling with
  | .snake => name
  | .camel => camelCase name

/-- The entry of a field, and the name under which it stands. -/
def findField (name : String) (entries : List (Value × Value)) : Option (String × Value) :=
  match Value.get? (camelCase name) entries with
  | some v => some (camelCase name, v)
  | none => (Value.get? name entries).map (name, ·)

/-- The text that a value is; bytes are the text that they encode. -/
def readText : Value → Checked String
  | .text s => .ok s
  | .bytes bs => Checked.textOfBytes bs
  | _ => Checked.fault .notText

mutual
def Shape.read : (s : Shape) → Value → Checked s.Carrier
  | .text _, v => readText v
  | .flag, v => readFlag v
  | .optional inner, v => match v with
    | .null => .ok Option.none
    | v => (inner.read v).map Option.some
  | .slot inner, v => (inner.read v).map Option.some
  | .many item, v => match v with
    | .list items | .tuple items | .set items =>
      Checked.all (items.zipIdx.map fun (v, i) => Checked.under (.item i) (item.read v))
    | _ => Checked.fault .notList
  | .table value, v => match v with
    | .map entries =>
      (Checked.all (entries.map fun (k, v) =>
        Checked.under (.key k.keyText)
          (Checked.both (Checked.under .keyItself (readText k)) (value.read v)))).map Table.ofEntries
    | _ => Checked.fault .notMapping
  | .record fields, v => match v with
    | .map entries => fields.read entries
    | _ => Checked.fault .notRecord
/-- The values that the entries of a mapping give for fields; other entries do not count. -/
def Fields.read : (fs : Fields) → List (Value × Value) → Checked fs.Carrier
  | .none, _ => .ok ()
  | .field name required shape rest, entries =>
    Checked.both
      (match findField name entries with
        | some (found, v) => Checked.under (.key found) (shape.read v)
        | Option.none =>
          if required then Checked.under (.key name) (Checked.fault .missing)
          else .ok shape.absent)
      (rest.read entries)
end

mutual
/-- The document of a value, every field written out. -/
def Shape.write (spelling : Spelling) : (s : Shape) → s.Carrier → Value
  | .text _, x => .text x
  | .flag, x => .flag x
  | .optional inner, x => match x with
    | Option.none => .null
    | some x => inner.write spelling x
  | .slot inner, x => match x with
    | Option.none => .null
    | some x => inner.write spelling x
  | .many item, xs => .list (xs.map (item.write spelling))
  | .table value, xs => .map (xs.map fun (name, x) => (.text name, value.write spelling x))
  | .record fields, x => .map (fields.write spelling x)
def Fields.write (spelling : Spelling) : (fs : Fields) → fs.Carrier → List (Value × Value)
  | .none, _ => []
  | .field name _ shape rest, x =>
    (.text (spelling.write name), shape.write spelling x.1) :: rest.write spelling x.2
end

end StubPlan
