import StubPlan.Toml.Scalar

/-! The value of a TOML document. Statements are read one by one into a tree of tables; a table that
has been declared, or written in braces, is closed to later statements. -/
namespace StubPlan.Toml

abbrev Key := List String

abbrev Entries := List (Value × Value)

/-- A character of a key without quotes. -/
def isBareKeyChar (c : Char) : Bool :=
  isDigit c || ('A' ≤ c && c ≤ 'Z') || ('a' ≤ c && c ≤ 'z') || c = '-' || c = '_'

def keyPart (s : List Char) : Except ParserFault (String × List Char) :=
  match s with
  | c :: rest =>
    if isBareKeyChar c then .ok (String.ofList (s.takeWhile isBareKeyChar), s.dropWhile isBareKeyChar)
    else if c = '\'' then (literalString rest).map fun (t, r) => (String.ofList t, r)
    else if c = '"' then
      (basicString false rest (rest.length + 1)).map fun (t, r) => (String.ofList t, r)
    else .error .malformed
  | [] => .error .malformed

/-- A key, and the text after it and the spaces that follow it. -/
def key (s : List Char) : Nat → Except ParserFault (Key × List Char)
  | 0 => .error .malformed
  | fuel + 1 => do
    let (part, rest) ← keyPart s
    match skipSpace rest with
    | '.' :: rest =>
      let (parts, rest) ← key (skipSpace rest) fuel
      return (part :: parts, rest)
    | rest => return ([part], rest)

/-- The text after a comment, which goes up to the end of its line. -/
def skipComment (s : List Char) : Except ParserFault (List Char) :=
  match s with
  | '#' :: rest =>
    let comment := rest.takeWhile (· ≠ '\n')
    if comment.any isControl then .error .malformed else .ok (rest.drop comment.length)
  | s => .ok s

/-- The text after blanks, line breaks and comments. -/
def skipArraySpace (s : List Char) : Nat → Except ParserFault (List Char)
  | 0 => .ok s
  | fuel + 1 => do
    let rest := s.dropWhile fun c => isSpace c || c = '\n'
    match rest with
    | '#' :: _ => skipArraySpace (← skipComment rest) fuel
    | rest => return rest

/-- The entries with those under a path changed by `f`. Tables on the way are made where there are
none; of a list of tables the last one is meant, if `lists` says so. -/
def changeAt (lists : Bool) (f : Entries → Option Entries) : Key → Entries → Option Entries
  | [], entries => f entries
  | k :: rest, entries => do
    let inner ← match Value.get? k entries with
      | none => (changeAt lists f rest []).map Value.map
      | some (.map inner) => (changeAt lists f rest inner).map Value.map
      | some (.list items) => match lists, items.getLast? with
        | true, some (.map last) =>
          (changeAt lists f rest last).map fun last => .list (items.dropLast ++ [.map last])
        | _, _ => none
      | some _ => none
    some (Value.insertEntry (.text k) inner entries)

def addEntry (k : String) (v : Value) (entries : Entries) : Option Entries :=
  if (Value.get? k entries).isSome then none else some (entries ++ [(.text k, v)])

/-- One more table in the list of tables under a key. -/
def addTable (k : String) (entries : Entries) : Option Entries :=
  match Value.get? k entries with
  | none => some (entries ++ [(.text k, .list [.map []])])
  | some (.list items) => some (Value.insertEntry (.text k) (.list (items ++ [.map []])) entries)
  | some _ => none

def isNested : Value → Bool
  | .list _ => true
  | .map _ => true
  | _ => false

def isBelow (keys : List Key) (k : Key) : Bool := keys.any (·.isPrefixOf k)

/-- What a step of the tree gives, or that the text is no TOML. -/
def orMalformed {α : Type} (x : Option α) : Except ParserFault α :=
  match x with
  | some a => .ok a
  | none => .error .malformed

/-- How many more steps down to a value may be open at once. An array takes two, a table in braces
three. -/
structure Steps where
  left : Nat

/-- The steps that are left when some are taken; there must be enough. -/
def Steps.take (steps : Steps) (taken : Nat) : Except ParserFault Steps :=
  if steps.left < taken then .error (.raised .tooDeep) else .ok ⟨steps.left - taken⟩

mutual
def value (steps : Steps) (s : List Char) : Nat → Except ParserFault (Value × List Char)
  | 0 => .error .malformed
  | fuel + 1 =>
    match string? s with
    | some r => r.map fun (t, rest) => (.text (String.ofList t), rest)
    | none => match s with
      | 't' :: 'r' :: 'u' :: 'e' :: rest => .ok (.flag true, rest)
      | 'f' :: 'a' :: 'l' :: 's' :: 'e' :: rest => .ok (.flag false, rest)
      | '[' :: rest => do
        let (items, rest) ←
          arrayItems (← steps.take 2) (← skipArraySpace rest rest.length) fuel
        return (.list items, rest)
      | '\x7b' :: rest =>
        match skipSpace rest with
        | '\x7d' :: rest => .ok (.map [], rest)
        | rest => do
          let (entries, rest) ← inlineEntries (← steps.take 3) [] [] rest fuel
          return (.map entries, rest)
      | s => match (date? s).or ((localTime? s).map Except.ok) |>.or (number? s) with
        | some r => r
        | none => match specialFloat? s with
          | some r => .ok r
          | none => .error .malformed
/-- The items of an array up to its closing bracket; a comma may follow the last one. -/
def arrayItems (steps : Steps) (s : List Char) : Nat → Except ParserFault (List Value × List Char)
  | 0 => .error .malformed
  | fuel + 1 =>
    match s with
    | ']' :: rest => .ok ([], rest)
    | s => do
      let (v, rest) ← value steps s fuel
      match ← skipArraySpace rest rest.length with
      | ',' :: rest =>
        let (more, rest) ← arrayItems steps (← skipArraySpace rest rest.length) fuel
        return (v :: more, rest)
      | ']' :: rest => return ([v], rest)
      | _ => throw .malformed
/-- The entries of a table in braces after those already read. Values with entries or items of their
own are closed to later keys. -/
def inlineEntries (steps : Steps) (closed : List Key) (done : Entries) (s : List Char) :
    Nat → Except ParserFault (Entries × List Char)
  | 0 => .error .malformed
  | fuel + 1 => do
    let (k, v, rest) ← pair steps s fuel
    if isBelow closed k then throw .malformed
    let done ← orMalformed
      (changeAt false (addEntry (k.getLast?.getD "") v) k.dropLast done)
    match skipSpace rest with
    | '\x7d' :: rest => return (done, rest)
    | ',' :: rest =>
      inlineEntries steps (if isNested v then k :: closed else closed) done (skipSpace rest) fuel
    | _ => throw .malformed
/-- A key, an equals sign and a value, and the text after them. -/
def pair (steps : Steps) (s : List Char) : Nat → Except ParserFault (Key × Value × List Char)
  | 0 => .error .malformed
  | fuel + 1 => do
    let (k, rest) ← key s (s.length + 1)
    match rest with
    | '=' :: rest =>
      let (v, rest) ← value steps (skipSpace rest) fuel
      return (k, v, rest)
    | _ => throw .malformed
end

/-- What has been read: the tree, the table that statements now go to, and the keys that are closed.
A declared table cannot be declared again; nothing may be added below a frozen one. Tables that
dotted keys have made become declared when the next table begins. -/
structure Document where
  entries : Entries
  header : Key
  declared : List Key
  frozen : List Key
  pending : List Key

namespace Document

def empty : Document := ⟨[], [], [], [], []⟩

/-- The tables that dotted keys have made become declared. -/
def settle (d : Document) : Document :=
  { d with declared := d.pending ++ d.declared, pending := [] }

def openTable (d : Document) (k : Key) : Except ParserFault Document := do
  if d.declared.contains k || isBelow d.frozen k then throw .malformed
  let entries ← orMalformed (changeAt true some k d.entries)
  return { d with entries, header := k, declared := k :: d.declared }

def openListedTable (d : Document) (k : Key) : Except ParserFault Document := do
  if isBelow d.frozen k then throw .malformed
  let entries ← orMalformed (changeAt true (addTable (k.getLast?.getD "")) k.dropLast d.entries)
  let outside := fun (other : Key) => !k.isPrefixOf other
  return { d with
    entries
    header := k
    declared := k :: d.declared.filter outside
    frozen := d.frozen.filter outside }

/-- A value is put under a key of the present table. -/
def assign (d : Document) (k : Key) (v : Value) : Except ParserFault Document := do
  let made := (List.range (k.length - 1)).map fun i => d.header ++ k.take (i + 1)
  if made.any d.declared.contains then throw .malformed
  let parent := d.header ++ k.dropLast
  if isBelow d.frozen parent then throw .malformed
  let entries ← orMalformed (changeAt true (addEntry (k.getLast?.getD "") v) parent d.entries)
  return { d with
    entries
    pending := made ++ d.pending
    frozen := if isNested v then (d.header ++ k) :: d.frozen else d.frozen }

def statement (steps : Steps) (d : Document) (s : List Char) : Except ParserFault (Document × List Char) :=
  match s with
  | [] => .ok (d, [])
  | '\n' :: _ => .ok (d, s)
  | '#' :: _ => .ok (d, s)
  | '[' :: '[' :: rest => do
    let rest := skipSpace rest
    let (k, rest) ← key rest (rest.length + 1)
    let d ← d.settle.openListedTable k
    match rest with
    | ']' :: ']' :: rest => return (d, rest)
    | _ => throw .malformed
  | '[' :: rest => do
    let rest := skipSpace rest
    let (k, rest) ← key rest (rest.length + 1)
    let d ← d.settle.openTable k
    match rest with
    | ']' :: rest => return (d, rest)
    | _ => throw .malformed
  | s => do
    let (k, v, rest) ← pair steps s (2 * s.length + 2)
    return (← d.assign k v, rest)

/-- All statements of a text, one a line. -/
def lines (steps : Steps) (d : Document) (s : List Char) : Nat → Except ParserFault Document
  | 0 => .ok d
  | fuel + 1 => do
    let (d, rest) ← d.statement steps (skipSpace s)
    match ← skipComment (skipSpace rest) with
    | [] => return d
    | '\n' :: rest => d.lines steps rest fuel
    | _ => throw .malformed

end Document

/-- The tables and entries of a text whose values may lie so many steps deep. -/
def read (steps : Steps) (text : List Char) : Except ParserFault Entries := do
  return (← Document.empty.lines steps text (text.length + 1)).entries

end StubPlan.Toml
