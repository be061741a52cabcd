import StubPlan.Environment.Basic
import StubPlan.Table
import StubPlan.Text.Blank
import StubPlan.Text.Replace

/-! Files of assignments: lines of a name, an equals sign and a value, which may be in quotes. A value
may refer to the environment and to names before it. -/
namespace StubPlan.Assignments
open Chars Text

def isLineBreak (c : Char) : Bool := c = '\n' || c = '\r'

def isLineBlank (c : Char) : Bool := isBlankChar c && !isLineBreak c

/-- The text up to the first character that does not satisfy `p`, and the text from there on. -/
def span (p : Char → Bool) (s : List Char) : List Char × List Char := (s.takeWhile p, s.dropWhile p)

/-- The text after a word and the blanks that follow it, if it begins so. -/
def afterExport (s : List Char) : List Char :=
  match dropFront? "export".toList s with
  | some rest => if rest.head?.any isLineBlank then rest.dropWhile isLineBlank else s
  | none => s

def name? (s : List Char) : Option (Option (List Char) × List Char) :=
  match s with
  | '#' :: _ => some (none, s)
  | '\'' :: rest =>
    let (name, rest) := span (· ≠ '\'') rest
    if name = [] ∨ rest = [] then none else some (some name, rest.tail)
  | s =>
    let (name, rest) := span (fun c => c ≠ '=' && c ≠ '#' && !isBlankChar c) s
    if name = [] then none else some (some name, rest)

/-- How many characters of a quoted value stand before a quote without a backslash before it. -/
def unescapedQuote? (quote : Char) (last : Char) : List Char → Option Nat
  | [] => none
  | c :: rest =>
    if c = quote ∧ last ≠ '\\' then some 0 else (unescapedQuote? quote c rest).map (· + 1)

/-- A quoted value after its opening quote, and the text after it. Where all quotes have backslashes
before them the last one closes. -/
def quotedValue? (quote : Char) (s : List Char) : Option (List Char × List Char) :=
  match unescapedQuote? quote quote s with
  | some n => some (s.take n, s.drop (n + 1))
  | none =>
    let after := (s.reverse.takeWhile (· ≠ quote)).reverse
    if after.length = s.length then none
    else some (s.take (s.length - after.length - 1), after)

/-- The characters that a backslash and a letter stand for in double quotes. -/
def doubleEscapes : List (Char × Char) :=
  [('\\', '\\'), ('\'', '\''), ('"', '"'), ('a', '\x07'), ('b', '\x08'), ('f', '\x0c'), ('n', '\n'),
   ('r', '\r'), ('t', '\t'), ('v', '\x0b')]

/-- The characters that a backslash may stand before in single quotes. -/
def singleEscapes : List (Char × Char) := [('\\', '\\'), ('\'', '\'')]

/-- A value with its escapes read; a backslash before another character stays. -/
def unescape (escapes : List (Char × Char)) : List Char → List Char
  | '\\' :: c :: rest => match escapes.find? (·.1 = c) with
    | some (_, image) => image :: unescape escapes rest
    | none => '\\' :: unescape escapes (c :: rest)
  | c :: rest => c :: unescape escapes rest
  | [] => []

/-- A value without a comment, which begins with a blank and a number sign. -/
def dropComment : List Char → List Char
  | [] => []
  | c :: rest =>
    if isBlankChar c && (rest.dropWhile isBlankChar).head? = some '#' then []
    else c :: dropComment rest

def value? (s : List Char) : Option (List Char × List Char) :=
  match s with
  | '\'' :: rest => (quotedValue? '\'' rest).map fun (v, rest) => (unescape singleEscapes v, rest)
  | '"' :: rest => (quotedValue? '"' rest).map fun (v, rest) => (unescape doubleEscapes v, rest)
  | s =>
    let (line, rest) := span (fun c => !isLineBreak c) s
    some (dropEndWhile isBlankChar (dropComment line), rest)

/-- The text after blanks, a comment and the end of the line, where nothing else may stand. -/
def lineEnd? (s : List Char) : Option (List Char) :=
  let s := match s.dropWhile isLineBlank with
    | '#' :: rest => rest.dropWhile fun c => !isLineBreak c
    | rest => rest
  match s with
  | [] => some []
  | c :: rest => if isLineBreak c then some rest else none

abbrev Assignment := String × Option String

/-- The assignment on a line, if there is one, and the text after it; the text where a fault is found
when the line is faulty. -/
def line (s : List Char) : Except (List Char) (Option Assignment × List Char) :=
  let s := afterExport s
  match name? s with
  | none => .error s
  | some (name, rest) =>
    let rest := rest.dropWhile isLineBlank
    let valued : Except (List Char) (Option (List Char) × List Char) := match rest with
      | '=' :: more =>
        let more := more.dropWhile isLineBlank
        match value? more with
        | some (v, rest) => .ok (some v, rest)
        | none => .error more
      | rest => .ok (none, rest)
    match valued with
    | .error rest => .error rest
    | .ok (v, rest) => match lineEnd? rest with
      | some rest =>
        .ok (name.map fun name => (String.ofList name, v.map String.ofList), rest)
      | none => .error (rest.dropWhile isLineBlank)

/-- The assignments of a text. The rest of a faulty line does not count. -/
def all (s : List Char) : Nat → List Assignment
  | 0 => []
  | fuel + 1 =>
    let s := s.dropWhile isBlankChar
    if s = [] then []
    else match line s with
      | .ok (a, rest) => a.toList ++ all rest fuel
      | .error rest => all ((rest.dropWhile fun c => !isLineBreak c).drop 1) fuel

/-- A value with references replaced: a name in braces after a dollar sign, which may have a default
after a colon and a hyphen. -/
def expand (find : String → Option String) (s : List Char) : Nat → List Char
  | 0 => s
  | fuel + 1 =>
    match s with
    | [] => []
    | '$' :: '\x7b' :: more =>
      let (name, rest) := span (fun c => c ≠ '\x7d' && c ≠ ':') more
      let (default, rest) := match rest with
        | ':' :: '-' :: rest => span (· ≠ '\x7d') rest
        | rest => ([], rest)
      match rest with
      | '\x7d' :: rest =>
        ((find (String.ofList name)).map String.toList).getD default ++ expand find rest fuel
      | _ => '$' :: expand find ('\x7b' :: more) fuel
    | c :: rest => c :: expand find rest fuel

/-- What a name refers to: an assignment that has been made, else the environment. One without a value
is an empty text. -/
def lookUp (env : Environment) (done : List Assignment) (name : String) : Option String :=
  match done.find? (·.1 = name) with
  | some (_, v) => some (v.getD "")
  | none => (env.reverse.find? (·.1 = name)).map (·.2)

/-- The assignments of a text with their references replaced. Of one name the last counts. -/
def read (env : Environment) (s : List Char) : List Assignment :=
  (all s (s.length + 1)).foldl (fun done (name, v) =>
    Table.put (name, v.map fun v =>
      String.ofList (expand (lookUp env done) v.toList (v.toList.length + 1))) done) []

end StubPlan.Assignments
