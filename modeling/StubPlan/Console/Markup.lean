import StubPlan.Console.Emoji
import StubPlan.Console.Handler
import StubPlan.Console.Style

/-! Markup of console text. A tag in brackets opens a styled part, a tag that starts with a slash
closes one, and a backslash before a tag makes it plain text. Emoji may be written by name. -/
namespace StubPlan.Markup

inductive Piece where
  | text (s : List Char)
  | tag (content : List Char)
  deriving DecidableEq, Repr

/-- Why a text cannot be shown: a tag closes what is not open, or the handler of a part or the style of
one cannot be read. -/
inductive Fault where
  | neverOpened (name : List Char)
  | nothingOpen
  | unreadableHandler (text : List Char)
  | unreadableStyle (name : List Char)
  deriving DecidableEq, Repr

/-- The characters that a tag may start with; other brackets are text. -/
def startsTag (c : Char) : Bool := ('a' ≤ c && c ≤ 'z') || c = '#' || c = '/' || c = '@'

structure Found where
  slashes : Nat
  content : List Char

def Found.length (f : Found) : Nat := f.slashes + f.content.length + 2

/-- The tag at the beginning of a text, behind any backslashes; its content is made of the given
characters. -/
def findTag? (allowed : Char → Bool) (s : List Char) : Option Found :=
  match s.dropWhile (· = '\\') with
  | '[' :: c :: rest =>
    let content := rest.takeWhile fun c => c ≠ ']' && allowed c
    if startsTag c && rest[content.length]? = some ']' then
      some ⟨(s.takeWhile (· = '\\')).length, c :: content⟩
    else none
  | _ => none

/-- The pieces that a tag with its backslashes stands for. Two backslashes are one, and a single one
makes the tag text. -/
def Found.pieces (f : Found) : List Piece :=
  let slashes := List.replicate (f.slashes / 2) '\\'
  (if slashes = [] then [] else [.text slashes]) ++
    [if f.slashes % 2 = 1 then .text ('[' :: f.content ++ [']']) else .tag f.content]

/-- The pieces of a text, after `skip` characters of a tag already read and with the plain text
before them in reverse. -/
def piecesAfter (plain : List Char) : (skip : Nat) → List Char → List Piece
  | _, [] => if plain = [] then [] else [.text plain.reverse]
  | skip + 1, _ :: rest => piecesAfter plain skip rest
  | 0, c :: rest => match findTag? (· ≠ '[') (c :: rest) with
    | some f =>
      (if plain = [] then [] else [.text plain.reverse]) ++ f.pieces ++
        piecesAfter [] (f.length - 1) rest
    | none => piecesAfter (c :: plain) 0 rest

def pieces (s : List Char) : List Piece := piecesAfter [] 0 s

/-- A part of a text: its name, and what stands after an equals sign in the tag that opens it. -/
structure Part where
  name : List Char
  value : Option (List Char)

namespace Part

def ofTag (content : List Char) : Part :=
  match Chars.cutAt? '=' content with
  | some (name, value) => ⟨name, some value⟩
  | none => ⟨content, none⟩

def style (p : Part) : List Char :=
  p.name ++ ((p.value.map (' ' :: ·)).getD [])

/-- A part whose name starts with an at sign has a handler, which is read when the part is closed. -/
def close (p : Part) : Except Fault Unit :=
  match p.name, p.value with
  | '@' :: _, some value =>
    if value = [] ∨ Handler.isReadable value then .ok () else .error (.unreadableHandler value)
  | _, _ => .ok ()

end Part

def styleName (name : List Char) : Except Fault (List Char) :=
  match TextStyle.canonical? name with
  | some name => .ok name
  | none => .error (.unreadableStyle name)

/-- The parts that are open after a tag, innermost first. -/
def afterTag (opened : List Part) (content : List Char) : Except Fault (List Part) := do
  let p := Part.ofTag content
  match p.name with
  | '/' :: name =>
    if Chars.trim name = [] then
      match opened with
      | [] => throw .nothingOpen
      | first :: opened =>
        first.close
        return opened
    else
      let name ← styleName (Chars.trim name)
      match opened.find? (·.name = name) with
      | some found =>
        found.close
        return opened.eraseP (·.name = name)
      | none => throw (.neverOpened name)
  | name => return ⟨← styleName name, p.value⟩ :: opened

/-- The text of pieces, within the given open parts. A backslash before a bracket that is no tag
does not show either, and names of emoji are replaced in each piece. -/
def textOf (opened : List Part) : List Piece → Except Fault (List Char)
  | [] => .ok []
  | .text s :: rest =>
    (textOf opened rest).map (Emoji.expand (Chars.replace ['\\', '['] ['['] s) ++ ·)
  | .tag content :: rest => do textOf (← afterTag opened content) rest

/-- The styles of all parts must be readable together with what stands after their equals signs. -/
def checkStyles (ps : List Piece) : Except Fault Unit :=
  ps.forM fun
    | .text _ => .ok ()
    | .tag content => do
      let p := Part.ofTag content
      if p.name.head? ≠ some '/' then
        let _ ← styleName (Part.style ⟨← styleName p.name, p.value⟩)

/-- The controls that a console acts on and that no text may hold: bell, backspace, vertical tab,
form feed and carriage return. -/
def isControl (c : Char) : Bool :=
  c.toNat = 7 || c.toNat = 8 || c.toNat = 11 || c.toNat = 12 || c.toNat = 13

def shown (s : List Char) : Except Fault (List Char) := do
  let text ← textOf [] (pieces s)
  checkStyles (pieces s)
  return text.filter (!isControl ·)

/-- A text with its tags made plain, after `skip` characters of a tag already copied. -/
def escapeAfter : (skip : Nat) → List Char → List Char
  | _, [] => []
  | skip + 1, c :: rest => c :: escapeAfter skip rest
  | 0, c :: rest => match findTag? (· ≠ '\n') (c :: rest) with
    | some f =>
      List.replicate (f.slashes + 1) '\\' ++ c :: escapeAfter (f.length - 1) rest
    | none => c :: escapeAfter 0 rest

/-- A text with its tags made plain: each gets its backslashes twice and one more. A single
backslash at the end is written twice, so that it does not act on what follows. -/
def escape (s : List Char) : List Char :=
  let escaped := escapeAfter 0 s
  if (escaped.reverse.takeWhile (· = '\\')).length = 1 then escaped ++ ['\\'] else escaped

end StubPlan.Markup
