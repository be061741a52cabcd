import StubPlan.Parser

/-! A place in a YAML text: what is left to read, and where it stands by line and column. -/
namespace StubPlan.Yaml

def isBreak (c : Char) : Bool :=
  c = '\n' || c = '\r' || c.toNat = 0x85 || c.toNat = 0x2028 || c.toNat = 0x2029

def endMark : Char := '\x00'

def isLineEnd (c : Char) : Bool := c = endMark || isBreak c

/-- Whether a character ends a word: a space, the end of a line or of the text. -/
def isGap (c : Char) : Bool := c = ' ' || isLineEnd c

def isGapOrTab (c : Char) : Bool := c = '\t' || isGap c

/-- A place in a text: what is left of it, how long the whole is, and where the place is. All count
from zero. -/
structure Cursor where
  rest : List Char
  size : Nat
  index : Nat
  line : Nat
  column : Nat

namespace Cursor

def start (text : List Char) : Cursor := ⟨text, text.length, 0, 0, 0⟩

def left (c : Cursor) : Nat := c.size - c.index

/-- The character `k` places on, or the end mark. -/
def peek (c : Cursor) (k : Nat) : Char := (c.rest[k]?).getD endMark

def char (c : Cursor) : Char := c.peek 0

/-- The place after one character. A carriage return before a line feed does not end a line, and a
byte order mark takes no column. -/
def next (c : Cursor) : Cursor :=
  match c.rest with
  | [] => c
  | ch :: rest =>
    let after := { c with rest, index := c.index + 1 }
    if isBreak ch && !(ch = '\r' && rest.head? = some '\n') then
      { after with line := c.line + 1, column := 0 }
    else { after with column := if ch.toNat = 0xFEFF then c.column else c.column + 1 }

/-- The place after `n` characters. -/
def skip (c : Cursor) : Nat → Cursor
  | 0 => c
  | n + 1 => c.next.skip n

/-- The characters here that satisfy `p`, and the place after them. -/
def span (c : Cursor) (p : Char → Bool) : List Char × Cursor :=
  let text := c.rest.takeWhile p
  (text, c.skip text.length)

def skipSpaces (c : Cursor) : Cursor := (c.span (· = ' ')).2

/-- The line break here, as the text it stands for, and the place after it; nothing when there is
none. -/
def lineBreak (c : Cursor) : List Char × Cursor :=
  let ch := c.char
  if ch = '\r' && c.peek 1 = '\n' then (['\n'], c.skip 2)
  else if ch = '\n' || ch = '\r' || ch.toNat = 0x85 then (['\n'], c.next)
  else if ch.toNat = 0x2028 || ch.toNat = 0x2029 then ([ch], c.next)
  else ([], c)

/-- Whether three marks of a kind stand here by themselves. -/
def atTriple (c : Cursor) (mark : Char) : Bool :=
  c.char = mark && c.peek 1 = mark && c.peek 2 = mark && isGapOrTab (c.peek 3)

def atDocumentMark (c : Cursor) : Bool := c.atTriple '-' || c.atTriple '.'

/-- The place after the blanks, comments and line breaks here, and whether a line was ended. -/
def skipBlanks (c : Cursor) : Nat → Cursor × Bool
  | 0 => (c, false)
  | fuel + 1 =>
    let c := c.skipSpaces
    let c := if c.char = '#' then (c.span fun ch => !isLineEnd ch).2 else c
    match c.lineBreak with
    | ([], c) => (c, false)
    | (_, c) => ((c.skipBlanks fuel).1, true)

/-- The place after spaces and a comment, which must end the line. -/
def finishLine (c : Cursor) : Except ParserFault Cursor :=
  let c := c.skipSpaces
  let c := if c.char = '#' then (c.span fun ch => !isLineEnd ch).2 else c
  if isLineEnd c.char then .ok c.lineBreak.2 else .error .malformed

end Cursor

def isPrintable (c : Char) : Bool :=
  let n := c.toNat
  n = 9 || n = 10 || n = 13 || (0x20 ≤ n && n ≤ 0x7E) || n = 0x85 || (0xA0 ≤ n && n ≤ 0xD7FF) ||
    (0xE000 ≤ n && n ≤ 0xFFFD) || 0x10000 ≤ n

end StubPlan.Yaml
