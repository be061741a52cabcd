import StubPlan.Url.Percent
import StubPlan.Yaml.Cursor

/-! The text of scalars: plain, quoted, literal and folded. -/
namespace StubPlan.Yaml

abbrev Scanned := List Char × Cursor

/-- The line breaks here with the spaces between them, up to the mark of a document; whether such a
mark was met. -/
def plainBreaks (c : Cursor) : Nat → Scanned × Bool
  | 0 => (([], c), false)
  | fuel + 1 =>
    if c.char = ' ' then plainBreaks c.next fuel
    else if isBreak c.char then
      let (br, c) := c.lineBreak
      if c.atDocumentMark then ((br, c), true)
      else
        let ((more, c), met) := plainBreaks c fuel
        ((br ++ more, c), met)
    else (([], c), false)

/-- One line break is folded into a space, unless others follow it. -/
def foldBreaks (first breaks : List Char) : List Char :=
  (if first ≠ ['\n'] then first else if breaks = [] then [' '] else []) ++ breaks

/-- The space between two words of a plain scalar, the place after it, and whether a line was ended;
nothing when the scalar cannot go on. -/
def plainSpace (c : Cursor) : Scanned × Bool :=
  let (spaces, c) := c.span (· = ' ')
  if isBreak c.char then
    let (first, c) := c.lineBreak
    if c.atDocumentMark then (([], c), true)
    else
      let ((breaks, c), met) := plainBreaks c c.left
      ((if met then [] else foldBreaks first breaks, c), true)
  else ((spaces, c), false)

/-- The characters that end a word inside brackets and braces. -/
def flowIndicators : List Char := [',', '?', '[', ']', '\x7b', '\x7d']

/-- The characters before which a colon ends a word inside brackets and braces. -/
def flowEnds : List Char := [',', '[', ']', '\x7b', '\x7d']

/-- How many characters of a plain scalar stand before the next gap or indicator. -/
def plainWordLength (flow : Bool) : List Char → Nat
  | [] => 0
  | ch :: rest =>
    let following := rest.head?.getD endMark
    if isGapOrTab ch || (ch = ':' && (isGapOrTab following || (flow && flowEnds.contains following)))
        || (flow && flowIndicators.contains ch) then 0
    else plainWordLength flow rest + 1

/-- The words of a plain scalar after the given space, the place after them, and whether the last
space ended a line. Outside of brackets and braces, a line must be indented by `indent`. -/
def plainWords (flow : Bool) (indent : Int) (space : List Char) (c : Cursor) (allow : Bool) :
    Nat → Scanned × Bool
  | 0 => (([], c), allow)
  | fuel + 1 =>
    let length := plainWordLength flow c.rest
    if c.char = '#' || length = 0 then (([], c), allow)
    else
      let word := c.rest.take length
      let c := c.skip length
      let ((following, c), ended) := plainSpace c
      if following = [] || c.char = '#' || (!flow && (c.column : Int) < indent) then
        ((space ++ word, c), ended)
      else
        let ((more, c), ended) := plainWords flow indent following c ended fuel
        ((space ++ word ++ more, c), ended)

/-- The line breaks here with the blanks around them, which no mark of a document may interrupt. -/
def quotedBreaks (c : Cursor) : Nat → Except ParserFault Scanned
  | 0 => .ok ([], c)
  | fuel + 1 =>
    if c.atDocumentMark then .error .malformed
    else
      let c := (c.span fun ch => ch = ' ' || ch = '\t').2
      if isBreak c.char then do
        let (br, c) := c.lineBreak
        let (more, c) ← quotedBreaks c fuel
        return (br ++ more, c)
      else .ok ([], c)

/-- The blanks inside a quoted scalar, folded when they end a line. -/
def quotedSpace (c : Cursor) : Except ParserFault Scanned :=
  let (spaces, c) := c.span fun ch => ch = ' ' || ch = '\t'
  if c.rest = [] then .error .malformed
  else if isBreak c.char then do
    let (first, c) := c.lineBreak
    let (breaks, c) ← quotedBreaks c (c.left + 1)
    return (foldBreaks first breaks, c)
  else .ok (spaces, c)

/-- The characters that a backslash and one character stand for. -/
def simpleEscapes : List (Char × Nat) :=
  [('0', 0), ('a', 7), ('b', 8), ('t', 9), ('\t', 9), ('n', 10), ('v', 11), ('f', 12), ('r', 13),
   ('e', 27), (' ', 32), ('"', 34), ('\\', 92), ('/', 47), ('N', 0x85), ('_', 0xA0), ('L', 0x2028),
   ('P', 0x2029)]

/-- How many hexadecimal digits follow the character that announces a code. -/
def codeLength? (c : Char) : Option Nat :=
  if c = 'x' then some 2 else if c = 'u' then some 4 else if c = 'U' then some 8 else none

def hexCode? (digits : List Char) : Option Nat :=
  (digits.mapM Url.hexValue?).map fun ds => ds.foldl (fun n d => 16 * n + d) 0

/-- Code points of a quoted text and the place after it. An escape may write half of a surrogate
pair. -/
abbrev QuotedCodes := List Nat × Cursor

def codes (text : List Char) : List Nat := text.map Char.toNat

/-- The code point that the digits of an escape write, and the place after them. -/
def escapedCode (c : Cursor) (length : Nat) : Except ParserFault QuotedCodes :=
  let digits := c.rest.take length
  match if digits.length = length then hexCode? digits else none with
  | none => .error .malformed
  | some code =>
    if code ≥ 0x80000000 then .error (.raised .tooLarge)
    else if code > 0x10FFFF then .error (.raised .unreadable)
    else .ok ([code], c.skip length)

/-- What an escape stands for, after its backslash. -/
def escaped (c : Cursor) : Except ParserFault QuotedCodes :=
  match simpleEscapes.find? (·.1 = c.char) with
  | some (_, code) => if c.rest = [] then .error .malformed else .ok ([code], c.next)
  | none => match codeLength? c.char with
    | some length => escapedCode c.next length
    | none =>
      if isBreak c.char then do
        let (breaks, c) ← quotedBreaks c.lineBreak.2 (c.left + 1)
        return (codes breaks, c)
      else .error .malformed

/-- What is left of a quoted scalar, up to and including its closing quote. -/
def quotedText (quote : Char) (c : Cursor) : Nat → Except ParserFault QuotedCodes
  | 0 => .error .malformed
  | fuel + 1 =>
    let double : Bool := quote = '"'
    let plain := fun ch => !(ch = '\'' || ch = '"' || ch = '\\' || isGapOrTab ch)
    let (text, c) := c.span plain
    let more (head : List Nat) (c : Cursor) : Except ParserFault QuotedCodes := do
      let (tail, c) ← quotedText quote c fuel
      return (codes text ++ head ++ tail, c)
    let ch := c.char
    if !double && ch = '\'' && c.peek 1 = '\'' then more (codes ['\'']) (c.skip 2)
    else if ch = quote then .ok (codes text, c.next)
    else if ch = '\'' || ch = '"' || (ch = '\\' && !double) then more (codes [ch]) c.next
    else if ch = '\\' then do
      let (head, c) ← escaped c.next
      more head c
    else do
      let (space, c) ← quotedSpace c
      more (codes space) c

/-- How the line breaks at the end of a literal or folded scalar are kept: one, none, or all. -/
inductive Chomping where
  | clip
  | strip
  | keep
  deriving DecidableEq, Repr

def chomping? (ch : Char) : Option Chomping :=
  if ch = '+' then some .keep else if ch = '-' then some .strip else none

/-- The indentation that a digit asks for; zero is none. -/
def indentation? (ch : Char) : Option Nat :=
  if '1' ≤ ch ∧ ch ≤ '9' then some (ch.toNat - 48) else none

/-- The chomping and indentation in the header of a block scalar, in either order, and the place
after the header's line. -/
def blockHeader (c : Cursor) : Except ParserFault (Chomping × Option Nat × Cursor) :=
  let (chomp, c) := match chomping? c.char with
    | some k => (some k, c.next)
    | none => (none, c)
  let (indent, c) := match indentation? c.char with
    | some n => (some n, c.next)
    | none => (none, c)
  let (chomp, c) := match chomp, indent, chomping? c.char with
    | none, some _, some k => (some k, c.next)
    | _, _, _ => (chomp, c)
  if isGap c.char then do
    let c ← c.finishLine
    return (chomp.getD .clip, indent, c)
  else .error .malformed

/-- The line breaks here and the widest indentation of a line of spaces, and the place after them. -/
def leadingBreaks (c : Cursor) (widest : Nat) : Nat → List Char × Nat × Cursor
  | 0 => ([], widest, c)
  | fuel + 1 =>
    if c.char = ' ' then leadingBreaks c.next (max widest c.next.column) fuel
    else if isBreak c.char then
      let (br, c) := c.lineBreak
      let (more, widest, c) := leadingBreaks c widest fuel
      (br ++ more, widest, c)
    else ([], widest, c)

/-- The place after the spaces here, not past a column. -/
def skipIndent (c : Cursor) (indent : Nat) : Cursor :=
  c.skip (min (indent - c.column) (c.rest.takeWhile (· = ' ')).length)

/-- The line breaks here, each followed by an indentation that is skipped. -/
def blockBreaks (c : Cursor) (indent : Nat) : Nat → Scanned
  | 0 => ([], c)
  | fuel + 1 =>
    let c := skipIndent c indent
    if isBreak c.char then
      let (br, c) := c.lineBreak
      let (more, c) := blockBreaks c indent fuel
      (br ++ more, c)
    else ([], c)

/-- The lines of a block scalar, after the given line breaks: their text, the last line break, the
line breaks after it, and the place after them. -/
def blockLines (folded : Bool) (indent : Nat) (breaks : List Char) (c : Cursor) :
    Nat → List Char × List Char × List Char × Cursor
  | 0 => ([], [], breaks, c)
  | fuel + 1 =>
    let isBlank (ch : Char) : Bool := ch = ' ' || ch = '\t'
    let leading := c.char
    let (line, c) := c.span fun ch => !isLineEnd ch
    let (lineBreak, c) := c.lineBreak
    let (following, c) := blockBreaks c indent (c.left + 1)
    if c.column = indent && c.rest ≠ [] then
      let joint :=
        if folded && lineBreak = ['\n'] && !isBlank leading && !isBlank c.char then
          if following = [] then [' '] else []
        else lineBreak
      let (more, last, tail, c) := blockLines folded indent following c fuel
      (breaks ++ line ++ joint ++ more, last, tail, c)
    else (breaks ++ line, lineBreak, following, c)

/-- The text of a literal or folded scalar, after the mark that begins it. `parent` is the
indentation of what it belongs to. -/
def blockText (folded : Bool) (parent : Int) (c : Cursor) : Except ParserFault Scanned := do
  let (chomp, given, c) ← blockHeader c
  let least := (max (parent + 1) 1).toNat
  let (indent, breaks, c) := match given with
    | some n =>
      let indent := least + n - 1
      let (breaks, c) := blockBreaks c indent (c.left + 1)
      (indent, breaks, c)
    | none =>
      let (breaks, widest, c) := leadingBreaks c 0 c.left
      (max least widest, breaks, c)
  let (text, last, tail, c) :=
    if c.column = indent && c.rest ≠ [] then blockLines folded indent breaks c (c.left + 1)
    else ([], [], breaks, c)
  let ending := match chomp with
    | .clip => last
    | .strip => []
    | .keep => last ++ tail
  return (text ++ ending, c)

end StubPlan.Yaml
