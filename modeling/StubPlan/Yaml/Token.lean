import StubPlan.Yaml.Scalar

/-! The tokens of a YAML text. Indentation becomes tokens that open and close blocks, and a value
that turns out to be a key gets a mark before it. -/
namespace StubPlan.Yaml

/-- A token. The tag of a node has a handle, unless it is written out in full. -/
inductive Token where
  | directive (name value : String)
  | tagDirective (handle front : String)
  | documentStart
  | documentEnd
  | blockSequenceStart
  | blockMappingStart
  | blockEnd
  | flowSequenceStart
  | flowSequenceEnd
  | flowMappingStart
  | flowMappingEnd
  | flowEntry
  | blockEntry
  | key
  | value
  | alias (name : String)
  | anchor (name : String)
  | tag (handle : Option String) (suffix : String)
  | scalar (text : String) (plain : Bool)
  | halves (codes : List Nat)
  deriving DecidableEq, Repr

/-- Whether a code is half of a surrogate pair, which by itself is no character. -/
def isHalf (code : Nat) : Bool := 0xD800 ≤ code && code ≤ 0xDFFF

/-- The token of a quoted scalar: its codes make a text, unless there are halves of pairs among them. -/
def Token.ofCodes (codes : List Nat) : Token :=
  if codes.any isHalf then .halves codes else .scalar (String.ofList (codes.map Char.ofNat)) false

/-- A token and what has to be put before it: a block mapping that it begins, and a mark that it is
a key. -/
structure Placed where
  token : Token
  beginsMapping : Bool := false
  isKey : Bool := false

/-- A token that is a key if a colon follows on the same line. A required one must be. -/
structure PossibleKey where
  position : Nat
  required : Bool
  index : Nat
  line : Nat
  column : Nat

/-- How far the tokens of a text have been read: the tokens, the last one first, and their number. -/
structure Progress where
  cursor : Cursor
  tokens : List Placed
  count : Nat
  flowLevel : Nat
  indent : Int
  indents : List Int
  allowKey : Bool
  keys : List (Nat × PossibleKey)

namespace Progress

/-- Nothing has been read yet. -/
def start (text : List Char) : Progress := ⟨Cursor.start text, [], 0, 0, -1, [], true, []⟩

def push (s : Progress) (t : Token) : Progress :=
  { s with tokens := { token := t } :: s.tokens, count := s.count + 1 }

/-- Whether a possible key is on an earlier line or too far back to be one. -/
def isStale (s : Progress) (key : PossibleKey) : Bool :=
  key.line ≠ s.cursor.line || s.cursor.index > key.index + 1024

/-- Stale keys are none; a required one is a fault. -/
def dropStaleKeys (s : Progress) : Except ParserFault Progress :=
  if s.keys.any fun p => s.isStale p.2 && p.2.required then .error .malformed
  else .ok { s with keys := s.keys.filter fun p => !s.isStale p.2 }

/-- The tokens that nothing further on can change: those before the first possible key. -/
def settled (s : Progress) : List Placed :=
  let count := s.keys.foldl (fun count (_, key) =>
    if s.isStale key then count else min count key.position) s.count
  s.tokens.drop (s.count - count)

/-- The possible key of the present level is none; a required one is a fault. -/
def dropKey (s : Progress) : Except ParserFault Progress :=
  if s.keys.any fun p => p.1 = s.flowLevel && p.2.required then .error .malformed
  else .ok { s with keys := s.keys.filter fun p => p.1 ≠ s.flowLevel }

/-- The next token may be a key, where keys are allowed. -/
def saveKey (s : Progress) : Except ParserFault Progress := do
  if s.allowKey then
    let s ← s.dropKey
    let c := s.cursor
    let required := s.flowLevel = 0 && s.indent = c.column
    let key : PossibleKey := ⟨s.count, required, c.index, c.line, c.column⟩
    return { s with keys := (s.flowLevel, key) :: s.keys }
  else return s

def unwind (s : Progress) (column : Int) : List Int → Progress
  | [] => s
  | outer :: indents =>
    if s.indent > column then
      unwind { s.push .blockEnd with indent := outer, indents := indents } column indents
    else s

/-- The blocks that are indented more than a column end, outside of brackets and braces. -/
def unwindTo (s : Progress) (column : Int) : Progress :=
  if s.flowLevel = 0 then s.unwind column s.indents else s

def opensBlock (s : Progress) (column : Nat) : Bool := s.indent < column

def openBlock (s : Progress) (column : Nat) : Progress :=
  { s with indents := s.indent :: s.indents, indent := column }

/-- A token of `n` characters is read. -/
def take (s : Progress) (t : Token) (n : Nat) : Progress :=
  { s.push t with cursor := s.cursor.skip n }

/-- The mark that begins or ends a document, or a directive, comes at no indentation. -/
def leaveBlocks (s : Progress) : Except ParserFault Progress := do
  let s ← (s.unwindTo (-1)).dropKey
  return { s with allowKey := false }

def isNameChar (c : Char) : Bool :=
  ('0' ≤ c && c ≤ '9') || ('A' ≤ c && c ≤ 'Z') || ('a' ≤ c && c ≤ 'z') || c = '-' || c = '_'

def anchorName (c : Cursor) : Except ParserFault (String × Cursor) :=
  let (name, c) := c.span isNameChar
  if name ≠ [] && (isGapOrTab c.char || "?:,]\x7d%@\x60".toList.contains c.char) then
    .ok (String.ofList name, c)
  else .error .malformed

/-- Whether a character may stand in the suffix of a tag; a percent sign begins an escape there. -/
def isTagChar (c : Char) : Bool :=
  isNameChar c || ";/?:@&=+$,.!~*'()[]%".toList.contains c

def tagSuffix (c : Cursor) : Except ParserFault (String × Cursor) :=
  let (text, c) := c.span isTagChar
  if text = [] then .error .malformed else .ok (String.ofList (Url.percentDecode text), c)

/-- The handle of a tag: a mark, or a name between two marks. -/
def tagHandle (c : Cursor) : Except ParserFault (String × Cursor) :=
  if c.char ≠ '!' then .error .malformed
  else if c.peek 1 = ' ' then .ok ("!", c.next)
  else
    let (name, c) := c.next.span isNameChar
    if c.char = '!' then .ok (String.ofList ('!' :: name ++ ['!']), c.next) else .error .malformed

def tag (c : Cursor) : Except ParserFault (Token × Cursor) := do
  let ch := c.peek 1
  let (t, c) ← if ch = '<' then do
      let (suffix, c) ← tagSuffix (c.skip 2)
      if c.char = '>' then pure (Token.tag none suffix, c.next) else throw .malformed
    else if isGapOrTab ch then pure (Token.tag none "!", c.next)
    else do
      let word := c.next.rest.takeWhile fun ch => !isGap ch
      let (handle, c) ← if word.contains '!' then tagHandle c else pure ("!", c.next)
      let (suffix, c) ← tagSuffix c
      pure (Token.tag (some handle) suffix, c)
  if isGap c.char then return (t, c) else throw .malformed

def digits (c : Cursor) : Except ParserFault (List Char × Cursor) :=
  let (ds, c) := c.span fun ch => '0' ≤ ch && ch ≤ '9'
  if ds = [] then .error .malformed else .ok (ds, c)

def directive (c : Cursor) : Except ParserFault (Token × Cursor) := do
  let (name, c) := c.next.span isNameChar
  if name = [] || !isGap c.char then throw .malformed
  let (t, c) ← if name = ['Y', 'A', 'M', 'L'] then do
      let (major, c) ← digits c.skipSpaces
      if c.char ≠ '.' then throw .malformed
      let (_, c) ← digits c.next
      if !isGap c.char then throw .malformed
      pure (Token.directive "YAML" (String.ofList major), c)
    else if name = ['T', 'A', 'G'] then do
      let (handle, c) ← tagHandle c.skipSpaces
      if c.char ≠ ' ' then throw .malformed
      let (front, c) ← tagSuffix c.skipSpaces
      if !isGap c.char then throw .malformed
      pure (Token.tagDirective handle front, c)
    else pure (Token.directive (String.ofList name) "", (c.span fun ch => !isLineEnd ch).2)
  return (t, ← c.finishLine)

def startsPlain (s : Progress) : Bool :=
  let ch := s.cursor.char
  !(isGapOrTab ch || "-?:,[]\x7b\x7d#&*!|>'\"%@\x60".toList.contains ch) ||
    (!isGapOrTab (s.cursor.peek 1) && (ch = '-' || (s.flowLevel = 0 && (ch = '?' || ch = ':'))))

def openFlow (s : Progress) (t : Token) : Except ParserFault Progress := do
  let s ← s.saveKey
  return { s.take t 1 with flowLevel := s.flowLevel + 1, allowKey := true }

def closeFlow (s : Progress) (t : Token) : Except ParserFault Progress := do
  let s ← s.dropKey
  if s.flowLevel = 0 then throw .malformed
  return { s.take t 1 with flowLevel := s.flowLevel - 1, allowKey := false }

def blockMark (s : Progress) (begins mark : Token) (allow : Bool) : Except ParserFault Progress := do
  let column := s.cursor.column
  let s ← if s.flowLevel = 0 then
      if s.allowKey then
        pure (if s.opensBlock column then (s.push begins).openBlock column else s)
      else throw .malformed
    else pure s
  let s ← s.dropKey
  return { s.take mark 1 with allowKey := allow }

/-- The colon before a value: what came before it on the line is its key, if anything did. -/
def valueMark (s : Progress) : Except ParserFault Progress :=
  match s.keys.find? (·.1 = s.flowLevel) with
  | some (_, key) =>
    let begins := s.flowLevel = 0 && s.opensBlock key.column
    let s := if begins then s.openBlock key.column else s
    let tokens := s.tokens.modify (s.count - 1 - key.position) fun p =>
      { p with isKey := true, beginsMapping := begins }
    .ok { ({ s with tokens }).take .value 1 with
      keys := s.keys.filter fun p => p.1 ≠ s.flowLevel
      allowKey := false }
  | none => s.blockMark .blockMappingStart .value (s.flowLevel = 0)

def nodeToken (s : Progress) (read : Cursor → Except ParserFault (Token × Cursor)) :
    Except ParserFault Progress := do
  let s ← s.saveKey
  let (t, c) ← read s.cursor
  return { s.push t with cursor := c, allowKey := false }

def blockScalar (s : Progress) (folded : Bool) : Except ParserFault Progress := do
  let s ← s.dropKey
  let (text, c) ← blockText folded s.indent s.cursor.next
  return { s.push (.scalar (String.ofList text) false) with cursor := c, allowKey := true }

def plainScalar (s : Progress) : Except ParserFault Progress := do
  let s ← s.saveKey
  let c := s.cursor
  let ((text, c), ended) :=
    plainWords (s.flowLevel ≠ 0) (s.indent + 1) [] c false (c.left + 1)
  return { s.push (.scalar (String.ofList text) true) with cursor := c, allowKey := ended }

/-- The next token, at a place that is no blank. -/
def nextToken (s : Progress) : Except ParserFault Progress :=
  let c := s.cursor
  let ch := c.char
  let flow : Bool := s.flowLevel ≠ 0
  let gapNext := isGapOrTab (c.peek 1)
  if ch = '%' && c.column = 0 then do
    let s ← s.leaveBlocks
    let (t, c) ← directive s.cursor
    return { s.push t with cursor := c }
  else if c.column = 0 && c.atTriple '-' then do return (← s.leaveBlocks).take .documentStart 3
  else if c.column = 0 && c.atTriple '.' then do return (← s.leaveBlocks).take .documentEnd 3
  else if ch = '[' then s.openFlow .flowSequenceStart
  else if ch = '\x7b' then s.openFlow .flowMappingStart
  else if ch = ']' then s.closeFlow .flowSequenceEnd
  else if ch = '\x7d' then s.closeFlow .flowMappingEnd
  else if ch = ',' then do
    let s ← ({ s with allowKey := true }).dropKey
    return s.take .flowEntry 1
  else if ch = '-' && gapNext then s.blockMark .blockSequenceStart .blockEntry true
  else if ch = '?' && (flow || gapNext) then s.blockMark .blockMappingStart .key !flow
  else if ch = ':' && (flow || gapNext) then s.valueMark
  else if ch = '*' then s.nodeToken fun c => (anchorName c.next).map fun (n, c) => (.alias n, c)
  else if ch = '&' then s.nodeToken fun c => (anchorName c.next).map fun (n, c) => (.anchor n, c)
  else if ch = '!' then s.nodeToken tag
  else if ch = '|' && !flow then s.blockScalar false
  else if ch = '>' && !flow then s.blockScalar true
  else if ch = '\'' || ch = '"' then
    s.nodeToken fun c => (quotedText ch c.next (c.left + 1)).map fun (t, c) =>
      (Token.ofCodes t, c)
  else if s.startsPlain then s.plainScalar
  else .error .malformed

/-- One step on: the next token after the blanks here, or nothing more at the end of the text, with
all blocks ended. Whether the end has been reached comes with it. -/
def step (s : Progress) : Except ParserFault (Progress × Bool) := do
  let c := s.cursor
  let c := if c.index = 0 && c.char.toNat = 0xFEFF then c.next else c
  let (c, ended) := c.skipBlanks (c.left + 1)
  let s ← ({ s with
    cursor := c
    allowKey := s.allowKey || (ended && s.flowLevel = 0) }).dropStaleKeys
  let s := s.unwindTo c.column
  if c.rest = [] then return (← (s.unwindTo (-1)).dropKey, true)
  else return (← s.nextToken, false)

/-- All tokens up to the end of the text, or those that are settled before a fault, and the fault. The
last token comes first. Every step but the last takes a character at least. -/
def run (s : Progress) : Nat → List Placed × Option ParserFault
  | 0 => (s.settled, some .malformed)
  | fuel + 1 => match s.step with
    | .error fault => (s.settled, some fault)
    | .ok (s, true) => (s.tokens, none)
    | .ok (s, false) => s.run fuel

end Progress

/-- The tokens of a text as far as they can be read, and the fault that comes after them, if any. A
reader meets the fault only when it has used up the tokens. -/
structure TokenStream where
  tokens : List Token
  fault : Option ParserFault

def Placed.tokens (p : Placed) : List Token :=
  (if p.beginsMapping then [.blockMappingStart] else []) ++
    (if p.isKey then [Token.key] else []) ++ [p.token]

def TokenStream.ofText (text : List Char) : TokenStream :=
  if text.any fun c => !isPrintable c then ⟨[], some .malformed⟩
  else
    let (placed, fault) := (Progress.start text).run (text.length + 2)
    ⟨placed.reverse.flatMap Placed.tokens, fault⟩

end StubPlan.Yaml
