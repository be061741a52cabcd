import StubPlan.Yaml.Moment
import StubPlan.Yaml.Token

/-! Nodes of a YAML text: scalars, sequences and mappings, each with a kind. A name stands for the
node that was anchored under it before. -/
namespace StubPlan.Yaml

/-- A node. A scalar whose codes are no text is a case of its own, and so is a name that stands for a
node around it. -/
inductive Node where
  | scalar (kind : Kind) (text : String)
  | halves (kind : Kind) (codes : List Nat)
  | sequence (kind : Kind) (items : List Node)
  | mapping (kind : Kind) (entries : List (Node × Node))
  | enclosing

def Node.absent : Node := .scalar .null ""

abbrev Handles := List (String × String)

def Handles.standard : Handles := [("!", "!"), ("!!", "tag:yaml.org,2002:")]

/-- What is left of the tokens and the fault after them, the names of tags, the nodes that have been
anchored, which are missing while they are read, how many nodes are left open around the present one,
and how many may be. -/
structure Composer where
  tokens : List Token
  fault : Option ParserFault
  tagNames : TagNames
  anchors : List (String × Option Node)
  handles : Handles
  depth : Nat
  maxDepth : Nat

abbrev Compose := StateT Composer (Except ParserFault)

namespace Compose

/-- The next token; none at the end of the text. -/
def peek : Compose (Option Token) := do
  let s ← get
  match s.tokens.head?, s.fault with
  | some t, _ => return some t
  | none, some fault => throw fault
  | none, none => return none

def drop : Compose Unit := modify fun s => { s with tokens := s.tokens.tail }

/-- The next token is used up if it is a given one; whether it was. -/
def accept (t : Token) : Compose Bool := do
  if (← peek) = some t then
    drop
    return true
  else return false

def expect (t : Token) : Compose Unit := do
  if !(← accept t) then throw .malformed

def at? (ts : List Token) : Compose Bool := do
  match ← peek with
  | some t => return ts.contains t
  | none => return false

def fullTag : Option String × String → Compose String
  | (none, suffix) => return suffix
  | (some h, suffix) => do
    match (← get).handles.find? (·.1 = h) with
    | some (_, front) => return front ++ suffix
    | none => throw .malformed

def anchorHere : Compose (Option String) := do
  match ← peek with
  | some (.anchor name) =>
    drop
    return some name
  | _ => return none

def tagHere : Compose (Option (Option String × String)) := do
  match ← peek with
  | some (.tag handle suffix) =>
    drop
    return some (handle, suffix)
  | _ => return none

/-- The anchor and the tag here, in either order. -/
def propertiesHere : Compose (Option String × Option String) := do
  match ← anchorHere with
  | some name =>
    let tag ← tagHere
    return (some name, ← tag.mapM fullTag)
  | none =>
    let tag ← tagHere
    let name ← if tag.isSome then anchorHere else pure none
    return (name, ← tag.mapM fullTag)

/-- What `read` gives inside one more node. -/
def deeper {α : Type} (read : Compose α) : Compose α := do
  let s ← get
  if s.depth ≥ s.maxDepth then throw (.raised .tooDeep)
  set { s with depth := s.depth + 1 }
  let a ← read
  modify fun s => { s with depth := s.depth - 1 }
  return a

/-- The kind that a tag asks for; the tag without a name asks for nothing. -/
def askedKind (tag : Option String) (implied : Kind) : Compose Kind := do
  match tag with
  | none | some "!" => return implied
  | some t => return (← get).tagNames.kind t

mutual
/-- The node here. Blocks are read where they may stand, and a sequence without an indentation of its
own where `indentless` says so. -/
def node (block indentless : Bool) : Nat → Compose Node
  | 0 => throw .malformed
  | fuel + 1 => do
    match ← peek with
    | some (.alias name) =>
      drop
      match (← get).anchors.find? (·.1 = name) with
      | some (_, some n) => return n
      | some (_, none) => return .enclosing
      | none => throw .malformed
    | _ =>
      let (anchor, tag) ← propertiesHere
      let _ ← peek
      if let some name := anchor then
        if (← get).anchors.any (·.1 = name) then throw .malformed
        modify fun s => { s with anchors := (name, none) :: s.anchors }
      let n ← content block indentless anchor.isSome tag fuel
      if let some name := anchor then
        modify fun s => { s with anchors := (name, some n) :: s.anchors }
      return n
/-- The content of a node after its anchor and tag; it may be missing when there is one of them. -/
def content (block indentless anchored : Bool) (tag : Option String) : Nat → Compose Node
  | 0 => throw .malformed
  | fuel + 1 => do
    match ← peek with
    | some .blockEntry =>
      if indentless then
        return .sequence (← askedKind tag .sequence) (← deeper (indentlessItems fuel))
      else missing
    | some (.scalar text plain) =>
      drop
      let implied := if plain && tag.isNone || tag = some "!" then Kind.ofPlain text else .text
      return .scalar (← askedKind tag implied) text
    | some (.halves codes) =>
      drop
      return .halves (← askedKind tag .text) codes
    | some .flowSequenceStart =>
      drop
      return .sequence (← askedKind tag .sequence) (← deeper (flowItems true fuel))
    | some .flowMappingStart =>
      drop
      return .mapping (← askedKind tag .mapping) (← deeper (flowEntries true fuel))
    | some .blockSequenceStart =>
      if !block then missing
      else
        drop
        return .sequence (← askedKind tag .sequence) (← deeper (blockItems fuel))
    | some .blockMappingStart =>
      if !block then missing
      else
        drop
        return .mapping (← askedKind tag .mapping) (← deeper (blockEntries fuel))
    | _ => missing
where
  /-- What a node without content is. -/
  missing : Compose Node :=
    if tag.isSome || anchored then return .scalar (← askedKind tag .null) "" else throw .malformed
/-- A node of a block, unless one of some tokens comes first. -/
def nodeUnless (stops : List Token) (block indentless : Bool) : Nat → Compose Node
  | 0 => throw .malformed
  | fuel + 1 => do
    if (← at? stops) || (← peek).isNone then return .absent else node block indentless fuel
def blockItems : Nat → Compose (List Node)
  | 0 => throw .malformed
  | fuel + 1 => do
    if ← accept .blockEntry then
      let first ← nodeUnless [.blockEntry, .blockEnd] true false fuel
      return first :: (← blockItems fuel)
    else
      expect .blockEnd
      return []
def indentlessItems : Nat → Compose (List Node)
  | 0 => throw .malformed
  | fuel + 1 => do
    if ← accept .blockEntry then
      let first ← nodeUnless [.blockEntry, .key, .value, .blockEnd] true false fuel
      return first :: (← indentlessItems fuel)
    else return []
/-- The entries of a block mapping, each of which begins with a key. -/
def blockEntries : Nat → Compose (List (Node × Node))
  | 0 => throw .malformed
  | fuel + 1 => do
    let stops := [Token.key, .value, .blockEnd]
    if ← accept .key then
      let k ← nodeUnless stops true true fuel
      let v ← if ← accept .value then nodeUnless stops true true fuel else pure .absent
      return (k, v) :: (← blockEntries fuel)
    else
      expect .blockEnd
      return []
/-- The items of a sequence in brackets; all but the first follow a comma. -/
def flowItems (first : Bool) : Nat → Compose (List Node)
  | 0 => throw .malformed
  | fuel + 1 => do
    if ← accept .flowSequenceEnd then return []
    if !first then expect .flowEntry
    if ← accept .key then
      let stops := [Token.value, .flowEntry, .flowSequenceEnd]
      let k ← nodeUnless stops false false fuel
      let v ← if ← accept .value then nodeUnless stops.tail false false fuel else pure .absent
      return .mapping .mapping [(k, v)] :: (← flowItems false fuel)
    else if ← accept .flowSequenceEnd then return []
    else
      let item ← node false false fuel
      return item :: (← flowItems false fuel)
/-- The entries of a mapping in braces; all but the first follow a comma. -/
def flowEntries (first : Bool) : Nat → Compose (List (Node × Node))
  | 0 => throw .malformed
  | fuel + 1 => do
    if ← accept .flowMappingEnd then return []
    if !first then expect .flowEntry
    if ← accept .key then
      let stops := [Token.value, .flowEntry, .flowMappingEnd]
      let k ← nodeUnless stops false false fuel
      let v ← if ← accept .value then nodeUnless stops.tail false false fuel else pure .absent
      return (k, v) :: (← flowEntries false fuel)
    else if ← accept .flowMappingEnd then return []
    else
      let k ← node false false fuel
      return (k, .absent) :: (← flowEntries false fuel)
end

/-- The directives before a document; there is one at most about the version, which must be 1, and
one for each handle. -/
def directives (versionSeen : Bool) (declared : Handles) : Nat → Compose Unit
  | 0 => throw .malformed
  | fuel + 1 => do
    match ← peek with
    | some (.directive name value) =>
      drop
      if name = "YAML" && (versionSeen || value.toNat? ≠ some 1) then throw .malformed
      directives (versionSeen || name = "YAML") declared fuel
    | some (.tagDirective handle front) =>
      drop
      if declared.any (·.1 = handle) then throw .malformed
      directives versionSeen ((handle, front) :: declared) fuel
    | _ => modify fun s => { s with handles := declared ++ Handles.standard }

def dropDocumentEnds : Nat → Compose Unit
  | 0 => return
  | fuel + 1 => do if ← accept .documentEnd then dropDocumentEnds fuel

/-- The one document of a text; nothing when the text holds none. -/
def document (fuel : Nat) : Compose (Option Node) := do
  let explicit : Bool := match ← peek with
    | none | some (.directive ..) | some (.tagDirective ..) | some .documentStart => true
    | _ => false
  if explicit then
    if (← peek).isNone then return none
    directives false [] fuel
    expect .documentStart
  let bare : Bool := match ← peek with
    | none | some (.directive ..) | some (.tagDirective ..) | some .documentStart
    | some .documentEnd => explicit
    | _ => false
  let n ← if bare then pure .absent else node true false fuel
  dropDocumentEnds fuel
  if (← peek).isSome then
    directives false [] fuel
    throw .malformed
  return some n

end Compose

/-- The one node of a text; nothing when the text holds none. No more than `maxDepth` nodes may lie
around another. -/
def Node.ofText? (tagNames : TagNames) (maxDepth : Nat) (text : List Char) : Except ParserFault (Option Node) := do
  let s := TokenStream.ofText text
  let (n, _) ← (Compose.document (4 * s.tokens.length + 8)).run
    ⟨s.tokens, s.fault, tagNames, [], Handles.standard, 0, maxDepth⟩
  return n

end StubPlan.Yaml
