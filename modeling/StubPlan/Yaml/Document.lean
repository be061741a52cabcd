import StubPlan.Numeral
import StubPlan.Text.Base64
import StubPlan.Unicode.LetterCase
import StubPlan.Yaml.Node

/-! The value of a YAML document. Of equal keys the last value wins; entries that are merged in come
before a mapping's own. -/
namespace StubPlan.Yaml

/-- A number without underscores, its sign apart; there must be something after or instead of the
sign. -/
def signed (text : List Char) : Except ParserError (Bool × List Char) :=
  match Numeral.takeSign (text.filter (· ≠ '_')) with
  | (_, []) => .error .noDigits
  | r => .ok r

/-- What a number is, or that its text writes none. -/
def orUnreadable {α : Type} (x : Option α) : Except ParserError α :=
  match x with
  | some a => .ok a
  | none => .error .unreadable

/-- Whether a text of ASCII has separators of information in it, which count as blanks in other texts
only. -/
def hasSeparator (s : List Char) : Bool :=
  s.all (·.toNat < 128) && s.any fun c => 28 ≤ c.toNat && c.toNat ≤ 31

/-- What a text writes as a numeral that `read` can read. -/
def numeral {α : Type} (read : List Char → Option α) (s : List Char) : Option α :=
  if hasSeparator s then none else read s

def intValue (text : List Char) : Except ParserError Int := do
  let (negative, s) ← signed text
  let magnitude ← orUnreadable (match s with
    | ['0'] => some 0
    | '0' :: 'b' :: ds => numeral (Numeral.intInBase? 2) ds
    | '0' :: 'x' :: ds => numeral (Numeral.intInBase? 16) ds
    | '0' :: _ => numeral (Numeral.intInBase? 8) s
    | s => ((Chars.splitAt ':' s).mapM (numeral Numeral.int?)).map
        (List.foldl (fun (n : Int) d => 60 * n + d) 0))
  return if negative then -magnitude else magnitude

/-- The sum of parts in base sixty, from the last one up, rounded at every step. A power of sixty
must be no greater than a float can be. -/
def sixtieths (parts : List Binary64) : Except ParserError Binary64 := do
  let (sum, _) ← parts.reverse.foldlM
    (fun (sum, base) part =>
      match Binary64.ofRatio false base 1 with
      | .infinite _ => .error .tooLarge
      | weight => .ok (Binary64.add sum (Binary64.mul part weight), base * 60))
    (Binary64.ofDecimal false 0 0, 1)
  return sum

def floatValue (text : List Char) : Except ParserError Binary64 := do
  let (negative, s) ← signed (Unicode.lower text)
  let magnitude ←
    if s = ".inf".toList then .ok (.infinite false)
    else if s = ".nan".toList then .ok .nan
    else if s.contains ':' then
      sixtieths (← orUnreadable ((Chars.splitAt ':' s).mapM (numeral Numeral.float?)))
    else orUnreadable (numeral Numeral.float? s)
  return if negative then magnitude.neg else magnitude

def flagValue (text : List Char) : Except ParserError Bool :=
  let small := String.ofList (Unicode.lower text)
  if trueWords.contains small then .ok true
  else if falseWords.contains small then .ok false
  else .error .unknownWord

/-- The text without a line feed at its end. -/
def withoutFinalBreak (text : List Char) : List Char :=
  if text.getLast? = some '\n' then text.dropLast else text

/-- The value of a scalar of a kind. A moment may be followed by a line feed. -/
def scalarValue (kind : Kind) (text : String) : Except ParserFault Value :=
  match kind with
  | .null => .ok .null
  | .text => .ok (.text text)
  | .bytes => match Base64.decode text.toList with
    | some bs => if text.toList.all (·.toNat < 128) then .ok (.bytes bs) else .error .malformed
    | none => .error .malformed
  | .flag => ((flagValue text.toList).map Value.flag).mapError .raised
  | .int => ((intValue text.toList).map Value.int).mapError .raised
  | .float => ((floatValue text.toList).map Value.float).mapError .raised
  | .moment => match moment? (withoutFinalBreak text.toList) with
    | some m => m.map Value.moment
    | none => .error (.raised .noMoment)
  | _ => .error .malformed

def halvesValue (kind : Kind) (codes : List Nat) : Except ParserFault Value :=
  match kind with
  | .null => .ok .null
  | .text => .ok (.halves codes)
  | .flag => .error (.raised .unknownWord)
  | .int | .float => .error (.raised .unreadable)
  | .moment => .error (.raised .noMoment)
  | _ => .error .malformed

def Node.kind : Node → Kind
  | .scalar kind _ => kind
  | .halves kind _ => kind
  | .sequence kind _ => kind
  | .mapping kind _ => kind
  | .enclosing => .unknown

mutual
/-- The entries of a mapping after merging: those that are merged in come before its own. -/
def flatten (entries : List (Node × Node)) : Except ParserFault (List (Node × Node)) := do
  return (← mergedIn entries) ++ entries.filter fun e => e.1.kind ≠ .merge
termination_by (sizeOf entries, 1)
def mergedIn : List (Node × Node) → Except ParserFault (List (Node × Node))
  | [] => .ok []
  | (k, v) :: rest => do
    let first ← if k.kind = .merge then mergedEntries v else .ok []
    return first ++ (← mergedIn rest)
termination_by entries => (sizeOf entries, 0)
/-- The entries that a node merges into a mapping; of several mappings the first one's come last. -/
def mergedEntries : Node → Except ParserFault (List (Node × Node))
  | .mapping _ entries => flatten entries
  | .sequence _ items => mergedItems items
  | .enclosing => .ok []
  | _ => .error .malformed
termination_by n => (sizeOf n, 0)
/-- The entries of the mappings in a sequence, in reverse order of the mappings. -/
def mergedItems : List Node → Except ParserFault (List (Node × Node))
  | [] => .ok []
  | .mapping _ entries :: rest => do
    let first ← flatten entries
    return (← mergedItems rest) ++ first
  | .enclosing :: rest => mergedItems rest
  | _ :: _ => .error .malformed
termination_by items => (sizeOf items, 0)
end

/-- Whether nodes of a kind are looked into only after all nodes around them. -/
def Kind.isLate : Kind → Bool
  | .sequence | .pairs | .mapping | .set => true
  | _ => false

def Node.asKey : Node → Node
  | .scalar .defaultValue text => .scalar .text text
  | .halves .defaultValue codes => .halves .text codes
  | n => n

mutual
/-- The value of a node that a tag makes a scalar of a kind. A mapping counts as its default value. -/
def Node.scalarOf (kind : Kind) : Node → Except ParserFault Value
  | .scalar _ text => scalarValue kind text
  | .halves _ codes => halvesValue kind codes
  | .mapping _ entries => defaultOf kind entries
  | _ => .error .malformed
def defaultOf (kind : Kind) : List (Node × Node) → Except ParserFault Value
  | [] => .error .malformed
  | (k, v) :: rest => if k.kind = .defaultValue then v.scalarOf kind else defaultOf kind rest
end

/-- The entry of a mapping that has one only, as an item of a list of pairs. -/
def Node.pair : Node → Except ParserFault (Node × Node)
  | .mapping _ [entry] => .ok entry
  | _ => .error .malformed

/-- The value of a node, which may hold further values. Entries that are merged in make a mapping
larger than it is written, so the depth of what is left to read is bounded by `fuel`. -/
def Node.value : Nat → Node → Except ParserFault Value
  | 0, _ => .error (.raised .tooDeep)
  | fuel + 1, n => match n with
    | .enclosing => .ok .endless
    | .sequence .sequence items => (items.mapM (Node.value fuel)).map Value.list
    | .sequence .tuple items => (items.mapM (Node.value fuel)).map Value.tuple
    | .sequence .pairs items => do
      let pairs ← items.mapM fun item => do
        let (k, v) ← item.pair
        return Value.tuple [← Node.value fuel k, ← Node.value fuel v]
      return .list pairs
    | .mapping .mapping entries => (valuesOf fuel entries).map Value.ofEntries
    | .mapping .set entries => do return .ofItems ((← valuesOf fuel entries).map (·.1))
    | n => n.scalarOf n.kind
where
  /-- The values of entries after merging. That a tuple cannot be a key shows only when the entry is
  made, unlike with sequences and mappings. -/
  valuesOf (fuel : Nat) (entries : List (Node × Node)) : Except ParserFault (List (Value × Value)) := do
    (← flatten entries).mapM fun (k, v) => do
      let key ← Node.value fuel k.asKey
      if key.isOpen then throw .malformed
      let value ← Node.value fuel v
      if !key.isKey then throw (.raised .unfitKey)
      return (key, value)

mutual
def Node.meet : Node → Except ParserFault Unit
  | .enclosing => .ok ()
  | .sequence .tuple items => meetAll items
  | n =>
    if n.kind.isLate then .ok ()
    else match n.scalarOf n.kind with
      | .ok _ => .ok ()
      | .error fault => .error fault
/-- The first fault of some nodes that shows at once. -/
def meetAll : List Node → Except ParserFault Unit
  | [] => .ok ()
  | n :: rest => do
    n.meet
    meetAll rest
end

mutual
/-- The nodes that are looked into after a node around them: the node itself, or what a tuple holds. -/
def Node.late : Node → List Node
  | .sequence .tuple items => lateAmong items
  | n => if n.kind.isLate then [n] else []
def lateAmong : List Node → List Node
  | [] => []
  | n :: rest => n.late ++ lateAmong rest
end

/-- The nodes in a sequence or mapping that are looked into after it, once all nodes in it have been
met. A key is looked into at once, down to its depth. -/
def Node.lookInto (depth : Nat) : Node → Except ParserFault (List Node)
  | .sequence .sequence items => do
    meetAll items
    return lateAmong items
  | .sequence .pairs items => do
    let found ← items.mapM fun item => do
      let (k, v) ← item.pair
      k.meet
      v.meet
      return lateAmong [k, v]
    return found.flatten
  | .mapping .mapping entries | .mapping .set entries => do
    let entries ← flatten entries
    entries.forM fun (k, v) => do
      let key ← Node.value depth k.asKey
      if key.isOpen then throw .malformed
      v.meet
      if !key.isKey then throw (.raised .unfitKey)
    return lateAmong (entries.map (·.2))
  | _ => .error .malformed

/-- The first fault in nodes and what they hold, level by level: nodes that lie deeper come later.
There are no more levels than `fuel`. -/
def checkLevels (depth : Nat) : Nat → List Node → Except ParserFault Unit
  | _, [] => .ok ()
  | 0, _ :: _ => .error (.raised .tooDeep)
  | fuel + 1, nodes => do checkLevels depth fuel (← nodes.mapM (Node.lookInto depth)).flatten

/-- The value of the one document of a text; null when the text holds none. Faults are found level by
level, so they are looked for before the value is made. -/
def read (tagNames : TagNames) (maxDepth : Nat) (text : List Char) : Except ParserFault Value := do
  let depth := text.length + 2
  match ← Node.ofText? tagNames maxDepth text with
  | some n =>
    n.meet
    checkLevels depth depth n.late
    n.value depth
  | none => return .null

end StubPlan.Yaml
