/-! UTF-8. A byte sequence that encodes nothing is told apart from the characters around it: it ends
at the first byte that cannot continue it, so one truncated character is one such sequence. -/
namespace StubPlan.Utf8

/-- A character whose bytes have been read in part: how many are still to come, the range of the
next one, and the bits read so far. -/
structure Pending where
  missing : Nat
  low : Nat
  high : Nat
  bits : Nat

/-- What a byte does between two characters: the output it completes, and the character it opens.
An output without a character stands for bytes that encode nothing. -/
def start (b : Nat) : List (Option Char) × Option Pending :=
  if b < 0x80 then ([some (Char.ofNat b)], none)
  else if 0xC2 ≤ b ∧ b ≤ 0xDF then ([], some ⟨1, 0x80, 0xBF, b - 0xC0⟩)
  else if b = 0xE0 then ([], some ⟨2, 0xA0, 0xBF, 0⟩)
  else if b = 0xED then ([], some ⟨2, 0x80, 0x9F, 0xD⟩)
  else if 0xE1 ≤ b ∧ b ≤ 0xEF then ([], some ⟨2, 0x80, 0xBF, b - 0xE0⟩)
  else if b = 0xF0 then ([], some ⟨3, 0x90, 0xBF, 0⟩)
  else if 0xF1 ≤ b ∧ b ≤ 0xF3 then ([], some ⟨3, 0x80, 0xBF, b - 0xF0⟩)
  else if b = 0xF4 then ([], some ⟨3, 0x80, 0x8F, 4⟩)
  else ([none], none)

/-- What a byte does, given the character that is being read. -/
def step (pending : Option Pending) (b : Nat) : List (Option Char) × Option Pending :=
  match pending with
  | none => start b
  | some p =>
    if p.low ≤ b ∧ b ≤ p.high then
      let bits := p.bits * 64 + (b - 0x80)
      if p.missing ≤ 1 then ([some (Char.ofNat bits)], none)
      else ([], some ⟨p.missing - 1, 0x80, 0xBF, bits⟩)
    else
      let (output, next) := start b
      (none :: output, next)

/-- The characters of a byte sequence, with `none` for every part that encodes nothing. -/
def scan (pending : Option Pending) : List UInt8 → List (Option Char)
  | [] => if pending.isSome then [none] else []
  | b :: rest =>
    let (output, next) := step pending b.toNat
    output ++ scan next rest

/-- The text that the bytes encode, with U+FFFD for every part that encodes nothing. -/
def decodeLossy (bytes : List UInt8) : List Char :=
  (scan none bytes).map (·.getD (Char.ofNat 0xFFFD))

/-- What is wrong with bytes that encode nothing. -/
inductive FaultKind where
  | notAStart
  | notAContinuation
  | unfinished
  deriving DecidableEq, Repr

/-- Bytes that encode nothing: where they begin, how many they are, and the first of them. -/
structure Fault where
  offset : Nat
  length : Nat
  first : Nat
  kind : FaultKind
  deriving DecidableEq, Repr

/-- The first bytes that encode nothing. The character that is being read has begun with `first`,
`length` bytes before the byte at `offset`. -/
def findFault (pending : Option Pending) (first length offset : Nat) : List UInt8 → Option Fault
  | [] => if pending.isSome then some ⟨offset - length, length, first, .unfinished⟩ else none
  | b :: rest =>
    match pending, step pending b.toNat with
    | none, ([none], _) => some ⟨offset, 1, b.toNat, .notAStart⟩
    | some _, (none :: _, _) => some ⟨offset - length, length, first, .notAContinuation⟩
    | none, (_, next) => findFault next b.toNat 1 (offset + 1) rest
    | some _, (_, next) => findFault next first (length + 1) (offset + 1) rest

/-- The first bytes that encode nothing, if there are any. -/
def fault? (bytes : List UInt8) : Option Fault := findFault none 0 0 0 bytes

/-- The text that the bytes encode, if they all encode something. -/
def decode (bytes : List UInt8) : Except Fault (List Char) :=
  match fault? bytes with
  | some f => .error f
  | none => .ok (decodeLossy bytes)

def FaultKind.words : FaultKind → String
  | notAStart => "invalid start byte"
  | notAContinuation => "invalid continuation byte"
  | unfinished => "unexpected end of data"

/-- The text that reports a fault; a single byte is shown, of several the positions. -/
def Fault.message (f : Fault) : String :=
  let place :=
    if f.length = 1 then
      "byte 0x" ++ String.ofList (Nat.toDigits 16 f.first) ++ " in position " ++ toString f.offset
    else
      "bytes in position " ++ toString f.offset ++ "-" ++ toString (f.offset + f.length - 1)
  "'utf-8' codec can't decode " ++ place ++ ": " ++ f.kind.words

end StubPlan.Utf8
