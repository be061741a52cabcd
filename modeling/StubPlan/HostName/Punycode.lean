/-! Punycode: code points beyond ASCII written with letters and digits. The code points of ASCII stay
in front, and the others are told in ascending order by how far one counts from one to the next. -/
namespace StubPlan.HostName

/-- The digit at which a number may end, for the place `j` of a digit and a bias. -/
def threshold (bias j : Nat) : Nat := min 26 (max 1 (36 * (j + 1) - bias))

theorem one_le_threshold (bias j : Nat) : 1 ≤ threshold bias j := by
  unfold threshold
  omega

/-- The character of a digit: letters first, then decimal digits. -/
def digitChar (d : Nat) : Char := Char.ofNat (if d < 26 then 97 + d else 22 + d)

/-- The digit of a character; letters are read in either case. -/
def digitOf? (c : Char) : Option Nat :=
  if 'a' ≤ c ∧ c ≤ 'z' then some (c.toNat - 97)
  else if 'A' ≤ c ∧ c ≤ 'Z' then some (c.toNat - 65)
  else if '0' ≤ c ∧ c ≤ '9' then some (c.toNat - 22)
  else none

/-- The part of a bias that divisions of a distance make, and what is left of the distance. -/
def halve (distance divisions : Nat) : Nat × Nat :=
  if 455 < distance then halve (distance / 35) (divisions + 36) else (distance, divisions)
termination_by distance
decreasing_by exact Nat.div_lt_self (by omega) (by omega)

/-- The bias after a distance, when `count` code points have been told. -/
def nextBias (first : Bool) (distance count : Nat) : Nat :=
  let distance := if first then distance / 700 else distance / 2
  let (left, divisions) := halve (distance + distance / count) 0
  divisions + 36 * left / (left + 38)

/-- The digits of a distance from the place `j` on. -/
def writeDistance (bias j distance : Nat) : List Char :=
  let t := threshold bias j
  if distance < t then [digitChar distance]
  else digitChar (t + (distance - t) % (36 - t)) ::
    writeDistance bias (j + 1) ((distance - t) / (36 - t))
termination_by distance
decreasing_by
  have := one_le_threshold bias j
  have := Nat.div_le_self (distance - threshold bias j) (36 - threshold bias j)
  omega

/-- The distances to each place of a code point in a label, and the distance counted after the last
one. Only smaller code points count. -/
def distancesTo (code : Nat) : (counted : Nat) → List Nat → List Nat × Nat
  | counted, [] => ([], counted)
  | counted, c :: rest =>
    if c < code then distancesTo code (counted + 1) rest
    else if c = code then
      let (ds, counted') := distancesTo code 0 rest
      (counted :: ds, counted')
    else distancesTo code counted rest

/-- The distances that tell where code points stand in a label. `next` is the least code point that
may follow, and `told` says how many stand there already. -/
def distances (label : List Nat) (next counted told : Nat) : List Nat → List Nat
  | [] => []
  | code :: codes =>
    let (ds, counted) := distancesTo code (counted + (code - next) * (told + 1)) label
    ds ++ distances label (code + 1) (counted + 1) (told + ds.length) codes

def writeDistances (bias told : Nat) (first : Bool) : List Nat → List Char
  | [] => []
  | d :: rest =>
    writeDistance bias 0 d ++ writeDistances (nextBias first d (told + 1)) (told + 1) false rest

def firstBeyond : Nat := 128

def firstBias : Nat := 72

/-- A label in letters, digits and hyphens. -/
def punycode (label : List Nat) : List Char :=
  let basic := label.filter (· < firstBeyond)
  let beyond := ((label.filter (firstBeyond ≤ ·)).mergeSort).eraseDups
  basic.map Char.ofNat ++ (if basic = [] then [] else ['-']) ++
    writeDistances firstBias basic.length true
      (distances label firstBeyond 0 basic.length beyond)

/-- The distance here and the text after it. `weight` is the weight of the next digit, at place `j`. -/
def readDistance? (bias j weight : Nat) : List Char → Option (Nat × List Char)
  | [] => none
  | c :: rest => do
    let d ← digitOf? c
    let t := threshold bias j
    if d < t then some (d * weight, rest)
    else
      let (more, rest) ← readDistance? bias (j + 1) (weight * (36 - t)) rest
      some (d * weight + more, rest)

/-- A label with the code points put in that distances tell. `code` is the last one and `place` the
place after it. -/
def insertCodes? (label : List Nat) (bias code place : Nat) (first : Bool) (s : List Char) :
    Nat → Option (List Nat)
  | 0 => none
  | fuel + 1 =>
    if s = [] then some label
    else do
      let (distance, rest) ← readDistance? bias 0 1 s
      let count := label.length + 1
      let code := code + (place + distance) / count
      let place := (place + distance) % count
      let bias := nextBias first distance count
      if code > 0x10FFFF then none
      else insertCodes? (label.insertIdx place code) bias code (place + 1) false rest fuel

/-- The code points of a label in letters, digits and hyphens. -/
def ofPunycode? (s : List Char) : Option (List Nat) :=
  let digits := (s.reverse.takeWhile (· ≠ '-')).reverse
  let basic := (s.take (s.length - digits.length)).dropLast
  insertCodes? (basic.map Char.toNat) firstBias firstBeyond 0 true digits (digits.length + 1)

end StubPlan.HostName
