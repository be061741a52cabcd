import StubPlan.Decimal.Binary64

/-! The decimal text of a binary number: the fewest digits that read back as the same number, and
of those the nearest to it. -/
namespace StubPlan.Binary64

/-- The ratio `num / (den * 10 ^ exponent)`. -/
def decimalScale (num den : Nat) : Int → Nat × Nat
  | .ofNat k => (num, den * tenTo k)
  | .negSucc k => (num * tenTo (k + 1), den)

/-- How many digits stand before the decimal point of `num / den`; when zeros follow the point, how
many do, negated. -/
def pointPosition (num den : Nat) : Int :=
  (digitCount (num * tenTo 340 / den) : Int) - 340

/-- The neighbour of a number on the grid of multiples of `10 ^ grid` that reads back as the number;
of two the nearer one, of two equally near the even one. -/
def gridPoint? (mantissa : Nat) (exponent grid : Int) : Option Nat :=
  let (num, den) := scale mantissa 1 (-exponent)
  let (n, d) := decimalScale num den grid
  let below := n / d
  let readsBack (k : Nat) : Bool := ofDecimal false k grid = .finite false mantissa exponent
  match readsBack below, readsBack (below + 1) with
  | true, true => some (roundDiv n d)
  | true, false => some below
  | false, true => some (below + 1)
  | false, false => none

/-- The neighbour of a positive number on the widest grid that has one, and the grid. -/
def widest? (mantissa : Nat) (exponent : Int) : Option (Nat × Int) :=
  let (num, den) := scale mantissa 1 (-exponent)
  let position := pointPosition num den
  let grids := (List.range 17).map fun k => position - (k + 1 : Nat)
  grids.findSome? fun g => (gridPoint? mantissa exponent g).map (·, g)

/-- The digits of a multiple of a power of ten and the position of the point in them. -/
def significant : Option (Nat × Int) → List Char × Int
  | some (point, grid) =>
    let digits := Nat.toDigits 10 point
    ((digits.reverse.dropWhile (· = '0')).reverse, digits.length + grid)
  | none => (['0'], 1)

/-- The digits of a positive number and the position of the point in them. -/
def shortest (mantissa : Nat) (exponent : Int) : List Char × Int :=
  significant (widest? mantissa exponent)

/-- Digits with a decimal point in them, and at least one digit on either side of it. -/
def positional (digits : List Char) (position : Int) : List Char :=
  match position with
  | .ofNat 0 => '0' :: '.' :: digits
  | .negSucc k => '0' :: '.' :: (List.replicate (k + 1) '0' ++ digits)
  | .ofNat k =>
    let whole := digits.take k ++ List.replicate (k - digits.length) '0'
    whole ++ '.' :: (if digits.length ≤ k then ['0'] else digits.drop k)

/-- Digits with one of them before the point, and an exponent of at least two digits. -/
def scientific (digits : List Char) (position : Int) : List Char :=
  let e := position - 1
  let places := Nat.toDigits 10 e.natAbs
  let fraction := if digits.length ≤ 1 then [] else '.' :: digits.drop 1
  digits.take 1 ++ fraction ++ ['e', if e < 0 then '-' else '+'] ++
    (if places.length < 2 then '0' :: places else places)

/-- Digits written with a point at a position: positional from `1e-4` up to, but not including,
`1e16`. -/
def laidOut : List Char × Int → List Char
  | (digits, position) =>
    if -4 < position ∧ position ≤ 16 then positional digits position
    else scientific digits position

def written : Binary64 → String
  | .nan => "nan"
  | .infinite negative => if negative then "-inf" else "inf"
  | .finite negative m e =>
    let text := laidOut (if m = 0 then (['0'], 1) else shortest m e)
    String.ofList (if negative then '-' :: text else text)

end StubPlan.Binary64
