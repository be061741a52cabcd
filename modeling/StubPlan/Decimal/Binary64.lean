/-! Binary floating point with 53 bits of precision, as exact numbers. A rational number is rounded
to the nearest one, and a tie goes to the even mantissa. -/
namespace StubPlan

/-- A binary64 number. A finite one is `mantissa * 2 ^ exponent`, with 53 bits in the mantissa
unless the exponent is the least one. -/
inductive Binary64 where
  | nan
  | infinite (negative : Bool)
  | finite (negative : Bool) (mantissa : Nat) (exponent : Int)
  deriving DecidableEq, Repr

def twoTo (k : Nat) : Nat := Nat.pow 2 k

def tenTo (k : Nat) : Nat := Nat.pow 10 k

/-- The quotient rounded to the nearest integer, a half to the even one. -/
def roundDiv (num den : Nat) : Nat :=
  let q := num / den
  let r := num % den
  if 2 * r < den then q else if den < 2 * r then q + 1 else q + q % 2

namespace Binary64

def minExponent : Int := -1074

def maxExponent : Int := 971

/-- The ratio `num / (den * 2 ^ exponent)`. -/
def scale (num den : Nat) (exponent : Int) : Nat × Nat :=
  match exponent with
  | .ofNat k => (num, den * twoTo k)
  | .negSucc k => (num * twoTo (k + 1), den)

def ofRatio (negative : Bool) (num den : Nat) : Binary64 :=
  if num = 0 then .finite negative 0 minExponent
  else
    let guess := (Nat.log2 num : Int) - Nat.log2 den - 52
    let (n, d) := scale num den guess
    let exponent := max (if n / d < twoTo 52 then guess - 1 else guess) minExponent
    let (n, d) := scale num den exponent
    let mantissa := roundDiv n d
    let (mantissa, exponent) :=
      if mantissa = twoTo 53 then (twoTo 52, exponent + 1) else (mantissa, exponent)
    if exponent > maxExponent then .infinite negative else .finite negative mantissa exponent

def digitCount (n : Nat) : Nat := (Nat.toDigits 10 n).length

/-- The number nearest to `digits * 10 ^ exponent`. Beyond 400 places on either side nothing but
zero and infinity is near. -/
def ofDecimal (negative : Bool) (digits : Nat) (exponent : Int) : Binary64 :=
  let places := (digitCount digits : Int) + exponent
  if digits = 0 ∨ places < -400 then .finite negative 0 minExponent
  else if places > 400 then .infinite negative
  else match exponent with
    | .ofNat k => ofRatio negative (digits * tenTo k) 1
    | .negSucc k => ofRatio negative digits (tenTo (k + 1))

def signed? : Binary64 → Option (Int × Int)
  | .finite negative m e => some (if negative then -(m : Int) else m, e)
  | _ => none

def toInt? (x : Binary64) : Option Int :=
  match x.signed? with
  | some (m, .ofNat k) => some (m * twoTo k)
  | some (m, .negSucc k) => if m % twoTo (k + 1) = 0 then some (m / twoTo (k + 1)) else none
  | none => none

/-- The rounded ratio of an integer scaled by a power of two. -/
def ofScaled (exact : Int) (e : Int) : Binary64 :=
  let negative : Bool := exact < 0
  match e with
  | .ofNat k => ofRatio negative (exact.natAbs * twoTo k) 1
  | .negSucc k => ofRatio negative exact.natAbs (twoTo (k + 1))

def isNegative : Binary64 → Bool
  | .nan => false
  | .infinite negative => negative
  | .finite negative m _ => negative && m ≠ 0

/-- Whether a number is equal to zero, of either sign. -/
def isZero : Binary64 → Bool
  | .finite _ m _ => m == 0
  | _ => false

/-- The rounded sum of two numbers. Infinities of different signs have none. -/
def add (x y : Binary64) : Binary64 :=
  match x, y with
  | .nan, _ | _, .nan => .nan
  | .infinite a, .infinite b => if a = b then .infinite a else .nan
  | .infinite a, _ | _, .infinite a => .infinite a
  | x, y => match x.signed?, y.signed? with
    | some (a, e), some (b, f) =>
      let low := min e f
      ofScaled (a * twoTo (e - low).toNat + b * twoTo (f - low).toNat) low
    | _, _ => .nan

/-- The rounded product of two numbers. Zero and infinity have none. -/
def mul (x y : Binary64) : Binary64 :=
  match x, y with
  | .nan, _ | _, .nan => .nan
  | .infinite _, z | z, .infinite _ =>
    if z.isZero then .nan else .infinite (x.isNegative != y.isNegative)
  | x, y => match x.signed?, y.signed? with
    | some (a, e), some (b, f) => ofScaled (a * b) (e + f)
    | _, _ => .nan

def neg : Binary64 → Binary64
  | .nan => .nan
  | .infinite negative => .infinite !negative
  | .finite negative m e => .finite (!negative) m e

end Binary64
end StubPlan
