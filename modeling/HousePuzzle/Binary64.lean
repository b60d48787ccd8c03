import HousePuzzle.Numeral

/-!
Binary floating-point numbers of 64 bits, in exact arithmetic. A finite number is a mantissa
below 2^53 times a power of two; the readers here keep the mantissa at 2^52 or above unless the
exponent is the least one, so every number has one form for each sign.
-/

namespace HousePuzzle

inductive Binary64
  | finite (negative : Bool) (mantissa : Nat) (exponent : Int)
  | infinite (negative : Bool)
  | nan
  deriving DecidableEq

namespace Binary64

def leastExponent : Int := -1074

def greatestExponent : Int := 971

def zero (negative : Bool) : Binary64 :=
  .finite negative 0 leastExponent

/-- The nearest whole number to `num / den`, the even one of two. -/
def roundEven (num den : Nat) : Nat :=
  let k := num / den
  let r := num % den
  if 2 * r < den then k
  else if den < 2 * r then k + 1
  else k + k % 2

/-- A power with a negative exponent counts as one. -/
def power (base : Nat) (exponent : Int) : Nat :=
  Nat.pow base exponent.toNat

/-- The nearest binary number to a positive quotient. -/
def ofQuotient (negative : Bool) (num den : Nat) : Binary64 :=
  let s : Int := (Nat.log2 num : Int) - Nat.log2 den
  let reaches := den * power 2 s ≤ num * power 2 (-s)
  let q := max (if reaches then s - 52 else s - 53) leastExponent
  let m := roundEven (num * power 2 (-q)) (den * power 2 q)
  let (m, q) := if m = power 2 53 then (power 2 52, q + 1) else (m, q)
  if greatestExponent < q then .infinite negative else .finite negative m q

/-- The nearest binary number to `digits * 10 ^ scale`. Far outside the range the power of ten is
not worked out. -/
def ofDecimal (negative : Bool) (digits : Nat) (scale : Int) : Binary64 :=
  if digits = 0 then zero negative
  else if 400 < scale then .infinite negative
  else if (Nat.log2 digits : Int) + 3 * scale < -1100 then zero negative
  else ofQuotient negative (digits * power 10 scale) (power 10 (-scale))

/-- The whole part, toward zero. -/
def truncate (negative : Bool) (mantissa : Nat) (exponent : Int) : Int :=
  Numeral.signed negative (mantissa * power 2 exponent / power 2 (-exponent))

def isWhole : Binary64 → Bool
  | .finite _ m q => m % power 2 (-q) = 0
  | _ => false

def equalsInt (n : Int) : Binary64 → Bool
  | .finite s m q => n * power 2 (-q) = Numeral.signed s (m * power 2 q)
  | _ => false

/-- No whole number is at most `nan`. -/
def intLe (n : Int) : Binary64 → Bool
  | .finite s m q => n * power 2 (-q) ≤ Numeral.signed s (m * power 2 q)
  | .infinite negative => !negative
  | .nan => false

/-- The two zeros are equal, and here `nan` equals itself. -/
def sameValue : Binary64 → Binary64 → Bool
  | .finite s m q, .finite s' m' q' =>
    Numeral.signed s (m * power 2 (q - q')) = Numeral.signed s' (m' * power 2 (q' - q))
  | .infinite s, .infinite s' => s = s'
  | .nan, .nan => true
  | _, _ => false

def isZero : Binary64 → Bool
  | .finite _ m _ => m = 0
  | _ => false

end Binary64

end HousePuzzle
