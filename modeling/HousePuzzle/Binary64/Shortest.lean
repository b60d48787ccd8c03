import HousePuzzle.Binary64

/-!
Binary floating-point numbers as text: the fewest digits that read back as the same number, and
of those the nearest. Digits stand around the point while the number is below 10^16 and not below
10^-4; otherwise an exponent of at least two digits follows.
-/

namespace HousePuzzle.Binary64

open Numeral (writeNat)

/-- `num / den` times a power of ten, as a quotient again. -/
def scaleTen (k : Int) (num den : Nat) : Nat × Nat :=
  (num * power 10 k, den * power 10 (-k))

/-- The power of ten that a positive quotient reaches: `10 ^ e ≤ num / den < 10 ^ (e + 1)`. -/
def decimalExponent (num den : Nat) : Int :=
  if den ≤ num then (Nat.toDigits 10 (num / den)).length - 1
  else
    let k := (Nat.toDigits 10 (den / num)).length
    if den ≤ num * power 10 (k - 1) then -((k : Int) - 1) else -(k : Int)

/-- The numbers that read back as `m * 2 ^ q` lie between two bounds, which count only when the
mantissa is even. The value and its bounds are given in units of `2 ^ (q - 2)`. -/
structure Interval where
  value : Nat
  low : Nat
  high : Nat
  closed : Bool
  unit : Int

def interval (m : Nat) (q : Int) : Interval :=
  let below := if m = power 2 52 ∧ leastExponent < q then 1 else 2
  ⟨4 * m, 4 * m - below, 4 * m + 2, m % 2 = 0, q - 2⟩

/-- Whether `d * 10 ^ p` reads back. -/
def Interval.has (i : Interval) (d : Nat) (p : Int) : Bool :=
  let point := d * power 10 p * power 2 (-i.unit)
  let times := power 10 (-p) * power 2 i.unit
  if i.closed then i.low * times ≤ point && point ≤ i.high * times
  else i.low * times < point && point < i.high * times

/-- The decimal of `n` digits that reads back, if there is one; of two the nearer, of two equally
near the even one. -/
def Interval.digits? (i : Interval) (n : Nat) : Option (Nat × Int) :=
  let num := i.value * power 2 i.unit
  let den := power 2 (-i.unit)
  let p := decimalExponent num den - n + 1
  let (num, den) := scaleTen (-p) num den
  let d := num / den
  match i.has d p, i.has (d + 1) p with
  | true, true => some (roundEven num den, p)
  | true, false => some (d, p)
  | false, true => some (d + 1, p)
  | false, false => none

/-- Seventeen digits always suffice. -/
def shortest (m : Nat) (q : Int) : Nat × Int :=
  let i := interval m q
  ((List.range 17).findSome? fun n => i.digits? (n + 1)).getD (0, 0)

/-- Digits without zeros at the end, and the place of the point after the first of them. -/
def significand (m : Nat) (q : Int) : List Char × Int :=
  let (d, p) := shortest m q
  let cs := Nat.toDigits 10 d
  ((cs.reverse.dropWhile (· = '0')).reverse, cs.length + p)

def layout (digits : List Char) (point : Int) : List Char :=
  if point ≤ -4 ∨ 16 < point then
    let e := point - 1
    let mark := if e < 0 then '-' else '+'
    let tail := if digits.length ≤ 1 then [] else '.' :: digits.drop 1
    digits.take 1 ++ tail ++ 'e' :: mark :: Text.padLeft 2 '0' (Nat.toDigits 10 e.natAbs)
  else if point ≤ 0 then '0' :: '.' :: List.replicate (-point).toNat '0' ++ digits
  else if digits.length ≤ point.toNat then
    digits ++ List.replicate (point.toNat - digits.length) '0' ++ ['.', '0']
  else digits.take point.toNat ++ '.' :: digits.drop point.toNat

def writeFinite (m : Nat) (q : Int) : List Char :=
  if m = 0 then ['0', '.', '0']
  else
    let (digits, point) := significand m q
    layout digits point

def write : Binary64 → String
  | .finite negative m q =>
    (if negative then "-" else "") ++ String.ofList (writeFinite m q)
  | .infinite negative => (if negative then "-" else "") ++ "inf"
  | .nan => "nan"

end HousePuzzle.Binary64
