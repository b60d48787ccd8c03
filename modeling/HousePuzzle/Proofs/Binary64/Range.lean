import HousePuzzle.Binary64
import HousePuzzle.Proofs.Numeral
import Mathlib.Algebra.Order.Field.Power
import Mathlib.Algebra.Order.Ring.Rat
import Mathlib.Tactic.Positivity
import Mathlib.Tactic.Ring

/-!
What is read as a binary number has 64 bits: a mantissa below 2^53 and an exponent within its
bounds, in the one form that a number has.
-/

namespace HousePuzzle.Binary64

/-- The mantissa has all its bits, unless the exponent is the least one. -/
structure IsNormal (m : Nat) (q : Int) : Prop where
  mantissa_lt : m < 2 ^ 53
  least_le : leastExponent ≤ q
  le_greatest : q ≤ greatestExponent
  full : 2 ^ 52 ≤ m ∨ q = leastExponent

def Normal : Binary64 → Prop
  | .finite _ m q => IsNormal m q
  | _ => True

theorem normal_zero (negative : Bool) : (zero negative).Normal :=
  ⟨by decide, le_rfl, by decide, .inr rfl⟩

section Scaled

variable {num den : Nat}

/-- A quotient is below a power of two, said without fractions. -/
theorem scaled_lt_iff (t : Int) :
    num * power 2 (-t) < den * power 2 t ↔ (num : ℚ) < den * 2 ^ t := by
  obtain ⟨n, rfl | rfl⟩ := t.eq_nat_or_neg
  · have hone : power 2 (-(n : Int)) = 1 := by simp [power]
    have hpower : power 2 (n : Int) = 2 ^ n := rfl
    rw [hone, hpower, Nat.mul_one, zpow_natCast]
    exact_mod_cast Iff.rfl
  · have hone : power 2 (-(n : Int)) = 1 := by simp [power]
    have hpower : power 2 (- -(n : Int)) = 2 ^ n := by simp [power]
    rw [hone, hpower, Nat.mul_one, zpow_neg, zpow_natCast, ← div_eq_mul_inv,
      lt_div_iff₀ (by positivity)]
    exact_mod_cast Iff.rfl

theorem le_scaled_iff (t : Int) :
    den * power 2 t ≤ num * power 2 (-t) ↔ (den : ℚ) * 2 ^ t ≤ num := by
  rw [← not_lt, ← not_lt, scaled_lt_iff]

/-- The logarithms of two numbers tell their quotient, but for a factor of two on each side. -/
theorem quotient_bounds (hnum : num ≠ 0) (hden : den ≠ 0) :
    (den : ℚ) * 2 ^ ((Nat.log2 num : Int) - Nat.log2 den - 1) ≤ num ∧
      (num : ℚ) < den * 2 ^ ((Nat.log2 num : Int) - Nat.log2 den + 1) := by
  have hnumLow : (2 : ℚ) ^ (Nat.log2 num : Int) ≤ num := by
    exact_mod_cast Nat.log2_self_le hnum
  have hnumHigh : (num : ℚ) < 2 ^ (Nat.log2 num + 1 : Int) := by
    exact_mod_cast Nat.lt_log2_self
  have hdenLow : (2 : ℚ) ^ (Nat.log2 den : Int) ≤ den := by
    exact_mod_cast Nat.log2_self_le hden
  have hdenHigh : (den : ℚ) < 2 ^ (Nat.log2 den + 1 : Int) := by
    exact_mod_cast Nat.lt_log2_self
  have hadd (a b : Int) : (2 : ℚ) ^ a * 2 ^ b = 2 ^ (a + b) := (zpow_add₀ two_ne_zero a b).symm
  constructor
  · calc (den : ℚ) * 2 ^ ((Nat.log2 num : Int) - Nat.log2 den - 1)
        ≤ 2 ^ (Nat.log2 den + 1 : Int) * 2 ^ ((Nat.log2 num : Int) - Nat.log2 den - 1) := by gcongr
      _ = 2 ^ (Nat.log2 num : Int) := by rw [hadd]; congr 1; omega
      _ ≤ num := hnumLow
  · calc (num : ℚ)
        < 2 ^ (Nat.log2 num + 1 : Int) := hnumHigh
      _ = 2 ^ (Nat.log2 den : Int) * 2 ^ ((Nat.log2 num : Int) - Nat.log2 den + 1) := by
        rw [hadd]; congr 1; omega
      _ ≤ den * 2 ^ ((Nat.log2 num : Int) - Nat.log2 den + 1) := by gcongr

theorem le_roundEven {low : Nat} (hden : den ≠ 0) (h : low * den ≤ num) :
    low ≤ roundEven num den := by
  have hdiv : low ≤ num / den := (Nat.le_div_iff_mul_le (Nat.pos_of_ne_zero hden)).2 h
  unfold roundEven
  dsimp only
  split_ifs <;> omega

theorem roundEven_le {high : Nat} (h : num < high * den) : roundEven num den ≤ high := by
  have hdiv : num / den < high := Nat.div_lt_of_lt_mul (by rwa [Nat.mul_comm])
  unfold roundEven
  dsimp only
  split_ifs <;> omega

end Scaled

/-- The exponent is chosen so that the mantissa gets all its bits. -/
theorem exponent_bounds {num den : Nat} (hnum : num ≠ 0) (hden : den ≠ 0) {s q : Int}
    (hs : s = (Nat.log2 num : Int) - Nat.log2 den)
    (hq : q = if den * power 2 s ≤ num * power 2 (-s) then s - 52 else s - 53) :
    (den : ℚ) * 2 ^ (q + 52) ≤ num ∧ (num : ℚ) < den * 2 ^ (q + 53) := by
  obtain ⟨hlow, hhigh⟩ := quotient_bounds hnum hden
  rw [← hs] at hlow hhigh
  split at hq
  · next hreaches =>
    have hhigher : q + 53 = s + 1 := by omega
    rw [hhigher, hq, Int.sub_add_cancel]
    exact ⟨(le_scaled_iff s).1 hreaches, hhigh⟩
  · next hreaches =>
    have hlower : q + 52 = s - 1 := by omega
    rw [hlower, hq, Int.sub_add_cancel]
    exact ⟨hlow, (scaled_lt_iff s).1 (Nat.not_le.1 hreaches)⟩

/-- A mantissa that was rounded up to one bit more is halved. -/
theorem normal_carry (negative : Bool) {m : Nat} {q : Int} (hm : m ≤ 2 ^ 53)
    (hq : leastExponent ≤ q) (hfull : 2 ^ 52 ≤ m ∨ q = leastExponent) :
    (let (m, q) := if m = power 2 53 then (power 2 52, q + 1) else (m, q)
      if greatestExponent < q then infinite negative else finite negative m q).Normal := by
  have hlimit : power 2 53 = 2 ^ 53 := rfl
  have hhalf : power 2 52 = 2 ^ 52 := rfl
  rw [hlimit, hhalf]
  by_cases hcarry : m = 2 ^ 53
  · rw [if_pos hcarry]
    dsimp only
    split
    · trivial
    · exact ⟨by decide, by omega, by omega, .inl le_rfl⟩
  · rw [if_neg hcarry]
    dsimp only
    split
    · trivial
    · exact ⟨by omega, hq, by omega, hfull⟩

theorem normal_ofQuotient (negative : Bool) {num den : Nat} (hnum : num ≠ 0) (hden : den ≠ 0) :
    (ofQuotient negative num den).Normal := by
  unfold ofQuotient
  extract_lets s reaches q m
  obtain ⟨e, he⟩ : ∃ e : Int, e = if reaches then s - 52 else s - 53 := ⟨_, rfl⟩
  obtain ⟨hlow, hhigh⟩ := exponent_bounds hnum hden (s := s) rfl he
  have hq : q = max e leastExponent := by rw [he]
  have hle : e ≤ q := hq ▸ le_max_left e leastExponent
  have hleast : leastExponent ≤ q := hq ▸ le_max_right e leastExponent
  have hscaled : den * power 2 q ≠ 0 :=
    Nat.mul_ne_zero hden (Nat.pos_iff_ne_zero.1 (Nat.pow_pos (by decide)))
  have hbelow : num * power 2 (-q) < 2 ^ 53 * (den * power 2 q) := by
    rw [← Nat.mul_assoc, scaled_lt_iff]
    calc (num : ℚ)
        < den * 2 ^ (e + 53) := hhigh
      _ ≤ den * 2 ^ (q + 53) := by
        gcongr
        exact one_le_two
      _ = (2 ^ 53 * den : ℕ) * 2 ^ q := by
        rw [zpow_add₀ two_ne_zero]; push_cast; ring
  have hm : m ≤ 2 ^ 53 := roundEven_le hbelow
  refine normal_carry negative hm hleast ?_
  rcases max_choice e leastExponent with hchoice | hchoice
  · have hqe : q = e := hq.trans hchoice
    have habove : 2 ^ 52 * (den * power 2 q) ≤ num * power 2 (-q) := by
      rw [← Nat.mul_assoc, le_scaled_iff]
      calc ((2 ^ 52 * den : ℕ) : ℚ) * 2 ^ q
          = den * 2 ^ (e + 52) := by
            rw [zpow_add₀ two_ne_zero, hqe]; push_cast; ring
        _ ≤ num := hlow
    exact .inl (le_roundEven hscaled habove)
  · exact .inr (hq.trans hchoice)

/-- What is read has 64 bits, however it is spelled. -/
theorem normal_ofDecimal (negative : Bool) (digits : Nat) (scale : Int) :
    (ofDecimal negative digits scale).Normal := by
  have hpower (scale : Int) : power 10 scale ≠ 0 :=
    Nat.pos_iff_ne_zero.1 (Nat.pow_pos (by decide))
  unfold ofDecimal
  split_ifs with hdigits
  · exact normal_zero negative
  · trivial
  · exact normal_zero negative
  · exact normal_ofQuotient negative (Nat.mul_ne_zero hdigits (hpower scale)) (hpower (-scale))

/-- The whole part of such a number is not greater than the number. -/
theorem natAbs_truncate_lt {m : Nat} {q : Int} (h : IsNormal m q) (negative : Bool) :
    (truncate negative m q).natAbs < 2 ^ (53 + greatestExponent.toNat) := by
  have hexponent : q.toNat ≤ greatestExponent.toNat := Int.toNat_le_toNat h.le_greatest
  rw [truncate, Numeral.natAbs_signed]
  calc m * power 2 q / power 2 (-q)
      ≤ m * power 2 q := Nat.div_le_self _ _
    _ ≤ m * 2 ^ greatestExponent.toNat :=
        Nat.mul_le_mul_left m (Nat.pow_le_pow_right (by decide) hexponent)
    _ < 2 ^ 53 * 2 ^ greatestExponent.toNat :=
        Nat.mul_lt_mul_of_pos_right h.mantissa_lt (Nat.pow_pos (by decide))
    _ = 2 ^ (53 + greatestExponent.toNat) := (pow_add 2 53 _).symm

end HousePuzzle.Binary64
