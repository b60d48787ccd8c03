import HousePuzzle.Numeral
import HousePuzzle.Proofs.Validation
import Mathlib.Data.Set.Function

/-!
Solutions of a puzzle: houses for its values, of each category one value for each house, in which
every rule holds.
-/

namespace HousePuzzle

variable {s : String → Int} {p : Puzzle} {o : Operand}

/-- The numbers of the first `n` houses. -/
def HouseNumbers (n : Int) : Set Int :=
  {k | 1 ≤ k ∧ k ≤ n}

/-- The house that a side of a rule is about, in a solution that gives values their houses. -/
def Operand.house? (s : String → Int) (o : Operand) : Option Int :=
  if o.isPosition then (Numeral.read o.value).toOption else some (s o.value)

def Operator.Relates (left right : Int) : Operator → Prop
  | .same => left = right
  | .next => (left - right).natAbs = 1
  | .right => left = right + 1
  | .left => left = right - 1

def Rule.Holds (s : String → Int) (r : Rule) : Prop :=
  r.isVoid = true ∨
    ∃ h k, r.left.house? s = some h ∧ r.right.house? s = some k ∧ r.operator.Relates h k

structure Puzzle.Solves (p : Puzzle) (s : String → Int) : Prop where
  bijective : ∀ e ∈ p.domains.domains, Set.BijOn s {v | v ∈ e.2} (HouseNumbers p.houses)
  rules : ∀ r ∈ p.rules, r.Holds s

/-- No name of a category and no value ends in a line feed. -/
def Puzzle.Unbroken (p : Puzzle) : Prop :=
  ∀ e ∈ p.domains.domains, ¬ Name.EndsInLine e.1 ∧ ∀ v ∈ e.2, ¬ Name.EndsInLine v

instance : Decidable p.Unbroken :=
  inferInstanceAs (Decidable (∀ e ∈ p.domains.domains, _))

end HousePuzzle
