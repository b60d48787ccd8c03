/-! Sets of characters as ranges of code points, in ascending order. -/

namespace HousePuzzle.Text

abbrev CharSet := List (Nat × Nat)

/-- The ranges ascend, so the search ends at the first one that starts above the character. -/
def CharSet.has : CharSet → Char → Bool
  | [], _ => false
  | (first, last) :: rest, c => first ≤ c.toNat && (c.toNat ≤ last || CharSet.has rest c)

@[simp] theorem CharSet.has_nil (c : Char) : CharSet.has [] c = false := rfl

@[simp] theorem CharSet.has_cons (first last : Nat) (rest : CharSet) (c : Char) :
    CharSet.has ((first, last) :: rest) c =
      (decide (first ≤ c.toNat) && (decide (c.toNat ≤ last) || CharSet.has rest c)) := rfl

end HousePuzzle.Text
