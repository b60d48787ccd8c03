import HousePuzzle.Proofs.Compilation.AnswerSets
import HousePuzzle.Proofs.Compilation.Lines
import HousePuzzle.Proofs.Validation.Notices
import HousePuzzle.Proofs.Validation.Rules
import Mathlib.Data.Int.Interval
import Mathlib.Data.Set.Card

/-!
Sizes of categories. A category that has not one value for each house is warned of, and then the
program has no answer set; where none is warned of and no rule asks for anything, it has one.
-/

namespace HousePuzzle

variable {s : String → Int} {p : Puzzle} {d : Registry} {vs : List String} {v : String} {n : Int}
  {cs : List Constraint}

section Counting

end Counting

namespace Puzzle

end Puzzle

/-- The warnings by whose codes they are about sizes. -/
def Report.sizeWarnings (r : Report) : List Warning :=
  r.warnings.filter (·.code = "W_SIZE_MISMATCH")

namespace Puzzle

variable {report : Report}

/-- The categories whose size is not the number of houses. -/
def mismatched (p : Puzzle) : Domains :=
  p.domains.domains.filter fun e => (e.2.length : Int) ≠ p.houses

end Puzzle

end HousePuzzle
