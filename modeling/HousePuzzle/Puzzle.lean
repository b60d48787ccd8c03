import HousePuzzle.Registry
import HousePuzzle.Rule

/-! Puzzles: houses in a row, what has to be placed in them, and the rules to be met. -/

namespace HousePuzzle

structure Puzzle where
  houses : Int
  domains : Registry
  rules : List Rule
  deriving DecidableEq

end HousePuzzle
