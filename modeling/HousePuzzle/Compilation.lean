import HousePuzzle.Program
import HousePuzzle.Puzzle

/-!
Puzzles as programs: the houses, the domains, a bijection between each domain and the houses, the
neighbours of each house, one constraint for each rule that is not void. Categories come in the
order of the registry, constraints in the order of the rules.
-/

namespace HousePuzzle

def Operand.place (o : Operand) : Except Numeral.Error Place :=
  if o.isPosition then (Numeral.read o.value).map .house else .ok (.ofTerm (.ofValue o.value))

def Rule.related (r : Rule) (relation : Relation) : Except Numeral.Error (Option Constraint) := do
  let left ← r.left.place
  let right ← r.right.place
  return some (.related relation left right)

/-- The number of a house is read before it is written, so zeros in front of it go. -/
def Rule.constraint? (r : Rule) : Except Numeral.Error (Option Constraint) :=
  match r.operator with
  | .same =>
    match r.left.isPosition, r.right.isPosition with
    | true, true => .ok none
    | true, false => (Numeral.read r.left.value).map (some <| .at (.ofValue r.right.value) ·)
    | false, true => (Numeral.read r.right.value).map (some <| .at (.ofValue r.left.value) ·)
    | false, false => .ok (some (.together (.ofValue r.left.value) (.ofValue r.right.value)))
  | .next => r.related .adjacent
  | .right => r.related .rightOf
  | .left => r.related .leftOf

namespace Puzzle

/-- The domains but that of positions, which is not the puzzle's to give. -/
def placed (p : Puzzle) : Domains :=
  p.domains.domains.filter (·.1 ≠ Name.position)

def constraints (p : Puzzle) : Except Numeral.Error (List Constraint) :=
  (p.rules.mapM Rule.constraint?).map (·.filterMap id)

def preamble (p : Puzzle) : Program :=
  [Statement.comment ("Define houses numbered 1 through " ++ Numeral.write p.houses ++ "."),
    .houses p.houses, .blank, .comment "Define the domains for each attribute."] ++
  p.placed.map (fun e => Statement.pool e.1 (e.2.map .ofValue)) ++
  [Statement.blank, .comment "Each attribute is assigned to exactly one house."] ++
  p.placed.map (fun e => Statement.placeEach e.1) ++
  [Statement.blank, .comment "Each house gets exactly one attribute from each category."] ++
  p.placed.map (fun e => Statement.fillEach e.1) ++
  [Statement.blank, .comment "Define the next_to predicate for adjacency.", .neighbour .right,
    .neighbour .left, .blank, .comment "Constraints for each rule."]

def program (p : Puzzle) : Except Numeral.Error Program :=
  p.constraints.map fun cs =>
    p.preamble ++ cs.map Statement.constraint ++ [Statement.blank, .showAssignments]

def compile (p : Puzzle) : Except Numeral.Error String :=
  p.program.map Program.render

end Puzzle

end HousePuzzle
