import HousePuzzle.Registry
import HousePuzzle.SolverResult
import HousePuzzle.Term
import HousePuzzle.Text.Split

/-!
Solutions from the answer of a solver. The atoms of the first model are grouped by house, and each
value is put under the category whose domain has it.
-/

namespace HousePuzzle

/-- Houses in the order in which they first came, each with its values. -/
abbrev HouseValues := List (Int × List String)

abbrev HouseAssignments := List (Int × List (String × String))

namespace Atom

def opening : List Char := "assign(".toList

def isArgumentChar (c : Char) : Bool :=
  c ≠ ',' && c ≠ '(' && c ≠ ')'

def isArgument (cs : List Char) : Bool :=
  !cs.isEmpty && cs.all isArgumentChar

/-- What stands between the parentheses of an atom `assign(…)`. -/
def arguments? (cs : List Char) : Option (List Char) :=
  if opening.isPrefixOf cs && cs.getLast? = some ')' then some (cs.drop opening.length).dropLast
  else none

/-- The house and the value of an assignment. Other atoms, and houses that are no numbers, are not
recognised. -/
def read? (atom : String) : Option (Int × String) := do
  let inner ← arguments? (Text.trimChars atom.toList)
  let (value, house) ← Text.cutAtChar? ',' inner
  if isArgument value && isArgument house then
    match Numeral.read (Text.trim (String.ofList house)) with
    | .ok n => some (n, Term.unquote (String.ofList value))
    | .error _ => none
  else none

end Atom

namespace HouseValues

def add (h : HouseValues) (e : Int × String) : HouseValues :=
  Assoc.alter e.1 (fun old => old.getD [] ++ [e.2]) h

def ofAtoms (atoms : List String) : HouseValues :=
  (atoms.filterMap Atom.read?).foldl add []

/-- The first value of each category; a category without a value in the house is left out. -/
def attributes (domains : Registry) (values : List String) : List (String × String) :=
  domains.categories.filterMap fun c =>
    (values.find? fun v => ((domains.values? c).getD []).contains v).map (c, ·)

/-- Houses ascend. -/
def categorize (domains : Registry) (h : HouseValues) : HouseAssignments :=
  (h.mergeSort fun a b => a.1 ≤ b.1).map fun e => (e.1, attributes domains e.2)

end HouseValues

inductive Outcome
  | solved
  | noSolution
  | unknown
  | unexpectedOptimum
  deriving DecidableEq

namespace Outcome

def ofStatus : SolveStatus → Outcome
  | .satisfiable => solved
  | .unsatisfiable => noSolution
  | .unknown => unknown
  | .optimumFound => unexpectedOptimum

def name : Outcome → String
  | solved => "solved"
  | noSolution => "no_solution"
  | unknown => "unknown"
  | unexpectedOptimum => "unexpected_optimum"

def message : Outcome → String
  | solved => "Znaleziono rozwiązanie."
  | noSolution => "Łamigłówka nie ma rozwiązania (UNSATISFIABLE)."
  | unknown => "Solver nie rozstrzygnął spełnialności (np. limit czasu)."
  | unexpectedOptimum =>
    "Solver zgłosił optymalizację (OPTIMUM FOUND) — program zawiera słabe ograniczenia, " ++
      "których kompilator nie generuje."

end Outcome

/-- `houses?` is given exactly when there is a solution. -/
structure Solution where
  outcome : Outcome
  houses? : Option HouseAssignments
  raw : HouseValues
  modelsCount : Int
  moreModels : Bool
  deriving DecidableEq

def Solution.isSolved (s : Solution) : Bool :=
  s.outcome = .solved

/-- Only the first model counts; the others are not merged with it. -/
def SolverResult.decode (r : SolverResult) (domains : Registry) : Solution :=
  match r.status with
  | .satisfiable =>
    let raw := HouseValues.ofAtoms (r.witnesses.headD [])
    ⟨.solved, some (raw.categorize domains), raw, r.modelsCount, r.moreModels⟩
  | status => ⟨.ofStatus status, none, [], r.modelsCount, r.moreModels⟩

end HousePuzzle
