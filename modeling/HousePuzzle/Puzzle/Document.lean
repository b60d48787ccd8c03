import HousePuzzle.Json.Shape
import HousePuzzle.Puzzle
import HousePuzzle.Text.Case

/-!
Rules and puzzles as JSON documents. Reading is lenient about the sort of each value: numbers and
texts stand for each other where that makes sense, and a missing list counts as empty.
-/

namespace HousePuzzle

inductive Rule.ReadError
  | shape (e : Json.ShapeError)
  | unknownOperator (text : String)
  deriving DecidableEq

def Rule.ReadError.message : Rule.ReadError → String
  | .shape e => e.message
  | .unknownOperator text => Text.quoted text ++ " is not a valid Operator"

def Operator.read (text : String) : Except Rule.ReadError Operator :=
  match Operator.ofName? text with
  | some o => .ok o
  | none => .error (.unknownOperator text)

def Json.textField (name : String) (d : Json) : Except Rule.ReadError String :=
  match d.field name with
  | .ok v => .ok v.plainText
  | .error e => .error (.shape e)

/-- The name of the operator may be written in capitals. -/
def Rule.ofJson (d : Json) : Except Rule.ReadError Rule := do
  let leftCategory ← d.textField "leftCategory"
  let leftValue ← d.textField "leftValue"
  let operator ← Operator.read (Text.lower (← d.textField "operator"))
  let rightCategory ← d.textField "rightCategory"
  let rightValue ← d.textField "rightValue"
  return ⟨⟨leftCategory, leftValue⟩, operator, ⟨rightCategory, rightValue⟩⟩

def Rule.toJson (r : Rule) : Json :=
  .obj [("leftCategory", .str r.left.category), ("leftValue", .str r.left.value),
    ("operator", .str r.operator.name), ("rightCategory", .str r.right.category),
    ("rightValue", .str r.right.value)]

/-- An infinite number of houses is refused on its own account. -/
inductive Puzzle.ReadError
  | malformed (cause : Rule.ReadError)
  | infiniteHouses
  deriving DecidableEq

def Puzzle.ReadError.message : Puzzle.ReadError → String
  | .malformed cause => "Nieprawidłowe dane łamigłówki: " ++ cause.message
  | .infiniteHouses => Json.ShapeError.message .infiniteToInt

def Puzzle.ReadError.ofShape : Json.ShapeError → Puzzle.ReadError
  | .infiniteToInt => .infiniteHouses
  | e => .malformed (.shape e)

def Json.texts (d : Json) : Except Json.ShapeError (List String) :=
  d.members.map (·.map Json.plainText)

def Json.domainPairs (d : Json) : Except Json.ShapeError (List (String × List String)) := do
  (← d.entries).mapM fun e => return (e.1, ← e.2.texts)

def Puzzle.ofJson (d : Json) : Except Puzzle.ReadError Puzzle := do
  let (houses, pairs, rules) ← shape.mapError .ofShape
  let rules ← (rules.mapM Rule.ofJson).mapError .malformed
  return ⟨houses, .ofPairs pairs, rules⟩
where
  shape : Except Json.ShapeError (Int × List (String × List String) × List Json) := do
    let houses ← (← d.field "houses").toInt
    let pairs ← (← d.fieldD "domains" (.obj [])).domainPairs
    let rules ← (← d.fieldD "rules" (.arr [])).members
    return (houses, pairs, rules)

def Registry.toJson (r : Registry) : Json :=
  .obj (r.domains.map fun e => (e.1, .arr (e.2.map .str)))

def Puzzle.toJson (p : Puzzle) : Json :=
  .obj [("houses", .int p.houses), ("domains", p.domains.toJson),
    ("rules", .arr (p.rules.map Rule.toJson))]

end HousePuzzle
