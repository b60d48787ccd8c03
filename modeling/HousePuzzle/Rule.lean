import HousePuzzle.Name

/-!
Rules of a puzzle: how the house of one value lies to the house of another. A side whose category
is `position` names a house by its number.
-/

namespace HousePuzzle

/-- `right` and `left` say that the first house is the next one to the right or left of the
second. -/
inductive Operator
  | same
  | next
  | right
  | left
  deriving DecidableEq

namespace Operator

def name : Operator → String
  | .same => "same"
  | .next => "next"
  | .right => "right"
  | .left => "left"

def label : Operator → String
  | .same => "same as"
  | .next => "next to"
  | .right => "right of"
  | .left => "left of"

def all : List Operator := [.same, .next, .right, .left]

def ofName? (s : String) : Option Operator :=
  all.find? (·.name = s)

@[simp] theorem ofName?_name (o : Operator) : ofName? o.name = some o := by
  cases o <;> decide

end Operator

structure Operand where
  category : String
  value : String
  deriving DecidableEq

def Operand.isPosition (o : Operand) : Bool :=
  o.category = Name.position

inductive Side
  | left
  | right
  deriving DecidableEq

def Side.name : Side → String
  | .left => "left"
  | .right => "right"

structure Rule where
  left : Operand
  operator : Operator
  right : Operand
  deriving DecidableEq

namespace Rule

def operand (r : Rule) : Side → Operand
  | .left => r.left
  | .right => r.right

/-- A rule between two numbers of houses, which are the same or not whatever the solution is. -/
def isVoid (r : Rule) : Bool :=
  r.operator = .same && r.left.isPosition && r.right.isPosition

def text (r : Rule) : String :=
  r.left.category ++ ":" ++ r.left.value ++ " <" ++ r.operator.label ++ "> " ++
    r.right.category ++ ":" ++ r.right.value

end Rule

end HousePuzzle
