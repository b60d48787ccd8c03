import HousePuzzle.Numeral
import HousePuzzle.Rule
import HousePuzzle.Term

/-!
Logic programs that place values in houses, as data and as text. A model holds an atom
`assign(t, h)` for each term `t` and its house `h`.
-/

namespace HousePuzzle

/-- Where an operand of a constraint lies: in the house assigned to a term, or in a given one. -/
inductive Place
  | ofTerm (t : Term)
  | house (n : Int)
  deriving DecidableEq

inductive Relation
  | adjacent
  | rightOf
  | leftOf
  deriving DecidableEq

/-- What a rule demands. `together` puts two terms in one house, `at` a term in a given house. -/
inductive Constraint
  | together (left right : Term)
  | at (t : Term) (house : Int)
  | related (relation : Relation) (left right : Place)
  deriving DecidableEq

inductive Statement
  | comment (text : String)
  | blank
  | houses (count : Int)
  | pool (category : String) (terms : List Term)
  | placeEach (category : String)
  | fillEach (category : String)
  | neighbour (side : Side)
  | constraint (c : Constraint)
  | showAssignments
  deriving DecidableEq

abbrev Program := List Statement

def Term.assigned (t : Term) (variableName : String) : String :=
  "assign(" ++ t.render ++ ", " ++ variableName ++ ")"

/-- The literal that binds the variable of a place, with what separates it from the next. -/
def Place.binding (variableName : String) : Place → String
  | .ofTerm t => t.assigned variableName ++ ", "
  | .house _ => ""

def Place.render (variableName : String) : Place → String
  | .ofTerm _ => variableName
  | .house n => Numeral.write n

def Relation.violation (left right : String) : Relation → String
  | .adjacent => "not next_to(" ++ left ++ ", " ++ right ++ ")"
  | .rightOf => left ++ " != " ++ right ++ " + 1"
  | .leftOf => left ++ " != " ++ right ++ " - 1"

theorem Relation.violation_adjacent (left right : String) :
    adjacent.violation left right = "not next_to(" ++ left ++ ", " ++ right ++ ")" := rfl

theorem Relation.violation_rightOf (left right : String) :
    rightOf.violation left right = left ++ " != " ++ right ++ " + 1" := rfl

theorem Relation.violation_leftOf (left right : String) :
    leftOf.violation left right = left ++ " != " ++ right ++ " - 1" := rfl

/-- A constraint is written as what must not be. -/
def Constraint.render : Constraint → String
  | .together l r => ":- " ++ l.assigned "H1" ++ ", " ++ r.assigned "H2" ++ ", H1 != H2."
  | .at t n => ":- " ++ t.assigned "H" ++ ", H != " ++ Numeral.write n ++ "."
  | .related relation l r =>
    ":- " ++ l.binding "H1" ++ r.binding "H2" ++
      relation.violation (l.render "H1") (r.render "H2") ++ "."

namespace Statement

def render : Statement → String
  | comment text => "% " ++ text
  | blank => ""
  | houses count => "house(1.." ++ Numeral.write count ++ ")."
  | pool category terms => category ++ "(" ++ "; ".intercalate (terms.map Term.render) ++ ")."
  | placeEach category => "1 \x7b assign(A, H) : house(H) \x7d 1 :- " ++ category ++ "(A)."
  | fillEach category =>
    ":- house(H), #count \x7b X : assign(X, H), " ++ category ++ "(X) \x7d != 1."
  | neighbour .right => "next_to(X, Y) :- house(X), house(Y), X = Y + 1."
  | neighbour .left => "next_to(X, Y) :- house(X), house(Y), X = Y - 1."
  | constraint c => c.render
  | showAssignments => "#show assign/2."

end Statement

/-- Every statement is a line. -/
def Program.render (p : Program) : String :=
  String.join (p.map fun s => s.render ++ "\n")

end HousePuzzle
