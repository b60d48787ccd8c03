import HousePuzzle.Literal.Mistake

/-! What the grammar makes of the tokens, and how its parts are called in messages. -/

namespace HousePuzzle.Literal

inductive Form
  | name (s : String)
  | constant (s : String)
  | number (isImaginary : Bool)
  | text
  | bytes
  | formatted
  | tuple
  | set
  | dict
  | setComprehension
  | dictComprehension
  | generator
  | attribute
  | call
  | starred
  | lambda
  | awaited
  | yielded
  | conditional
  | assignment
  | comparison
  | membership
  | sum
  | sign
  | operation
  | keyword
  | unpacking
  | entry
  | arguments
  deriving DecidableEq

def Form.title : Form → String
  | .name _ => "name"
  | .constant s => s
  | .number _ => "literal"
  | .text => "literal"
  | .bytes => "literal"
  | .formatted => "f-string expression"
  | .tuple => "tuple"
  | .set => "set display"
  | .dict => "dict literal"
  | .setComprehension => "set comprehension"
  | .dictComprehension => "dict comprehension"
  | .generator => "generator expression"
  | .attribute => "attribute"
  | .call => "function call"
  | .starred => "starred"
  | .lambda => "lambda"
  | .awaited => "await expression"
  | .yielded => "yield expression"
  | .conditional => "conditional expression"
  | .assignment => "named expression"
  | .comparison => "comparison"
  | .membership => "comparison"
  | .sum => "expression"
  | .sign => "expression"
  | .operation => "expression"
  | .keyword => "keyword"
  | .unpacking => "unpacking"
  | .entry => "entry"
  | .arguments => "arguments"

inductive Tree
  | node (form : Form) (parts : List Tree)

def Tree.form : Tree → Form
  | .node f _ => f

def Tree.parts : Tree → List Tree
  | .node _ ts => ts

def Tree.title (t : Tree) : String :=
  t.form.title

def Tree.name? (t : Tree) : Option String :=
  match t.form with
  | .name s => some s
  | _ => none

mutual

/-- The first part of a loop's target that no value can be given to. What stands before the word of
a membership test is the target itself. -/
def Tree.misplaced? : Tree → Option Tree
  | .node form parts =>
    match form with
    | .tuple => misplacedAmong? parts
    | .starred => misplacedFirst? parts
    | .membership => misplacedFirst? parts
    | .comparison => none
    | .name _ => none
    | .attribute => none
    | _ => some (.node form parts)

def misplacedAmong? : List Tree → Option Tree
  | [] => none
  | t :: ts => t.misplaced?.or (misplacedAmong? ts)

def misplacedFirst? : List Tree → Option Tree
  | [] => none
  | t :: _ => t.misplaced?

end

end HousePuzzle.Literal
