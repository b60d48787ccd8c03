import HousePuzzle.Json.Text
import HousePuzzle.Rule

/-!
The shape that a puzzle document must have. A schema says which forms a value may have, which
fields an object needs and which it may have; each violation is reported with its place.
-/

namespace HousePuzzle

/-- A number without a fraction is an integer, however it is spelled; a truth value is none. -/
inductive Schema.Form
  | object
  | array
  | string
  | integer
  deriving DecidableEq

inductive Schema
  | forms (allowed : List Schema.Form)
  | choice (names : List String)
  | list (items : Schema)
  | map (values : Schema)
  | record (required : List String) (fields : List (String × Schema))

namespace Schema

def Form.name : Form → String
  | .object => "object"
  | .array => "array"
  | .string => "string"
  | .integer => "integer"

def Form.has : Form → Json → Bool
  | .object, .obj _ => true
  | .array, .arr _ => true
  | .string, .str _ => true
  | .integer, .int _ => true
  | .integer, .float x => x.isWhole
  | _, _ => false

inductive Step
  | field (name : String)
  | item (index : Nat)
  deriving DecidableEq

def Step.text : Step → String
  | .field name => name
  | .item index => Numeral.writeNat index

inductive Fault
  | form (v : Json) (allowed : List Form)
  | missing (name : String)
  | unexpected (names : List String)
  | noChoice (v : Json) (names : List String)

structure Violation where
  path : List Step
  fault : Fault

def Violation.place (v : Violation) : String :=
  "/" ++ "/".intercalate (v.path.map Step.text)

def Fault.message : Fault → String
  | .form v allowed =>
    v.quotedText ++ " is not of type " ++ ", ".intercalate (allowed.map (Text.quoted ·.name))
  | .missing name => Text.quoted name ++ " is a required property"
  | .unexpected names =>
    let verb := if names.length = 1 then "was" else "were"
    "Additional properties are not allowed (" ++ ", ".intercalate (names.map Text.quoted) ++ " " ++
      verb ++ " unexpected)"
  | .noChoice v names => v.quotedText ++ " is not one of " ++ Text.quotedList names

def checkForms (allowed : List Form) (path : List Step) (v : Json) : List Violation :=
  if allowed.any (·.has v) then [] else [⟨path, .form v allowed⟩]

def checkChoice (names : List String) (path : List Step) (v : Json) : List Violation :=
  match v with
  | .str s => if names.contains s then [] else [⟨path, .noChoice v names⟩]
  | _ => [⟨path, .noChoice v names⟩]

def checkRequired (required : List String) (path : List Step) (fields : List (String × Json)) :
    List Violation :=
  (required.filter fun name => (Assoc.get? name fields).isNone).map fun name =>
    ⟨path, .missing name⟩

def checkClosed (known : List String) (path : List Step) (fields : List (String × Json)) :
    List Violation :=
  match (Assoc.keys fields).filter (!known.contains ·) with
  | [] => []
  | extra => [⟨path, .unexpected (extra.mergeSort (· ≤ ·))⟩]

mutual

/-- A value of the wrong form is reported once: nothing else is asked of it. -/
def violations (path : List Step) (v : Json) : Schema → List Violation
  | .forms allowed => checkForms allowed path v
  | .choice names => checkChoice names path v
  | .list items =>
    match v with
    | .arr vs => vs.zipIdx.flatMap fun (w, i) => violations (path ++ [.item i]) w items
    | v => checkForms [.array] path v
  | .map values =>
    match v with
    | .obj fields => fields.flatMap fun (name, w) => violations (path ++ [.field name]) w values
    | v => checkForms [.object] path v
  | .record required known =>
    match v with
    | .obj fields =>
      checkRequired required path fields ++ checkClosed (Assoc.keys known) path fields ++
        fieldViolations path fields known
    | v => checkForms [.object] path v

def fieldViolations (path : List Step) (fields : List (String × Json)) :
    List (String × Schema) → List Violation
  | [] => []
  | (name, schema) :: rest =>
    (match Assoc.get? name fields with
      | some v => violations (path ++ [.field name]) v schema
      | none => []) ++ fieldViolations path fields rest

end

def rule : Schema :=
  .record ["leftCategory", "leftValue", "operator", "rightCategory", "rightValue"]
    [("leftCategory", .forms [.string]), ("leftValue", .forms [.string, .integer]),
      ("operator", .choice (Operator.all.map (·.name))), ("rightCategory", .forms [.string]),
      ("rightValue", .forms [.string, .integer])]

def puzzle : Schema :=
  .record ["houses", "domains"]
    [("houses", .forms [.integer]), ("domains", .map (.list (.forms [.string]))),
      ("rules", .list rule)]

end Schema

end HousePuzzle
