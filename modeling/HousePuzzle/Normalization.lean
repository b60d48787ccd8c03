import HousePuzzle.Aliases
import HousePuzzle.Json.Shape

/-!
Puzzle documents in canonical spelling: categories by their names without aliases, texts without
blanks around them, operators in small letters. What has the wrong sort is left as it is.
-/

namespace HousePuzzle.Normalization

def trimText : Json → Json
  | .str s => .str (Text.trim s)
  | v => v

/-- Values that are the same as an earlier one are dropped. -/
def addValue (bucket : List Json) (v : Json) : List Json :=
  if bucket.any (Json.same · v) then bucket else bucket ++ [v]

def addValues (bucket : List Json) : Json → List Json
  | .arr items => (items.map trimText).foldl addValue bucket
  | _ => bucket

/-- Categories with the same name become one, at the place of the first. -/
def domains (aliases : Aliases) (fields : List (String × Json)) : List (String × List Json) :=
  fields.foldl
    (fun merged f => Assoc.alter (aliases.rename f.1) (fun old => addValues (old.getD []) f.2) merged)
    []

def category (aliases : Aliases) : Json → Json
  | .str s => .str (aliases.rename s)
  | v => v

/-- A whole number of a document that was read is never too long to be written. -/
def value : Json → Json
  | .str s => .str (Text.trim s)
  | .int n => .str (Numeral.write n)
  | v => v

def operator : Json → Json
  | .str s => .str (Aliases.canonical s)
  | v => v

def ruleField (aliases : Aliases) (f : String × Json) : String × Json :=
  if f.1 = "leftCategory" || f.1 = "rightCategory" then (f.1, category aliases f.2)
  else if f.1 = "leftValue" || f.1 = "rightValue" then (f.1, value f.2)
  else if f.1 = "operator" then (f.1, operator f.2)
  else f

def rule (aliases : Aliases) : Json → Json
  | .obj fields => .obj (fields.map (ruleField aliases))
  | v => v

def puzzleField (aliases : Aliases) (f : String × Json) : String × Json :=
  match f with
  | ("domains", .obj fields) =>
    ("domains", .obj ((domains aliases fields).map fun e => (e.1, .arr e.2)))
  | ("rules", .arr rules) => ("rules", .arr (rules.map (rule aliases)))
  | f => f

def puzzle (aliases : Aliases) (fields : List (String × Json)) : List (String × Json) :=
  fields.map (puzzleField aliases)

/-- Only an object can be a puzzle. -/
def document (aliases : Aliases) : Json → Except Json.ShapeError Json
  | .obj fields => .ok (.obj (puzzle aliases fields))
  | v => .error (.noMember v.kind "get")

end HousePuzzle.Normalization
