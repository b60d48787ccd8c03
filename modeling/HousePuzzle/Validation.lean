import HousePuzzle.Normalization
import HousePuzzle.Report

/-!
Validation: the number of houses, then the domains, then the rules up to the first that is wrong.
The rules are not looked at when the errors before them have reached `errorLimit`. A document is
brought into canonical spelling first and must have the shape of the schema.
-/

namespace HousePuzzle.Validation

def errorLimit : Nat := 20

/-- Why there is no report: a position with too many digits, or one to be compared with a number
of houses that is none, or a number of houses without end. -/
inductive Failure
  | numeral (e : Numeral.Error)
  | incomparable (k : Json.Kind)
  | infiniteHouses
  deriving DecidableEq

def Failure.message : Failure → String
  | .numeral e => e.message
  | .incomparable k =>
    "'<=' not supported between instances of 'int' and '" ++ k.name ++ "'"
  | .infiniteHouses => Puzzle.ReadError.message .infiniteHouses

def Failure.isWrongValue : Failure → Bool
  | .numeral _ => true
  | _ => false

def houseDefects (houses : Json) : List Defect :=
  match houses with
  | .int n => if n < 1 then [.houseCount houses] else []
  | v => [.houseCount v]

def categoryDefect? (houses : Json) (category : String) (values : List String) : Option Defect :=
  if Name.reserved.contains category then some (.reservedCategory category)
  else if !Name.isPredicate category then some (.categoryName category)
  else if values.isEmpty then some (.emptyDomain category houses)
  else none

/-- The category in which each value was first met. -/
abbrev Owners := List (String × String)

def valueDefect? (owners : Owners) (p : ValuePlace) : Option Defect :=
  if !Name.isValue p.value then some (.valueName p)
  else if p.value = p.category then some (.valueIsCategory p)
  else (Assoc.get? p.value owners).map (.ambiguousValue p)

def valueDefects (category : String) : Nat → Owners → List String → List Defect × Owners
  | _, owners, [] => ([], owners)
  | i, owners, v :: rest =>
    match valueDefect? owners ⟨category, i, v⟩ with
    | some d =>
      let (ds, owners) := valueDefects category (i + 1) owners rest
      (d :: ds, owners)
    | none => valueDefects category (i + 1) (Assoc.insert v category owners) rest

/-- A size is compared only with a number of houses. -/
def sizeWarnings (houses : Json) (category : String) (size : Nat) : List Warning :=
  match houses.asInt? with
  | some n => if 1 ≤ n ∧ (size : Int) ≠ n then [.sizeMismatch category size houses] else []
  | none => []

def domainFindings (houses : Json) : Owners → Domains → List Defect × List Warning
  | _, [] => ([], [])
  | owners, (category, values) :: rest =>
    match categoryDefect? houses category values with
    | some d =>
      let (ds, ws) := domainFindings houses owners rest
      (d :: ds, ws)
    | none =>
      let (vs, owners) := valueDefects category 0 owners values
      let (ds, ws) := domainFindings houses owners rest
      (vs ++ ds, sizeWarnings houses category values.length ++ ws)

def reaches (n : Int) : Json → Except Failure Bool
  | .int k => .ok (n ≤ k)
  | .bool b => .ok (n ≤ if b then 1 else 0)
  | .float x => .ok (x.intLe n)
  | v => .error (.incomparable v.kind)

/-- Positions are written with ASCII digits and count from one. -/
def isPositionOf (houses : Json) (value : String) : Except Failure Bool :=
  if !Name.isDigits value then .ok false
  else
    match Numeral.read value with
    | .error e => .error (.numeral e)
    | .ok n => if n < 1 then .ok false else reaches n houses

def sideDefect? (houses : Json) (domains : Registry) (p : RulePlace) :
    Except Failure (Option Defect) :=
  if p.operand.isPosition then
    (isPositionOf houses p.operand.value).map fun fits =>
      if fits then none else some (.positionRange p houses)
  else
    .ok <| match domains.values? p.operand.category with
    | none => some (.unknownCategory p (domains.categories ++ [Name.position]))
    | some domain =>
      if domain.contains p.operand.value then none else some (.foreignValue p domain)

/-- The left side comes before the right one. -/
def ruleDefect? (houses : Json) (domains : Registry) (index : Nat) (r : Rule) :
    Except Failure (Option Defect) := do
  match ← sideDefect? houses domains ⟨index, .left, r.left⟩ with
  | some d => return some d
  | none => sideDefect? houses domains ⟨index, .right, r.right⟩

def voidWarnings (index : Nat) (r : Rule) : List Warning :=
  if r.isVoid then [.voidRule index r] else []

/-- The first rule that is wrong ends the search. -/
def ruleFindings (houses : Json) (domains : Registry) :
    Nat → List Rule → Except Failure (List Defect × List Warning)
  | _, [] => .ok ([], [])
  | i, r :: rest => do
    match ← ruleDefect? houses domains i r with
    | some d => return ([d], [])
    | none =>
      let (ds, ws) ← ruleFindings houses domains (i + 1) rest
      return (ds, voidWarnings i r ++ ws)

def validate (houses : Json) (domains : Registry) (rules : List Rule) :
    Except Failure Report := do
  let (ds, ws) := domainFindings houses [] domains.domains
  let errors := houseDefects houses ++ ds
  if errorLimit ≤ errors.length then return ⟨errors, ws⟩
  else
    let (ruleErrors, ruleWarnings) ← ruleFindings houses domains 0 rules
    return ⟨errors ++ ruleErrors, ws ++ ruleWarnings⟩

end HousePuzzle.Validation

namespace HousePuzzle

open Validation

def Puzzle.validate (p : Puzzle) : Except Failure Report :=
  Validation.validate (.int p.houses) p.domains p.rules

/-- What a document holds: a puzzle, unless the document is malformed, and what is wrong with
it. -/
structure Checked where
  puzzle? : Option Puzzle
  report : Report

def Checked.malformed (errors : List Defect) : Checked :=
  ⟨none, ⟨errors, []⟩⟩

/-- A document whose shape has been accepted, or is not to be checked. -/
def Checked.build (d : Json) : Except Failure Checked :=
  match Puzzle.ofJson d with
  | .error .infiniteHouses => .error .infiniteHouses
  | .error e => .ok (.malformed [.unreadable e])
  | .ok p => p.validate.map (⟨some p, ·⟩)

/-- Only a document without violations of the schema is read on. The limit that an interpreter sets
to the depth of its recursion is left out here, as it is where files are read. -/
def Checked.ofFields (schema? : Option Schema) (aliases : Aliases) (fields : List (String × Json)) :
    Except Failure Checked :=
  let d := Json.obj (Normalization.puzzle aliases fields)
  match (schema?.map (Schema.violations [] d)).getD [] with
  | [] => build d
  | vs => .ok (.malformed (vs.map .schema))

end HousePuzzle
