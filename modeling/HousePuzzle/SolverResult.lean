import HousePuzzle.Json.Shape

/-! What a solver answers, and its answer as a JSON document. -/

namespace HousePuzzle

inductive SolveStatus
  | satisfiable
  | unsatisfiable
  | unknown
  | optimumFound
  deriving DecidableEq

namespace SolveStatus

def name : SolveStatus → String
  | satisfiable => "SATISFIABLE"
  | unsatisfiable => "UNSATISFIABLE"
  | unknown => "UNKNOWN"
  | optimumFound => "OPTIMUM FOUND"

def all : List SolveStatus := [satisfiable, unsatisfiable, unknown, optimumFound]

def ofName? (s : String) : Option SolveStatus :=
  all.find? (·.name = s)

@[simp] theorem ofName?_name (s : SolveStatus) : ofName? s.name = some s := by
  cases s <;> decide

end SolveStatus

/-- Why a solver gives no result: it failed, or names a status that is not known. -/
inductive SolverFailure
  | failed (text : String)
  | unknownStatus (name : String)
  deriving DecidableEq

def SolverFailure.message : SolverFailure → String
  | .failed text => text
  | .unknownStatus name => Text.quoted name ++ " is not a valid SolveStatus"

def SolveStatus.read (name : String) : Except SolverFailure SolveStatus :=
  match SolveStatus.ofName? name with
  | some s => .ok s
  | none => .error (.unknownStatus name)

/-- Each witness is a model, given as the texts of its atoms. -/
structure SolverResult where
  status : SolveStatus
  witnesses : List (List String)
  modelsCount : Int
  moreModels : Bool
  deriving DecidableEq

namespace SolverResult

/-- An answer without a known status is a failure of the solver. -/
inductive ReadError
  | unexpected (detail : String)
  | shape (e : Json.ShapeError)
  deriving DecidableEq

def ReadError.message : ReadError → String
  | .unexpected detail => "Nieoczekiwany wynik solvera: " ++ detail
  | .shape e => e.message

def readStatus? : Json → Option SolveStatus
  | .str s => SolveStatus.ofName? s
  | _ => none

/-- The text of the error that is reported, or else the status that is not known. -/
def failureDetail (status error : Json) : String :=
  if error.isPresent then error.plainText else "Result=" ++ status.quotedText

/-- The first list of calls that is given under either name. -/
def calls (call calls : Json) : List Json :=
  match if call.isPresent then call else calls with
  | .arr items => items
  | _ => []

def readWitness (w : Json) : Except Json.ShapeError (List String) := do
  return (← (← w.fieldD "Value" (.arr [])).members).map Json.plainText

def readWitnesses : List Json → Except Json.ShapeError (List (List String))
  | [] => .ok []
  | call :: _ => do (← (← call.fieldD "Witnesses" (.arr [])).members).mapM readWitness

def readBody (status : SolveStatus) (d : Json) : Except Json.ShapeError SolverResult := do
  let witnesses ← readWitnesses (calls (← d.fieldD "Call" .null) (← d.fieldD "Calls" .null))
  let models ← d.fieldD "Models" (.obj [])
  let count ← (← models.fieldD "Number" (.int witnesses.length)).toInt
  let more ← models.fieldD "More" .null
  return ⟨status, witnesses, count, more.same (.str "yes")⟩

def ofJson (d : Json) : Except ReadError SolverResult :=
  match d.fieldD "Result" .null, d.fieldD "Error" .null with
  | .ok result, .ok error =>
    match readStatus? result with
    | none => .error (.unexpected (failureDetail result error))
    | some status => (readBody status d).mapError .shape
  | .error e, _ | _, .error e => .error (.shape e)

end SolverResult

end HousePuzzle
