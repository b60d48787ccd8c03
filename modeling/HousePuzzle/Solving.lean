import HousePuzzle.Compilation
import HousePuzzle.Decoding
import HousePuzzle.Validation

/-!
From a puzzle to its solution: validation, compilation, a call of the solver, decoding. What is
logged and what is asked of the solver is part of the result, also when there is an error.
-/

namespace HousePuzzle

structure Request where
  program : String
  models : Int
  deriving DecidableEq

/-- A solver answers a request or fails to. -/
abbrev Solver := Request → Except SolverFailure SolverResult

inductive SolveError
  | noPuzzle
  | failure (e : Validation.Failure)
  | invalid (report : Report)
  | numeral (e : Numeral.Error)
  | solver (e : SolverFailure)

def SolveError.message : SolveError → String
  | .noPuzzle => "Brak łamigłówki — wywołaj update() przed compile()."
  | .failure e => e.message
  | .invalid report => report.summary
  | .numeral e => e.message
  | .solver e => e.message

/-- The number of models to ask for: the second one tells only whether the first is unique. -/
def defaultModels : Int := 2

structure Prepared where
  program : String
  report : Report

def Puzzle.prepare (p : Puzzle) : Except SolveError Prepared := do
  let report ← p.validate.mapError .failure
  if report.isValid then return ⟨← p.compile.mapError .numeral, report⟩
  else .error (.invalid report)

/-- What is logged when a puzzle is prepared: its warnings, if it has no errors. -/
def Puzzle.logged (p : Puzzle) : List String :=
  match p.validate with
  | .ok report => if report.isValid then report.warnings.map Warning.message else []
  | .error _ => []

structure Trace (α : Type) where
  logged : List String
  requests : List Request
  outcome : Except SolveError α

def Trace.map {α β : Type} (f : α → β) (t : Trace α) : Trace β :=
  ⟨t.logged, t.requests, t.outcome.map f⟩

/-- Asks the solver once, if there is a program. -/
def Puzzle.ask (p : Puzzle) (solver : Solver) (models : Int) : Trace (Prepared × SolverResult) :=
  match p.prepare with
  | .error e => ⟨p.logged, [], .error e⟩
  | .ok prepared =>
    let request := ⟨prepared.program, models⟩
    ⟨p.logged, [request], ((solver request).mapError .solver).map (prepared, ·)⟩

def Puzzle.solve (p : Puzzle) (solver : Solver) (models : Int) : Trace Solution :=
  (p.ask solver models).map fun answer => answer.2.decode p.domains

end HousePuzzle
