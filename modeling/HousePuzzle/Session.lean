import HousePuzzle.Solving

/-!
Sessions in which a puzzle is edited while a solver may be running. Every edit makes a new token;
what the solver finds carries the token of the puzzle it was given, and is accepted only while
that token is the current one.
-/

namespace HousePuzzle

structure Session where
  puzzle? : Option Puzzle
  token : Nat
  models : Int

namespace Session

def new (models : Int) : Session :=
  ⟨none, 0, models⟩

def update (s : Session) (p : Puzzle) : Session :=
  { s with puzzle? := some p, token := s.token + 1 }

def isCurrent (s : Session) (token : Int) : Bool :=
  token = s.token

structure Ticket where
  token : Nat
  prepared : Prepared

structure Output where
  token : Nat
  program : String
  solution : Solution
  deriving DecidableEq

/-- A call of the solver that has not been answered, with the puzzle it is about. -/
structure Pending where
  ticket : Ticket
  puzzle : Puzzle

def current (s : Session) : Except SolveError Puzzle :=
  match s.puzzle? with
  | none => .error .noPuzzle
  | some p => .ok p

def start (s : Session) : Except SolveError Pending := do
  let p ← s.current
  return ⟨⟨s.token, ← p.prepare⟩, p⟩

def logged (s : Session) : List String :=
  match s.puzzle? with
  | none => []
  | some p => p.logged

def compile (s : Session) : Trace Ticket :=
  ⟨s.logged, [], s.start.map Pending.ticket⟩

def Pending.request (p : Pending) (models : Int) : Request :=
  ⟨p.ticket.prepared.program, models⟩

/-- The domains are those of the puzzle that was solved, whatever the session holds by now. -/
def Pending.finish (p : Pending) (r : SolverResult) : Output :=
  ⟨p.ticket.token, p.ticket.prepared.program, r.decode p.puzzle.domains⟩

/-- Solves the current puzzle. The edits are made while the solver runs, so there are none when it
is not called. -/
def solve (s : Session) (solver : Solver) (edits : List Puzzle) : Session × Trace Output :=
  match s.start with
  | .error e => (s, ⟨s.logged, [], .error e⟩)
  | .ok pending =>
    let request := pending.request s.models
    (edits.foldl update s,
      ⟨s.logged, [request], ((solver request).mapError .solver).map pending.finish⟩)

def accept (s : Session) (o : Output) : Option Solution :=
  if s.isCurrent o.token then some o.solution else none

@[simp] theorem token_new (models : Int) : (new models).token = 0 := rfl

@[simp] theorem token_update (s : Session) (p : Puzzle) : (s.update p).token = s.token + 1 := rfl

@[simp] theorem puzzle?_update (s : Session) (p : Puzzle) : (s.update p).puzzle? = some p := rfl

@[simp] theorem models_update (s : Session) (p : Puzzle) : (s.update p).models = s.models := rfl

end Session

end HousePuzzle
