import HousePuzzle.Proofs.Compilation.Rules
import HousePuzzle.Proofs.Session

/-!
What calls do to a session, to the log and to the solver. A puzzle is screened before the solver is
called; only edits change a session, and only the start of a call asks the solver, once.
-/

namespace HousePuzzle

variable {α : Type} {p : Puzzle} {report : Report} {e : SolveError} {prepared : Prepared}

section Screening

/-- How a call deals with a puzzle. Unless there is one and it has no errors, the call fails and
does nothing else. Then the warnings are logged, and its program is what the solver may be asked
about and what the answer is made of. -/
structure Trace.Screened (t : Trace α) (puzzle? : Option Puzzle) (asked : String → List Request)
    (answer : Puzzle → Prepared → Except SolveError α) : Prop where
  missing : puzzle? = none → t = ⟨[], [], .error .noPuzzle⟩
  failed : ∀ p f, puzzle? = some p → p.validate = .error f → t = ⟨[], [], .error (.failure f)⟩
  invalid : ∀ p report, puzzle? = some p → p.validate = .ok report → report.isValid = false →
    t = ⟨[], [], .error (.invalid report)⟩
  valid : ∀ p report, puzzle? = some p → p.validate = .ok report → report.isValid = true →
    ∃ program, p.compile = .ok program ∧
      t = ⟨report.warnings.map Warning.message, asked program, answer p ⟨program, report⟩⟩

namespace Puzzle

theorem exists_compile_of_validate (h : p.validate = .ok report) (hvalid : report.isValid = true) :
    ∃ program, p.compile = .ok program :=
  exists_compile (wellFormed_of_validate h hvalid).2

theorem prepare_of_failed {f : Validation.Failure} (h : p.validate = .error f) :
    p.prepare = .error (.failure f) := by
  rw [prepare, h]
  rfl

theorem prepare_of_invalid (h : p.validate = .ok report) (hinvalid : report.isValid = false) :
    p.prepare = .error (.invalid report) := by
  simp [prepare, h, hinvalid, Except.mapError, bind, Except.bind]

end Puzzle

/-- A call that goes by what preparing the puzzle gives screens it. -/
theorem Trace.Screened.of_prepare {t : Trace α} {puzzle? : Option Puzzle}
    {asked : String → List Request} {answer : Puzzle → Prepared → Except SolveError α}
    (hnone : puzzle? = none → t = ⟨[], [], .error .noPuzzle⟩)
    (herror : ∀ p e, puzzle? = some p → p.prepare = .error e → t = ⟨p.logged, [], .error e⟩)
    (hok : ∀ p prepared, puzzle? = some p → p.prepare = .ok prepared →
      t = ⟨p.logged, asked prepared.program, answer p prepared⟩) :
    t.Screened puzzle? asked answer := by
  refine ⟨hnone, ?_, ?_, ?_⟩
  · intro p f hp h
    rw [herror p _ hp (Puzzle.prepare_of_failed h), Puzzle.logged, h]
  · intro p report hp h hinvalid
    rw [herror p _ hp (Puzzle.prepare_of_invalid h hinvalid), Puzzle.logged, h]
    simp [hinvalid]
  · intro p report hp h hvalid
    obtain ⟨program, hprogram⟩ := Puzzle.exists_compile_of_validate h hvalid
    have hprepare : p.prepare = .ok ⟨program, report⟩ :=
      Session.prepare_eq_ok_iff.2 ⟨h, hvalid, hprogram⟩
    refine ⟨program, hprogram, ?_⟩
    rw [hok p _ hp hprepare, Puzzle.logged, h]
    simp [hvalid]

end Screening

theorem Puzzle.screened_solve (p : Puzzle) (solver : Solver) (models : Int) :
    (p.solve solver models).Screened (some p) (fun program => [⟨program, models⟩])
      fun p prepared =>
        ((solver ⟨prepared.program, models⟩).mapError .solver).map (·.decode p.domains) := by
  apply Trace.Screened.of_prepare
  · intro h
    cases h
  · intro p' e hp h
    cases hp
    simp [solve, ask, h, Trace.map, Except.map]
  · intro p' prepared hp h
    cases hp
    cases hanswer : solver ⟨prepared.program, models⟩ <;>
      simp [solve, ask, h, Trace.map, hanswer, Except.mapError, Except.map]

namespace Session

variable {s : Session} {w : Run} {es : List Event}

section Calls

/-- What a call in the background does before it waits. -/
def launch (s : Session) : Trace Pending :=
  ⟨s.logged, s.start.toOption.toList.map (·.request s.models), s.start⟩

theorem start_of_none (h : s.puzzle? = none) : s.start = .error .noPuzzle := by
  rw [start, current, h]
  rfl

theorem start_of_error (hp : s.puzzle? = some p) (h : p.prepare = .error e) :
    s.start = .error e := by
  simp [start, current, hp, h, bind, Except.bind]

theorem start_of_ok (hp : s.puzzle? = some p) (h : p.prepare = .ok prepared) :
    s.start = .ok ⟨⟨s.token, prepared⟩, p⟩ :=
  start_eq_ok_iff.2 ⟨p, prepared, hp, h, rfl⟩

/-- A call that goes by what starting it gives screens the current puzzle. -/
theorem screened_of_start {t : Trace α} {asked : String → List Request}
    (answer : Pending → Except SolveError α)
    (herror : ∀ e, s.start = .error e → t = ⟨s.logged, [], .error e⟩)
    (hok : ∀ q, s.start = .ok q → t = ⟨s.logged, asked q.ticket.prepared.program, answer q⟩) :
    t.Screened s.puzzle? asked fun p prepared => answer ⟨⟨s.token, prepared⟩, p⟩ := by
  apply Trace.Screened.of_prepare
  · intro h
    rw [herror _ (start_of_none h), logged, h]
  · intro p e hp h
    rw [herror _ (start_of_error hp h), logged, hp]
  · intro p prepared hp h
    rw [hok _ (start_of_ok hp h), logged, hp]

theorem screened_compile (s : Session) :
    s.compile.Screened s.puzzle? (fun _ => []) fun _ prepared => .ok ⟨s.token, prepared⟩ := by
  refine screened_of_start (fun q => .ok q.ticket) ?_ ?_
  · intro e h
    rw [compile, h]
    rfl
  · intro q h
    rw [compile, h]
    rfl

theorem screened_launch (s : Session) :
    s.launch.Screened s.puzzle? (fun program => [⟨program, s.models⟩])
      fun p prepared => .ok ⟨⟨s.token, prepared⟩, p⟩ := by
  refine screened_of_start .ok ?_ ?_
  · intro e h
    rw [launch, h]
    rfl
  · intro q h
    rw [launch, h]
    rfl

theorem screened_solve (s : Session) (solver : Solver) (edits : List Puzzle) :
    (s.solve solver edits).2.Screened s.puzzle? (fun program => [⟨program, s.models⟩])
      fun p prepared => ((solver ⟨prepared.program, s.models⟩).mapError .solver).map fun r =>
        ⟨s.token, prepared.program, r.decode p.domains⟩ := by
  refine screened_of_start
    (fun q => ((solver (q.request s.models)).mapError .solver).map q.finish) ?_ ?_
  · intro e h
    rw [solve, h]
  · intro q h
    rw [solve, h]
    rfl

/-- Edits are made by a solver that is called, whatever it answers. -/
theorem solve_fst (s : Session) (solver : Solver) (edits : List Puzzle) :
    (s.solve solver edits).1 =
      if (s.solve solver edits).2.requests = [] then s else edits.foldl update s := by
  cases h : s.start <;> simp [solve, h]

/-- A call in the background logs and asks what a synchronous one does. -/
theorem launch_eq_solve (s : Session) (solver : Solver) (edits : List Puzzle) :
    s.launch.logged = (s.solve solver edits).2.logged ∧
      s.launch.requests = (s.solve solver edits).2.requests := by
  cases h : s.start <;> simp [solve, launch, h, Except.toOption]

end Calls

section Runs

theorem session_step (w : Run) (e : Event) :
    (w.step e).session = e.puzzle?.toList.foldl update w.session := by
  cases e <;> rfl

/-- A session is what the edits have made of it. -/
theorem session_after (models : Int) (es : List Event) :
    (Run.after models es).session = (updates es).foldl update (new models) := by
  induction es using List.reverseRecOn with
  | nil => rfl
  | append_singleton es e ih =>
    rw [Run.after_concat, session_step, ih, updates_append, List.foldl_append, updates_cons,
      updates_nil, List.append_nil]

theorem models_foldl_update (s : Session) (edits : List Puzzle) :
    (edits.foldl update s).models = s.models := by
  induction edits generalizing s with
  | nil => rfl
  | cons p edits ih => rw [List.foldl_cons, ih, models_update]

theorem models_after (models : Int) (es : List Event) :
    (Run.after models es).session.models = models := by
  rw [session_after, models_foldl_update]
  rfl

namespace Run

/-- What an event logs. -/
def logs (w : Run) : Event → List String
  | .compile => w.session.compile.logged
  | .start => w.session.launch.logged
  | _ => []

/-- What the solver is asked at an event. -/
def asks (w : Run) : Event → List Request
  | .compile => w.session.compile.requests
  | .start => w.session.launch.requests
  | _ => []

/-- What events give one after the other. -/
def gather {β : Type} (f : Run → Event → List β) (w : Run) : List Event → List β
  | [] => []
  | e :: es => f w e ++ (w.step e).gather f es

theorem gather_append {β : Type} (f : Run → Event → List β) (w : Run) (es fs : List Event) :
    w.gather f (es ++ fs) = w.gather f es ++ (es.foldl step w).gather f fs := by
  induction es generalizing w with
  | nil => rfl
  | cons e es ih => rw [List.cons_append, gather, gather, ih, List.append_assoc, List.foldl_cons]

theorem mem_gather_iff {β : Type} {f : Run → Event → List β} {b : β} :
    b ∈ w.gather f es ↔
      ∃ before e since, es = before ++ e :: since ∧ b ∈ f (before.foldl step w) e := by
  induction es generalizing w with
  | nil => simp [gather]
  | cons e es ih =>
    rw [gather, List.mem_append, ih]
    constructor
    · rintro (hb | ⟨before, e', since, rfl, hb⟩)
      · exact ⟨[], e, es, rfl, hb⟩
      · exact ⟨e :: before, e', since, rfl, hb⟩
    · rintro ⟨before, e', since, hes, hb⟩
      cases before with
      | nil =>
        obtain ⟨rfl, rfl⟩ := List.cons.inj hes
        exact .inl hb
      | cons d before =>
        obtain ⟨rfl, rfl⟩ := List.cons.inj hes
        exact .inr ⟨before, e', since, rfl, hb⟩

theorem gather_updates {β : Type} {f : Run → Event → List β} (hf : ∀ w p, f w (.update p) = [])
    (w : Run) (edits : List Puzzle) : w.gather f (edits.map .update) = [] := by
  induction edits generalizing w with
  | nil => rfl
  | cons p edits ih => rw [List.map_cons, gather, hf, ih, List.append_nil]

/-- Of the events of a call, only the first one gives anything. -/
theorem gather_backgroundCall {β : Type} {f : Run → Event → List β}
    (hupdate : ∀ w p, f w (.update p) = []) (hreply : ∀ w call a, f w (.reply call a) = [])
    (w : Run) (call : Nat) (edits : List Puzzle) (answer : Except SolverFailure SolverResult) :
    w.gather f (backgroundCall call edits answer) = f w .start := by
  rw [backgroundCall, List.cons_append, gather, gather_append, gather_updates hupdate]
  simp [gather, hreply]

end Run

theorem session_backgroundCall (w : Run) (call : Nat) (edits : List Puzzle)
    (answer : Except SolverFailure SolverResult) :
    ((backgroundCall call edits answer).foldl Run.step w).session =
      edits.foldl update w.session := by
  rw [backgroundCall, List.cons_append, List.foldl_cons, List.foldl_append, foldl_step_updates]
  rfl

/-- The solver is asked when a call is started and the current puzzle has no errors. -/
theorem mem_asks_iff {q : Request} {e : Event} :
    q ∈ w.asks e ↔ e = .start ∧ q.models = w.session.models ∧
      ∃ p, w.session.puzzle? = some p ∧ Compiles p q.program := by
  constructor
  · intro hq
    cases e with
    | start =>
      cases hstart : w.session.start with
      | error e => simp [Run.asks, launch, hstart, Except.toOption] at hq
      | ok pending =>
        obtain rfl : q = pending.request w.session.models := by
          simpa [Run.asks, launch, hstart, Except.toOption] using hq
        obtain ⟨p, prepared, hp, hprepare, rfl⟩ := start_eq_ok_iff.1 hstart
        exact ⟨rfl, rfl, p, hp, prepared.report, prepare_eq_ok_iff.1 hprepare⟩
    | _ => cases hq
  · rintro ⟨rfl, hmodels, p, hp, report, h, hvalid, hcompile⟩
    have hprepare : p.prepare = .ok ⟨q.program, report⟩ :=
      prepare_eq_ok_iff.2 ⟨h, hvalid, hcompile⟩
    simp [Run.asks, launch, start_of_ok hp hprepare, Except.toOption, Pending.request, ← hmodels]

theorem length_asks_le (w : Run) (e : Event) :
    (w.asks e).length ≤ if e.isStart then 1 else 0 := by
  cases e with
  | start => cases h : w.session.start <;> simp [Run.asks, launch, h, Event.isStart, Except.toOption]
  | _ => exact Nat.zero_le _

theorem length_gather_asks_le (w : Run) (es : List Event) :
    (w.gather Run.asks es).length ≤ starts es := by
  induction es generalizing w with
  | nil => exact Nat.le_refl 0
  | cons e es ih =>
    rw [Run.gather, List.length_append, starts_cons]
    exact Nat.add_le_add (length_asks_le w e) (ih (w.step e))

theorem mem_requests_iff {models : Int} {q : Request} :
    q ∈ (Run.init models).gather Run.asks es ↔ q.models = models ∧
      ∃ before since p, es = before ++ .start :: since ∧
        (updates before).getLast? = some p ∧ Compiles p q.program := by
  have hat (before : List Event) (e : Event) : q ∈ (Run.after models before).asks e ↔
      e = .start ∧ q.models = models ∧
        ∃ p, (updates before).getLast? = some p ∧ Compiles p q.program := by
    rw [mem_asks_iff, models_after, (Run.follows_after models before).puzzle]
  rw [Run.mem_gather_iff]
  constructor
  · rintro ⟨before, e, since, hes, hq⟩
    obtain ⟨rfl, hmodels, p, hp, hcompiles⟩ := (hat before e).1 hq
    exact ⟨hmodels, before, since, p, hes, hp, hcompiles⟩
  · rintro ⟨hmodels, before, since, p, hes, hp, hcompiles⟩
    exact ⟨before, .start, since, hes, (hat before .start).2 ⟨rfl, hmodels, p, hp, hcompiles⟩⟩

end Runs

/-- Only edits change a session, those made while a solver runs included. A call asks the solver
once, about the program of the current puzzle, if that has no errors; otherwise it fails and asks
nothing. A call in the background does as a synchronous one. -/
theorem calls_screened (models : Int) (es : List Event) :
    let w := Run.after models es
    let s := w.session
    s = (updates es).foldl update (new models) ∧
    s.compile.Screened s.puzzle? (fun _ => []) (fun _ prepared => .ok ⟨s.token, prepared⟩) ∧
    s.launch.Screened s.puzzle? (fun program => [⟨program, models⟩])
      (fun p prepared => .ok ⟨⟨s.token, prepared⟩, p⟩) ∧
    (∀ solver edits,
      (s.solve solver edits).2.Screened s.puzzle? (fun program => [⟨program, models⟩])
        (fun p prepared => ((solver ⟨prepared.program, models⟩).mapError .solver).map fun r =>
          ⟨s.token, prepared.program, r.decode p.domains⟩) ∧
      (s.solve solver edits).1 =
        if (s.solve solver edits).2.requests = [] then s else edits.foldl update s) ∧
    (∀ edits answer,
      let call := backgroundCall w.started edits answer
      w.gather Run.logs call = (s.solve (fun _ => answer) edits).2.logged ∧
      w.gather Run.asks call = (s.solve (fun _ => answer) edits).2.requests ∧
      (call.foldl Run.step w).session = edits.foldl update s) ∧
    ((Run.init models).gather Run.asks es).length ≤ starts es ∧
    (∀ q, q ∈ (Run.init models).gather Run.asks es ↔ q.models = models ∧
      ∃ before since p, es = before ++ .start :: since ∧
        (updates before).getLast? = some p ∧ Compiles p q.program) ∧
    ∀ (p : Puzzle) (solver : Solver) (models : Int),
      (p.solve solver models).Screened (some p) (fun program => [⟨program, models⟩])
        (fun p prepared =>
          ((solver ⟨prepared.program, models⟩).mapError .solver).map (·.decode p.domains)) := by
  intro w s
  have hmodels : s.models = models := models_after models es
  refine ⟨session_after models es, screened_compile s, hmodels ▸ screened_launch s, ?_, ?_,
    length_gather_asks_le _ es, fun q => mem_requests_iff, Puzzle.screened_solve⟩
  · intro solver edits
    exact ⟨hmodels ▸ screened_solve s solver edits, solve_fst s solver edits⟩
  · intro edits answer
    obtain ⟨hlogged, hrequests⟩ := launch_eq_solve s (fun _ => answer) edits
    rw [← hlogged, ← hrequests]
    exact ⟨Run.gather_backgroundCall (fun _ _ => rfl) (fun _ _ _ => rfl) w _ edits answer,
      Run.gather_backgroundCall (fun _ _ => rfl) (fun _ _ _ => rfl) w _ edits answer,
      session_backgroundCall w _ edits answer⟩

end Session

end HousePuzzle
