import HousePuzzle.Session
import Mathlib.Data.List.Basic
import Mathlib.Data.List.Induction

/-!
Sessions over time. Edits, calls of the solver and their replies may come in any order; an output
is traced back to the start of its call, and whether it is accepted depends on the edits since
then alone.
-/

namespace HousePuzzle.Session

/-- Calls of the solver are numbered in the order of their starts, and so are outputs in the order
of the replies. A synchronous call and one in the background both start, wait and are replied to. -/
inductive Event
  | update (p : Puzzle)
  | compile
  | isCurrent (token : Int)
  | start
  | reply (call : Nat) (answer : Except SolverFailure SolverResult)
  | accept (output : Nat)

/-- A session with the calls that wait for a reply, and the outputs by their calls. -/
structure Run where
  session : Session
  started : Nat
  waiting : Nat → Option Pending
  outputs : List (Nat × Output)

namespace Run

def init (models : Int) : Run :=
  ⟨new models, 0, fun _ => none, []⟩

/-- What a call that is replied to adds to the outputs. -/
def replied (w : Run) (call : Nat) : Except SolverFailure SolverResult → List (Nat × Output)
  | .error _ => []
  | .ok r => (w.waiting call).toList.map fun q => (call, q.finish r)

def step (w : Run) : Event → Run
  | .update p => { w with session := w.session.update p }
  | .start =>
    { w with
      started := w.started + 1
      waiting := fun k => if k = w.started then w.session.start.toOption else w.waiting k }
  | .reply call answer =>
    { w with
      waiting := fun k => if k = call then none else w.waiting k
      outputs := w.outputs ++ w.replied call answer }
  | .compile | .isCurrent _ | .accept _ => w

def after (models : Int) (es : List Event) : Run :=
  es.foldl step (init models)

theorem after_concat (models : Int) (es : List Event) (e : Event) :
    after models (es ++ [e]) = (after models es).step e := by
  simp [after]

end Run

def Event.puzzle? : Event → Option Puzzle
  | update p => some p
  | _ => none

def Event.isStart : Event → Bool
  | start => true
  | _ => false

def updates (es : List Event) : List Puzzle :=
  es.filterMap Event.puzzle?

def starts (es : List Event) : Nat :=
  es.countP Event.isStart

@[simp] theorem updates_nil : updates [] = [] := rfl

@[simp] theorem updates_cons (e : Event) (es : List Event) :
    updates (e :: es) = e.puzzle?.toList ++ updates es := by
  cases e <;> rfl

@[simp] theorem updates_append (es fs : List Event) :
    updates (es ++ fs) = updates es ++ updates fs :=
  List.filterMap_append

@[simp] theorem starts_nil : starts [] = 0 := rfl

@[simp] theorem starts_cons (e : Event) (es : List Event) :
    starts (e :: es) = (if e.isStart then 1 else 0) + starts es := by
  simp [starts, List.countP_cons, Nat.add_comm]

@[simp] theorem starts_append (es fs : List Event) : starts (es ++ fs) = starts es + starts fs :=
  List.countP_append

/-- The puzzle has no errors, and this is its program. -/
def Compiles (p : Puzzle) (program : String) : Prop :=
  ∃ report, p.validate = .ok report ∧ report.isValid = true ∧ p.compile = .ok program

/-- How an output came about: what happened before its call was started, while the solver ran and
since the reply. -/
structure Origin (es : List Event) (call : Nat) where
  before : List Event
  during : List Event
  since : List Event
  answer : SolverResult
  puzzle : Puzzle
  program : String
  split : es = before ++ .start :: during ++ .reply call (.ok answer) :: since
  number : starts before = call
  unanswered : ∀ a, .reply call a ∉ during
  current : (updates before).getLast? = some puzzle
  compiles : Compiles puzzle program

def Origin.output {es : List Event} {call : Nat} (h : Origin es call) : Output :=
  ⟨(updates h.before).length, h.program, h.answer.decode h.puzzle.domains⟩

theorem prepare_eq_ok_iff {p : Puzzle} {prepared : Prepared} :
    p.prepare = .ok prepared ↔ p.validate = .ok prepared.report ∧
      prepared.report.isValid = true ∧ p.compile = .ok prepared.program := by
  obtain ⟨program, report⟩ := prepared
  unfold Puzzle.prepare
  cases hv : p.validate with
  | error e => simp [Except.mapError, bind, Except.bind]
  | ok r =>
    by_cases hr : r.isValid = true
    · cases hc : p.compile with
      | error e => simp [Except.mapError, bind, Except.bind, hr]
      | ok t =>
        simp only [Except.mapError, bind, Except.bind, hr, if_true, pure, Except.pure,
          Except.ok.injEq, Prepared.mk.injEq]
        constructor
        · rintro ⟨rfl, rfl⟩
          exact ⟨rfl, hr, rfl⟩
        · rintro ⟨rfl, _, rfl⟩
          exact ⟨rfl, rfl⟩
    · simp only [Except.mapError, bind, Except.bind, hr]
      constructor
      · simp
      · rintro ⟨h, h', _⟩
        exact absurd (Except.ok.inj h ▸ h') hr

theorem start_eq_ok_iff {s : Session} {q : Pending} :
    s.start = .ok q ↔ ∃ p prepared, s.puzzle? = some p ∧ p.prepare = .ok prepared ∧
      q = ⟨⟨s.token, prepared⟩, p⟩ := by
  unfold start current
  cases hp : s.puzzle? with
  | none => simp [bind, Except.bind]
  | some p =>
    cases hprep : p.prepare with
    | error e => simp [bind, Except.bind, hprep]
    | ok prepared => simp [bind, Except.bind, pure, Except.pure, hprep, eq_comm]

/-- What a call that is started after these events holds while it waits. -/
def Starts (es : List Event) (q : Pending) : Prop :=
  ∃ p prepared, (updates es).getLast? = some p ∧ p.prepare = .ok prepared ∧
    q = ⟨⟨(updates es).length, prepared⟩, p⟩

def Waits (es : List Event) (call : Nat) (q : Pending) : Prop :=
  ∃ before during, es = before ++ .start :: during ∧ starts before = call ∧
    (∀ a, .reply call a ∉ during) ∧ Starts before q

theorem waits_concat_iff {es : List Event} {e : Event} {call : Nat} {q : Pending} :
    Waits (es ++ [e]) call q ↔
      (Waits es call q ∧ ∀ a, e ≠ .reply call a) ∨
        (e = .start ∧ starts es = call ∧ Starts es q) := by
  constructor
  · rintro ⟨before, during, hes, hcall, hun, hq⟩
    rcases List.eq_nil_or_concat' during with rfl | ⟨during, x, rfl⟩
    · obtain ⟨rfl, hx⟩ := List.append_inj' hes rfl
      exact .inr ⟨(List.cons.inj hx).1, hcall, hq⟩
    · rw [← List.cons_append, ← List.append_assoc] at hes
      obtain ⟨rfl, hx⟩ := List.append_inj' hes rfl
      obtain rfl := (List.cons.inj hx).1
      refine .inl ⟨⟨before, during, rfl, hcall, fun a ha => hun a (by simp [ha]), hq⟩, ?_⟩
      rintro a rfl
      exact hun a (by simp)
  · rintro (⟨⟨before, during, rfl, hcall, hun, hq⟩, he⟩ | ⟨rfl, hcall, hq⟩)
    · refine ⟨before, during ++ [e], by simp, hcall, fun a ha => ?_, hq⟩
      rcases List.mem_append.1 ha with ha | ha
      · exact hun a ha
      · exact he a (List.mem_singleton.1 ha).symm
    · exact ⟨es, [], rfl, hcall, by simp, hq⟩

theorem origin_concat_iff {es : List Event} {e : Event} {call : Nat} {o : Output} :
    (∃ h : Origin (es ++ [e]) call, h.output = o) ↔
      (∃ h : Origin es call, h.output = o) ∨
        ∃ q r, e = .reply call (.ok r) ∧ Waits es call q ∧ q.finish r = o := by
  constructor
  · rintro ⟨⟨before, during, since, answer, p, program, hes, hcall, hun, hp, hc⟩, rfl⟩
    rcases List.eq_nil_or_concat' since with rfl | ⟨since, x, rfl⟩
    · obtain ⟨rfl, hx⟩ := List.append_inj' hes rfl
      obtain ⟨report, hv, hvalid, hprogram⟩ := hc
      have hprep : p.prepare = .ok ⟨program, report⟩ :=
        prepare_eq_ok_iff.2 ⟨hv, hvalid, hprogram⟩
      exact .inr ⟨_, answer, (List.cons.inj hx).1,
        ⟨before, during, rfl, hcall, hun, p, _, hp, hprep, rfl⟩, rfl⟩
    · rw [← List.cons_append, ← List.append_assoc] at hes
      obtain ⟨rfl, _⟩ := List.append_inj' hes rfl
      exact .inl ⟨⟨before, during, since, answer, p, program, rfl, hcall, hun, hp, hc⟩, rfl⟩
  · rintro (⟨⟨before, during, since, answer, p, program, rfl, hcall, hun, hp, hc⟩, rfl⟩ |
      ⟨q, r, rfl, ⟨before, during, rfl, hcall, hun, p, prepared, hp, hprep, rfl⟩, rfl⟩)
    · exact ⟨⟨before, during, since ++ [e], answer, p, program, by simp, hcall, hun, hp, hc⟩, rfl⟩
    · obtain ⟨hv, hvalid, hprogram⟩ := prepare_eq_ok_iff.1 hprep
      exact ⟨⟨before, during, [], r, p, prepared.program, rfl, hcall, hun, hp,
        prepared.report, hv, hvalid, hprogram⟩, rfl⟩

/-- What a session knows after these events. -/
structure Run.Follows (w : Run) (es : List Event) : Prop where
  token : w.session.token = (updates es).length
  puzzle : w.session.puzzle? = (updates es).getLast?
  started : w.started = starts es
  waiting : ∀ call q, w.waiting call = some q ↔ Waits es call q
  outputs : ∀ call o, (call, o) ∈ w.outputs ↔ ∃ h : Origin es call, h.output = o

namespace Run.Follows

variable {w : Run} {es : List Event}

theorem start_iff (h : w.Follows es) {q : Pending} : w.session.start = .ok q ↔ Starts es q := by
  rw [start_eq_ok_iff, h.puzzle, h.token]
  rfl

/-- An event that is neither a start nor a reply leaves the calls as they are. -/
theorem idle (h : w.Follows es) {e : Event} {s : Session}
    (htoken : s.token = (updates (es ++ [e])).length)
    (hpuzzle : s.puzzle? = (updates (es ++ [e])).getLast?) (hstart : e.isStart = false)
    (hreply : ∀ call a, e ≠ .reply call a) : Follows { w with session := s } (es ++ [e]) := by
  have hne : e ≠ .start := by
    rintro rfl
    cases hstart
  refine ⟨htoken, hpuzzle, ?_, fun call q => ?_, fun call o => ?_⟩
  · simp [h.started, hstart]
  · rw [waits_concat_iff]
    simp [hne, hreply, h.waiting]
  · rw [origin_concat_iff]
    simp [hreply, h.outputs]

theorem step_start (h : w.Follows es) : (w.step .start).Follows (es ++ [.start]) := by
  refine ⟨?_, ?_, ?_, fun call q => ?_, fun call o => ?_⟩
  · simpa [step, Event.puzzle?] using h.token
  · simpa [step, Event.puzzle?] using h.puzzle
  · simp [step, h.started, Event.isStart]
  · rw [waits_concat_iff, ← h.started]
    by_cases hcall : call = w.started
    · have hnone : ¬ Waits es call q := by
        rintro ⟨before, during, rfl, rfl, _⟩
        rw [h.started] at hcall
        simp [Event.isStart] at hcall
      have hnew : w.session.start.toOption = some q ↔ Starts es q := by
        rw [← h.start_iff]
        cases w.session.start <;> simp [Except.toOption]
      subst hcall
      simp [step, hnew, hnone]
    · simp [step, hcall, Ne.symm hcall, h.waiting]
  · rw [origin_concat_iff]
    simp [step, h.outputs]

theorem mem_replied_iff (h : w.Follows es) {call k : Nat}
    {answer : Except SolverFailure SolverResult} {o : Output} :
    (k, o) ∈ w.replied call answer ↔
      ∃ q r, Event.reply call answer = .reply k (.ok r) ∧ Waits es k q ∧ q.finish r = o := by
  cases answer with
  | error e => simp [replied]
  | ok r =>
    simp only [replied, List.mem_map, Option.mem_toList, h.waiting, Prod.mk.injEq,
      Event.reply.injEq, Except.ok.injEq]
    constructor
    · rintro ⟨q, hq, rfl, rfl⟩
      exact ⟨q, r, ⟨rfl, rfl⟩, hq, rfl⟩
    · rintro ⟨q, _, ⟨rfl, rfl⟩, hq, rfl⟩
      exact ⟨q, hq, rfl, rfl⟩

theorem step_reply (h : w.Follows es) (call : Nat) (answer : Except SolverFailure SolverResult) :
    (w.step (.reply call answer)).Follows (es ++ [.reply call answer]) := by
  refine ⟨?_, ?_, ?_, fun k q => ?_, fun k o => ?_⟩
  · simpa [step, Event.puzzle?] using h.token
  · simpa [step, Event.puzzle?] using h.puzzle
  · simp [step, h.started, Event.isStart]
  · rw [waits_concat_iff, ← h.waiting]
    by_cases hk : k = call
    · simp [step, hk]
    · simp [step, hk, Ne.symm hk]
  · rw [origin_concat_iff, ← h.outputs, ← h.mem_replied_iff]
    simp [step]

theorem step (h : w.Follows es) (e : Event) : (w.step e).Follows (es ++ [e]) := by
  cases e with
  | update p =>
    refine h.idle ?_ ?_ rfl (by simp)
    · simp [Event.puzzle?, h.token]
    · simp [Event.puzzle?]
  | compile | isCurrent | accept =>
    refine h.idle ?_ ?_ rfl (by simp)
    · simpa [Event.puzzle?] using h.token
    · simpa [Event.puzzle?] using h.puzzle
  | start => exact h.step_start
  | reply call answer => exact h.step_reply call answer

end Run.Follows

theorem Run.follows_init (models : Int) : (init models).Follows [] := by
  refine ⟨rfl, rfl, rfl, fun call q => ?_, fun call o => ?_⟩
  · simp [init, Waits]
  · simp only [init, List.not_mem_nil, false_iff]
    rintro ⟨h, _⟩
    simpa using h.split

theorem Run.follows_after (models : Int) (es : List Event) : (after models es).Follows es := by
  induction es using List.reverseRecOn with
  | nil => exact follows_init models
  | append_singleton es e ih =>
    rw [after_concat]
    exact ih.step e

theorem accept_output {models : Int} {es : List Event} {call : Nat} (h : Origin es call) :
    (Run.after models es).session.accept h.output =
      if updates (h.during ++ h.since) = [] then some h.output.solution else none := by
  have hlength : (updates es).length =
      (updates h.before).length + (updates (h.during ++ h.since)).length := by
    conv_lhs => rw [h.split]
    simp [Event.puzzle?]
  have hcurrent : (Run.after models es).session.isCurrent h.output.token = true ↔
      updates (h.during ++ h.since) = [] := by
    have htoken : h.output.token = (updates h.before).length := rfl
    rw [isCurrent, decide_eq_true_eq, (Run.follows_after models es).token, hlength,
      ← List.length_eq_zero_iff, htoken]
    omega
  simp only [accept, hcurrent]

/-- The events of a call in the background, with the edits made while it waits. -/
def backgroundCall (call : Nat) (edits : List Puzzle)
    (answer : Except SolverFailure SolverResult) : List Event :=
  .start :: edits.map .update ++ [.reply call answer]

theorem foldl_step_updates (w : Run) (edits : List Puzzle) :
    (edits.map Event.update).foldl Run.step w =
      { w with session := edits.foldl update w.session } := by
  induction edits generalizing w with
  | nil => rfl
  | cons p edits ih => rw [List.map_cons, List.foldl_cons, ih]; rfl

theorem outputs_backgroundCall (w : Run) (edits : List Puzzle)
    (answer : Except SolverFailure SolverResult) :
    ((backgroundCall w.started edits answer).foldl Run.step w).outputs =
      w.outputs ++ (w.session.solve (fun _ => answer) edits).2.outcome.toOption.toList.map
        (w.started, ·) := by
  simp only [backgroundCall, List.cons_append, List.foldl_cons, List.foldl_append,
    foldl_step_updates, List.foldl_nil]
  cases hstart : w.session.start with
  | error e => cases answer <;> simp [Run.step, Run.replied, solve, hstart, Except.toOption]
  | ok q =>
    cases answer <;>
      simp [Run.step, Run.replied, solve, hstart, Except.toOption, Except.mapError, Except.map]

/-- The edits are made only if the solver is called, in a synchronous call. -/
theorem session_solve (w : Run) (edits : List Puzzle)
    (answer : Except SolverFailure SolverResult) :
    (w.session.solve (fun _ => answer) edits).1 =
      if w.session.start.isOk then
        ((backgroundCall w.started edits answer).foldl Run.step w).session
      else w.session := by
  simp only [backgroundCall, List.cons_append, List.foldl_cons, List.foldl_append,
    foldl_step_updates, List.foldl_nil]
  cases hstart : w.session.start with
  | error e => simp [solve, hstart, Except.isOk, Except.toBool]
  | ok q => simp [Run.step, solve, hstart, Except.isOk, Except.toBool]

/-- An output carries what was current when its call was started: the count of edits, the program
of the puzzle and its domains. It is accepted while there has been no edit since. A call in the
background gives what a synchronous one gives, and both leave the same session. -/
theorem outputs_follow_history (models : Int) (es : List Event) :
    let w := Run.after models es
    (∀ call o, (call, o) ∈ w.outputs ↔ ∃ h : Origin es call, h.output = o) ∧
    (∀ call (h : Origin es call), w.session.accept h.output =
      if updates (h.during ++ h.since) = [] then some h.output.solution else none) ∧
    ∀ edits answer,
      ((backgroundCall w.started edits answer).foldl Run.step w).outputs =
        w.outputs ++ (w.session.solve (fun _ => answer) edits).2.outcome.toOption.toList.map
          (w.started, ·) ∧
      (w.session.solve (fun _ => answer) edits).1 =
        if w.session.start.isOk then
          ((backgroundCall w.started edits answer).foldl Run.step w).session
        else w.session :=
  ⟨(Run.follows_after models es).outputs, fun _ h => accept_output h, fun edits answer =>
    ⟨outputs_backgroundCall (Run.after models es) edits answer,
      session_solve (Run.after models es) edits answer⟩⟩

end HousePuzzle.Session
