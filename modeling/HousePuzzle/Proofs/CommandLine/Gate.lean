import HousePuzzle.Proofs.CommandLine.Shell
import HousePuzzle.Proofs.Compilation.Rules
import HousePuzzle.Proofs.Console.Markup
import HousePuzzle.Proofs.Loading

/-!
The gate that commands have in common. A puzzle is compiled and handed to the solver just when it is
found to be valid and its warnings can be shown.
-/

namespace HousePuzzle.CommandLine

open Shell

/-- A file that a command reads. -/
structure World.Has (w : World) (path : String) (o : Opened) (octets : List Nat) : Prop where
  opened : ∀ missing, open? w missing path = pure o
  content : o.content = .ok octets
  name : Markup.IsUntagged o.name.toList

/-- A puzzle that comes through, with its program. -/
structure Admits (w : World) (columns : Nat) (o : Opened) (octets : List Nat) (s : Settings)
    (p : Puzzle) (r : Report) (program : String) : Prop where
  configured : Settings.ofEnvironment w.environment = .ok s
  loaded : Loading.loadPuzzle o.name octets s.aliases = .ok ⟨some p, r⟩
  valid : r.isValid = true
  warned : (showReport r).Prints columns ()
  compiled : p.compile = .ok program

/-- Why no puzzle comes through. -/
inductive Refused (w : World) (columns : Nat) (o : Opened) (octets : List Nat) : Prop
  | settings {e : Settings.Error} :
      Settings.ofEnvironment w.environment = .error e → Refused w columns o octets
  | file {s : Settings} {e : Loading.PuzzleError} :
      Settings.ofEnvironment w.environment = .ok s →
      Loading.loadPuzzle o.name octets s.aliases = .error e → Refused w columns o octets
  | invalid {s : Settings} {c : Checked} :
      Settings.ofEnvironment w.environment = .ok s →
      Loading.loadPuzzle o.name octets s.aliases = .ok c → c.report.isValid = false →
      Refused w columns o octets
  | warnings {s : Settings} {p : Puzzle} {r : Report} :
      Settings.ofEnvironment w.environment = .ok s →
      Loading.loadPuzzle o.name octets s.aliases = .ok ⟨some p, r⟩ → r.isValid = true →
      (showReport r).Refuses columns → Refused w columns o octets

variable {columns : Nat} {w : World} {path : String} {o : Opened} {octets : List Nat} {s : Settings}
  {p : Puzzle} {r : Report} {c : Checked} {program words : String} {aliases : Aliases}

/-- What is loaded as valid is a puzzle, with a program. -/
theorem exists_program_of_loadPuzzle {file : String}
    (h : Loading.loadPuzzle file octets aliases = .ok c) (hvalid : c.report.isValid = true) :
    ∃ p program, c.puzzle? = some p ∧ p.compile = .ok program := by
  obtain ⟨fields, _, hfields⟩ := Except.bind_eq_ok_iff.1 h
  have hchecked := Except.mapError_eq_ok_iff.1 hfields
  obtain ⟨p, hp⟩ := Checked.exists_puzzle_of_isValid hchecked hvalid
  obtain ⟨puzzle?, r⟩ := c
  obtain rfl : puzzle? = some p := hp
  have hvalidate : p.validate = .ok r := (Checked.ofFields_eq_ok_iff.1 hchecked).2.2
  obtain ⟨_, hsides⟩ := Puzzle.wellFormed_of_validate hvalidate hvalid
  obtain ⟨program, hprogram⟩ := Puzzle.exists_compile hsides
  exact ⟨p, program, rfl, hprogram⟩

theorem admits_or_refused (w : World) (columns : Nat) (o : Opened) (octets : List Nat) :
    (∃ s p r program, Admits w columns o octets s p r program) ∨ Refused w columns o octets := by
  cases hs : Settings.ofEnvironment w.environment with
  | error e => exact .inr (.settings hs)
  | ok s =>
    cases hc : Loading.loadPuzzle o.name octets s.aliases with
    | error e => exact .inr (.file hs hc)
    | ok c =>
      cases hvalid : c.report.isValid with
      | false => exact .inr (.invalid hs hc hvalid)
      | true =>
        obtain ⟨p, program, hp, hprogram⟩ := exists_program_of_loadPuzzle hc hvalid
        obtain ⟨puzzle?, r⟩ := c
        obtain rfl : puzzle? = some p := hp
        cases quiet_showReport r with
        | inl hwarned =>
          obtain ⟨_, hwarned⟩ := hwarned
          exact .inl ⟨s, p, r, program, hs, hc, hvalid, hwarned, hprogram⟩
        | inr hrefuses => exact .inr (.warnings hs hc hvalid hrefuses)

section Steps

theorem prints_settings (h : Settings.ofEnvironment w.environment = .ok s) :
    (settings w).Prints columns s := by
  rw [settings, h]
  exact prints_pure s

theorem refuses_settings {e : Settings.Error} (h : Settings.ofEnvironment w.environment = .error e) :
    (settings w).Refuses columns := by
  rw [settings, h]
  exact refuses_stop (by simp)

theorem prints_octets (h : o.content = .ok octets) : o.octets.Prints columns octets := by
  rw [Opened.octets, h]
  exact prints_pure octets

theorem prints_load (ho : o.content = .ok octets)
    (h : Loading.loadPuzzle o.name octets aliases = .ok c) :
    (load o words aliases).Prints columns c := by
  refine (prints_octets ho).bind ?_
  rw [h]
  exact prints_pure c

theorem refuses_load {e : Loading.PuzzleError} (ho : o.content = .ok octets)
    (h : Loading.loadPuzzle o.name octets aliases = .error e) :
    (load o words aliases).Refuses columns := by
  refine (prints_octets ho).bind_refuses ?_
  rw [h]
  cases e with
  | failure f => exact refuses_stop (by simp)
  | file e =>
    dsimp only
    split
    · exact (quiet_print _).bind_refuses fun _ => refuses_exit (by decide)
    · exact refuses_stop (by simp)

theorem prints_loadValid (hf : w.Has path o octets)
    (h : Loading.loadPuzzle o.name octets aliases = .ok ⟨some p, r⟩) (hvalid : r.isValid = true) :
    (loadValid w path aliases).Prints columns (p, r) := by
  rw [loadValid, hf.opened, pure_bind]
  refine (prints_load hf.content h).bind ?_
  simp only [hvalid]
  exact prints_pure (p, r)

theorem refuses_loadValid_of_error {e : Loading.PuzzleError} (hf : w.Has path o octets)
    (h : Loading.loadPuzzle o.name octets aliases = .error e) :
    (loadValid w path aliases).Refuses columns := by
  rw [loadValid, hf.opened, pure_bind]
  exact (refuses_load hf.content h).bind

theorem refuses_loadValid_of_invalid (hf : w.Has path o octets)
    (h : Loading.loadPuzzle o.name octets aliases = .ok c) (hvalid : c.report.isValid = false) :
    (loadValid w path aliases).Refuses columns := by
  rw [loadValid, hf.opened, pure_bind]
  refine (prints_load hf.content h).bind_refuses ?_
  split
  · next heq => simp [hvalid] at heq
  · refine (quiet_showInvalid o c.report).bind_refuses fun _ => ?_
    exact (quiet_showReport c.report).bind_refuses fun _ => refuses_exit (by decide)

theorem prints_showWarnings (h : (showReport r).Prints columns ()) :
    (showWarnings r).Prints columns () := by
  unfold showWarnings
  split
  · exact prints_pure ()
  · exact h

/-- A report that says nothing can be shown. -/
theorem refuses_showWarnings (hvalid : r.isValid = true) (h : (showReport r).Refuses columns) :
    (showWarnings r).Refuses columns := by
  unfold showWarnings
  split
  · next hwarnings =>
    have herrors : r.errors.isEmpty = true := hvalid
    have hsilent : (showReport r).Prints columns () := by
      simp only [showReport, hwarnings, herrors]
      exact prints_pure ()
    exact absurd h hsilent.not_refuses
  · exact h

end Steps

/-- What `compile` and `solve` begin with. -/
def prepared (w : World) (path : String) (k : Settings → Puzzle → String → Shell Unit) :
    Shell Unit := do
  let s ← settings w
  let (p, report) ← loadValid w path s.aliases
  showWarnings report
  k s p (← compileText p)

theorem compile_eq (w : World) (path output : String) :
    compile w path (some output) = prepared w path (fun _ _ program => do
      if output.isEmpty then write program.toList
      else
        create w output program
        print ("[green]Zapisano[/green] " ++ output)) := rfl

theorem solve_eq (w : World) (path : String) :
    solve w path none none false = prepared w path (fun s p program => do
      showTask p s.models s.timeout
      let result ← ask w s.timeout ⟨program, s.models⟩
      conclude (result.decode p.domains) p) := rfl

section Commands

variable {k : Settings → Puzzle → String → Shell Unit} {outcome : Except Ending Unit}
  {written : List (String × String)} {requests : List (Binary64 × Request)}

theorem Admits.prepared (h : Admits w columns o octets s p r program) (hf : w.Has path o octets)
    (hk : (k s p program).Yields columns outcome written requests) :
    (prepared w path k).Yields columns outcome written requests := by
  have hcompile : (compileText p).Prints columns program := by
    rw [compileText, h.compiled]
    exact prints_pure program
  refine (prints_settings h.configured).bind ?_
  refine (prints_loadValid hf h.loaded h.valid).bind ?_
  exact (prints_showWarnings h.warned).bind (hcompile.bind hk)

theorem Refused.prepared (h : Refused w columns o octets) (hf : w.Has path o octets) :
    (prepared w path k).Refuses columns := by
  cases h with
  | settings hs => exact (refuses_settings hs).bind
  | file hs hc =>
    refine (prints_settings hs).bind_refuses ?_
    exact (refuses_loadValid_of_error hf hc).bind
  | invalid hs hc hvalid =>
    refine (prints_settings hs).bind_refuses ?_
    exact (refuses_loadValid_of_invalid hf hc hvalid).bind
  | warnings hs hc hvalid hrefuses =>
    refine (prints_settings hs).bind_refuses ?_
    refine (prints_loadValid hf hc hvalid).bind_refuses ?_
    exact (refuses_showWarnings hvalid hrefuses).bind

/-- What is said of a valid puzzle can be shown. -/
theorem exists_render_valid (o : Opened) (p : Puzzle) (h : Markup.IsUntagged o.name.toList) :
    ∃ t, Markup.render ("[green]OK[/green]  Łamigłówka [bold]" ++ o.name ++
      "[/bold] jest poprawna (" ++ Numeral.write p.houses ++ " domów, " ++
      Numeral.writeNat p.domains.categories.length ++ " kategorii, " ++
      Numeral.writeNat p.rules.length ++ " reguł).") = .ok t := by
  have hspans : ∀ span ∈ [Markup.Span.styled "green".toList "OK".toList,
      .plain "  Łamigłówka ".toList, .styled "bold".toList o.name.toList,
      .plain " jest poprawna (".toList, .plain (Numeral.write p.houses).toList,
      .plain " domów, ".toList, .plain (Numeral.writeNat p.domains.categories.length).toList,
      .plain " kategorii, ".toList, .plain (Numeral.writeNat p.rules.length).toList,
      .plain " reguł).".toList], span.WellFormed := by
    simp only [List.forall_mem_cons]
    exact ⟨.styled Markup.isStyle_green (by decide), .plain (by decide),
      .styled Markup.isStyle_bold h, .plain (by decide), .plain (Markup.isUntagged_write _),
      .plain (by decide), .plain (Markup.isUntagged_writeNat _), .plain (by decide),
      .plain (Markup.isUntagged_writeNat _), .plain (by decide), by simp⟩
  refine Markup.exists_render _ hspans ?_
  simp [Markup.Span.write]

theorem Admits.validate (h : Admits w columns o octets s p r program) (hf : w.Has path o octets) :
    (validate w path false false).Prints columns () := by
  obtain ⟨t, ht⟩ := exists_render_valid o p hf.name
  rw [CommandLine.validate, hf.opened, pure_bind]
  refine (prints_settings h.configured).bind ?_
  refine (prints_load hf.content h.loaded).bind ?_
  simp only [h.valid, counts]
  exact (prints_print ht).bind (h.warned.bind (prints_pure ()))

theorem Refused.validate (h : Refused w columns o octets) (hf : w.Has path o octets) :
    (validate w path false false).Refuses columns := by
  rw [CommandLine.validate, hf.opened, pure_bind]
  cases h with
  | settings hs => exact (refuses_settings hs).bind
  | file hs hc =>
    refine (prints_settings hs).bind_refuses ?_
    exact (refuses_load hf.content hc).bind
  | invalid hs hc hvalid =>
    refine (prints_settings hs).bind_refuses ?_
    refine (prints_load hf.content hc).bind_refuses ?_
    simp only [hvalid]
    split
    · next heq => simp at heq
    · refine (quiet_showInvalid _ _).bind_refuses fun _ => ?_
      exact (quiet_showReport _).bind_refuses fun _ => refuses_exit (by decide)
  | warnings hs hc hvalid hrefuses =>
    refine (prints_settings hs).bind_refuses ?_
    refine (prints_load hf.content hc).bind_refuses ?_
    simp only [hvalid]
    exact (quiet_print _).bind_refuses fun _ => hrefuses.bind

theorem yields_create {text : String}
    (h : ∀ e, Place.ofPath w.files (Path.normalize path) ≠ .none e) :
    (create w path text).Yields columns (.ok ()) [(Path.normalize path, text)] [] := by
  have hwritten (t : Effects) : { t with written := t.written ++ [(Path.normalize path, text)] } =
      t ++ ⟨[], [(Path.normalize path, text)], []⟩ := by simp [Effects.append_eq]
  cases hplace : Place.ofPath w.files (Path.normalize path) with
  | none e => exact absurd hplace (h e)
  | free =>
    simp only [create, hplace]
    exact ⟨[], does_modify hwritten⟩
  | file octets =>
    simp only [create, hplace]
    exact ⟨[], does_modify hwritten⟩

theorem Admits.compile (h : Admits w columns o octets s p r program) (hf : w.Has path o octets)
    (output : String) (hempty : output.isEmpty = false)
    (hfree : Place.ofPath w.files (Path.normalize output) = .free)
    (houtput : Markup.IsUntagged output.toList) :
    (compile w path (some output)).Yields columns (.ok ()) [(Path.normalize output, program)]
      [] := by
  have hspans : ∀ span ∈ [Markup.Span.styled "green".toList "Zapisano".toList, .plain " ".toList,
      .plain output.toList], span.WellFormed := by
    simp only [List.forall_mem_cons]
    exact ⟨.styled Markup.isStyle_green (by decide), .plain (by decide), .plain houtput, by simp⟩
  obtain ⟨t, ht⟩ := Markup.exists_render ("[green]Zapisano[/green] " ++ output) hspans
    (by simp [Markup.Span.write])
  rw [compile_eq]
  refine h.prepared hf ?_
  simp only [hempty]
  refine (yields_create (by simp [hfree])).bind_prints ?_
  exact prints_print ht

theorem isUntagged_timeoutText (timeout : Binary64) :
    Markup.IsUntagged (timeoutText timeout).toList := by
  unfold timeoutText
  split
  · decide
  · exact Markup.isUntagged_writeBinary timeout

/-- What is said of a puzzle before it is solved. -/
def taskText (p : Puzzle) (models : Int) (timeout : Binary64) : String :=
  "Łamigłówka: [bold]" ++ Numeral.write p.houses ++ "[/bold] domów, [bold]" ++
    Numeral.writeNat p.domains.categories.length ++ "[/bold] kategorii, [bold]" ++
    Numeral.writeNat p.rules.length ++ "[/bold] reguł   [dim](modele=" ++ Numeral.write models ++
    ", limit=" ++ timeoutText timeout ++ "s)[/dim]"

theorem exists_render_task (p : Puzzle) (models : Int) (timeout : Binary64) :
    ∃ t, Markup.render (taskText p models timeout) = .ok t := by
  have hsettings : Markup.IsUntagged ("(modele=" ++ Numeral.write models ++ ", limit=" ++
      timeoutText timeout ++ "s)").toList := by
    simp only [String.toList_append, Markup.isUntagged_append]
    exact ⟨⟨⟨⟨by decide, Markup.isUntagged_write models⟩, by decide⟩,
      isUntagged_timeoutText timeout⟩, by decide⟩
  have hspans : ∀ span ∈ [Markup.Span.plain "Łamigłówka: ".toList,
      .styled "bold".toList (Numeral.write p.houses).toList, .plain " domów, ".toList,
      .styled "bold".toList (Numeral.writeNat p.domains.categories.length).toList,
      .plain " kategorii, ".toList, .styled "bold".toList (Numeral.writeNat p.rules.length).toList,
      .plain " reguł   ".toList, .styled "dim".toList ("(modele=" ++ Numeral.write models ++
        ", limit=" ++ timeoutText timeout ++ "s)").toList], span.WellFormed := by
    simp only [List.forall_mem_cons]
    exact ⟨.plain (by decide), .styled Markup.isStyle_bold (Markup.isUntagged_write _),
      .plain (by decide), .styled Markup.isStyle_bold (Markup.isUntagged_writeNat _),
      .plain (by decide), .styled Markup.isStyle_bold (Markup.isUntagged_writeNat _),
      .plain (by decide), .styled Markup.isStyle_dim hsettings, by simp⟩
  refine Markup.exists_render _ hspans ?_
  unfold taskText
  simp [Markup.Span.write]

theorem prints_showTask (p : Puzzle) (models : Int) (timeout : Binary64) :
    (showTask p models timeout).Prints columns () := by
  obtain ⟨t, ht⟩ := exists_render_task p models timeout
  exact prints_print ht

/-- What is made of the answer of a solver. -/
def received : Except SolverFailure SolverResult → Shell SolverResult
  | .ok R => pure R
  | .error (.failed text) => do
    Shell.print ("[red]Błąd solvera:[/red] " ++ text)
    Shell.exit 1
  | .error (.unknownStatus name) => Shell.stop (.fault (.status name))

/-- The request is made before anything else, and made once. -/
theorem ask_eq (w : World) (timeout : Binary64) (request : Request) :
    ask w timeout request = (do
      modify fun t => { t with requests := t.requests ++ [(timeout, request)] }
      received (w.solver request)) := by
  unfold ask received
  rcases w.solver request with (text | name) | R <;> rfl

/-- What the solver answers is printed at most. -/
theorem quiet_received (answer : Except SolverFailure SolverResult) :
    (received answer).Quiet columns := by
  unfold received
  split
  · exact quiet_pure _
  · exact .inr ((quiet_print _).bind_refuses fun _ => refuses_exit (by decide))
  · exact .inr (refuses_stop (by simp))

/-- The solver is asked once, whatever it answers. -/
theorem exists_yields_ask {timeout : Binary64} {request : Request} {g : SolverResult → Shell Unit}
    (hg : ∀ result, (g result).Quiet columns) :
    ∃ outcome, outcome ≠ .error (.exit 0) ∧
      (ask w timeout request >>= g).Yields columns outcome [] [(timeout, request)] := by
  obtain ⟨outcome, houtcome, hyields⟩ :=
    ((quiet_received (w.solver request)).bind hg).exists_yields
  have hasked : (modify fun t => { t with requests := t.requests ++ [(timeout, request)] } :
      Shell Unit).Yields columns (.ok ()) [] [(timeout, request)] :=
    ⟨[], does_modify fun t => by simp [Effects.append_eq]⟩
  refine ⟨outcome, houtcome, ?_⟩
  rw [ask_eq, bind_assoc]
  exact hasked.bind_prints hyields

theorem Admits.solve (h : Admits w columns o octets s p r program) (hf : w.Has path o octets) :
    ∃ outcome, outcome ≠ .error (.exit 0) ∧ (solve w path none none false).Yields columns outcome []
      [(s.timeout, ⟨program, s.models⟩)] := by
  obtain ⟨outcome, houtcome, hyields⟩ := exists_yields_ask (w := w)
    fun result => quiet_conclude (result.decode p.domains) p
  refine ⟨outcome, houtcome, ?_⟩
  rw [solve_eq]
  exact h.prepared hf ((prints_showTask p s.models s.timeout).bind hyields)

theorem Refused.compile {output : String} (h : Refused w columns o octets)
    (hf : w.Has path o octets) :
    (compile w path (some output)).Refuses columns := by
  rw [compile_eq]
  exact h.prepared hf

theorem Refused.solve (h : Refused w columns o octets) (hf : w.Has path o octets) :
    (solve w path none none false).Refuses columns := by
  rw [solve_eq]
  exact h.prepared hf

end Commands

section Runs

theorem name_file (octets : List Nat) : (Opened.mk "p.json" (.ok octets)).name = "p.json" := by
  have hname : Path.fileName "p.json" = "p.json" := rfl
  rw [Opened.name, hname]

theorem World.has_file (octets : List Nat) (environment : Environment) (solver : Solver) :
    World.Has ⟨[("p.json", octets)], environment, solver⟩ "p.json" ⟨"p.json", .ok octets⟩
      octets := by
  refine ⟨fun _ => rfl, rfl, ?_⟩
  rw [name_file]
  decide

theorem ofArguments_validate : Invocation.ofArguments ["validate", "p.json"] =
    .run (.validate "p.json" false false) := by
  rfl

theorem ofArguments_compile : Invocation.ofArguments ["compile", "p.json", "-o", "out.lp"] =
    .run (.compile "p.json" (some "out.lp")) := by
  decide +kernel

theorem ofArguments_solve : Invocation.ofArguments ["solve", "p.json"] =
    .run (.solve "p.json" none none false) := by
  rfl

theorem Admits.runs (h : Admits w columns o octets s p r program) (hf : w.Has "p.json" o octets)
    (hfree : Place.ofPath w.files "out.lp" = .free) :
    (run w ["validate", "p.json"] columns).1 = .exit 0 ∧
    (run w ["compile", "p.json", "-o", "out.lp"] columns).1 = .exit 0 ∧
    (run w ["compile", "p.json", "-o", "out.lp"] columns).2.written = [("out.lp", program)] ∧
    (run w ["solve", "p.json"] columns).2.requests = [(s.timeout, ⟨program, s.models⟩)] := by
  obtain ⟨_, _, hvalid⟩ := (h.validate hf).run ofArguments_validate (by simp)
  obtain ⟨hwritten, _, hcompiled⟩ := (h.compile hf "out.lp" rfl hfree (by decide)).run
    ofArguments_compile (by simp)
  obtain ⟨outcome, houtcome, hyields⟩ := h.solve hf
  obtain ⟨_, hrequests, _⟩ := hyields.run ofArguments_solve houtcome
  exact ⟨hvalid.2 rfl, hcompiled.2 rfl, hwritten, hrequests⟩

theorem Refused.runs (h : Refused w columns o octets) (hf : w.Has "p.json" o octets) :
    (run w ["validate", "p.json"] columns).1 ≠ .exit 0 ∧
    (run w ["compile", "p.json", "-o", "out.lp"] columns).1 ≠ .exit 0 ∧
    (run w ["compile", "p.json", "-o", "out.lp"] columns).2.written = [] ∧
    (run w ["solve", "p.json"] columns).2.requests = [] := by
  obtain ⟨_, _, hvalid⟩ := (h.validate hf).run ofArguments_validate
  obtain ⟨hwritten, _, hcompiled⟩ := Refuses.run ofArguments_compile (h.compile hf)
  obtain ⟨_, hrequests, _⟩ := Refuses.run ofArguments_solve (h.solve hf)
  exact ⟨hvalid, hcompiled, hwritten, hrequests⟩

end Runs

/-- Validation, compilation and solving of one file decide alike. A puzzle is found valid just when
its program is written, and just when the solver is asked, once and for that program; otherwise no
file is written and the solver is not asked. -/
theorem commands_agree (octets : List Nat) (environment : Environment) (solver : Solver)
    (columns : Nat) :
    let w : World := ⟨[("p.json", octets)], environment, solver⟩
    let validated := run w ["validate", "p.json"] columns
    let compiled := run w ["compile", "p.json", "-o", "out.lp"] columns
    let solved := run w ["solve", "p.json"] columns
    (validated.1 = .exit 0 ↔ compiled.1 = .exit 0 ∧
      ∃ s p r program, Settings.ofEnvironment environment = .ok s ∧
        Loading.loadPuzzle "p.json" octets s.aliases = .ok ⟨some p, r⟩ ∧
        p.compile = .ok program ∧ compiled.2.written = [("out.lp", program)]) ∧
    (validated.1 = .exit 0 ↔ solved.2.requests ≠ []) ∧
    (validated.1 = .exit 0 → ∃ program timeout models,
      compiled.2.written = [("out.lp", program)] ∧
        solved.2.requests = [(timeout, ⟨program, models⟩)]) ∧
    (validated.1 ≠ .exit 0 → compiled.2.written = [] ∧ solved.2.requests = []) := by
  intro w validated compiled solved
  have hf := World.has_file octets environment solver
  rcases admits_or_refused w columns ⟨"p.json", .ok octets⟩ octets with ⟨s, p, r, program, h⟩ | h
  · obtain ⟨hvalid, hcompiled, hwritten, hrequests⟩ := h.runs hf rfl
    have hloaded := h.loaded
    rw [name_file] at hloaded
    have hprogram : ∃ s p r program, Settings.ofEnvironment environment = .ok s ∧
        Loading.loadPuzzle "p.json" octets s.aliases = .ok ⟨some p, r⟩ ∧
        p.compile = .ok program ∧ compiled.2.written = [("out.lp", program)] :=
      ⟨s, p, r, program, h.configured, hloaded, h.compiled, hwritten⟩
    have hasked : solved.2.requests ≠ [] := by
      rw [hrequests]
      exact List.cons_ne_nil _ _
    exact ⟨⟨fun _ => ⟨hcompiled, hprogram⟩, fun _ => hvalid⟩, ⟨fun _ => hasked, fun _ => hvalid⟩,
      fun _ => ⟨program, s.timeout, s.models, hwritten, hrequests⟩, fun hne => absurd hvalid hne⟩
  · obtain ⟨hvalid, hcompiled, hwritten, hrequests⟩ := h.runs hf
    exact ⟨⟨fun h => absurd h hvalid, fun h => absurd h.1 hcompiled⟩,
      ⟨fun h => absurd h hvalid, fun h => absurd hrequests h⟩, fun h => absurd h hvalid,
      fun _ => ⟨hwritten, hrequests⟩⟩

end HousePuzzle.CommandLine
