import HousePuzzle.Proofs.CommandLine.Conclusion
import HousePuzzle.Proofs.SolverResult

/-!
How `solve` ends and what it prints, for a valid puzzle and any answer of the solver, and that
`decode` prints the same of an answer that was saved.
-/

namespace HousePuzzle.CommandLine

open Shell

variable {columns : Nat} {w : World} {path program result text : String}
  {args rest rest' : List String} {s : Settings} {p : Puzzle} {r : Report} {R : SolverResult}
  {request : Request} {timeout : Binary64} {cs : List Char} {o : Except Ending Unit}
  {models? : Option Int} {timeout? : Option Binary64} {showProgram : Bool} {octets : List Nat}
  {fields : List (String × Json)}

section Ask

/-- The run goes on with the answer. -/
theorem does_ask {k : SolverResult → Shell Unit}
    (h : (received (w.solver request) >>= k).Does columns o ⟨cs, [], []⟩) :
    (ask w timeout request >>= k).Does columns o ⟨cs, [], [(timeout, request)]⟩ := by
  have hrequest : (modify fun t => { t with requests := t.requests ++ [(timeout, request)] } :
      Shell Unit).Does columns (.ok ()) ⟨[], [], [(timeout, request)]⟩ :=
    does_modify fun t => by simp [Effects.append_eq]
  rw [ask_eq, bind_assoc]
  exact hrequest.bind (k := fun _ => received (w.solver request) >>= k) h

/-- A solver that fails ends the run, if what it says can be shown. -/
theorem does_received_shown {t : StyledText} {k : SolverResult → Shell Unit}
    (h : Markup.render ("[red]Błąd solvera:[/red] " ++ text) = .ok t) :
    (received (.error (.failed text)) >>= k).Does columns (.error (.exit 1))
      ⟨displayed columns ("[red]Błąd solvera:[/red] " ++ text), [], []⟩ := by
  have hfailure : (received (.error (.failed text))).Does columns (.error (.exit 1))
      (⟨displayed columns ("[red]Błąd solvera:[/red] " ++ text), [], []⟩ ++ ⟨[], [], []⟩) :=
    (does_print h).bind (does_stop (.exit 1))
  rw [Effects.append_nil] at hfailure
  exact hfailure.bind_error

theorem does_received_unshown {e : Markup.Error} {k : SolverResult → Shell Unit}
    (h : Markup.render ("[red]Błąd solvera:[/red] " ++ text) = .error e) :
    (received (.error (.failed text)) >>= k).Does columns (.error (.fault (.markup e)))
      ⟨[], [], []⟩ :=
  Does.bind_error (Does.bind_error (does_print_error h))

/-- A text without tags can be shown behind the words that tell of the failure. -/
theorem exists_render_failure (h : Markup.IsTagless text.toList) :
    ∃ t, Markup.render ("[red]Błąd solvera:[/red] " ++ text) = .ok t := by
  have hspans : ∀ span ∈ [Markup.Span.styled "red".toList "Błąd solvera:".toList,
      .plain " ".toList], span.WellFormed := by
    simp only [List.forall_mem_cons]
    exact ⟨.styled Markup.isStyle_red (by decide), .plain (by decide), by simp⟩
  exact Markup.exists_render_append _ hspans h (by simp [Markup.Span.write])

end Ask

section Solving

/-- What `solve` prints before the solver answers. -/
def preface (columns : Nat) (r : Report) (p : Puzzle) (program : String) (models : Int)
    (timeout : Binary64) (showProgram : Bool) : List Char :=
  warningBlock columns r ++ ((if showProgram then lineTexts (numbered columns program) else []) ++
    displayed columns (taskText p models timeout))

theorem solve_eq_prepared (w : World) (path : String) (models? : Option Int)
    (timeout? : Option Binary64) (showProgram : Bool) :
    solve w path models? timeout? showProgram = prepared w path (fun s p program => do
      if showProgram then writeLines (numbered (← read) program)
      showTask p (models?.getD s.models) (timeout?.getD s.timeout)
      let result ← ask w (timeout?.getD s.timeout) ⟨program, models?.getD s.models⟩
      conclude (result.decode p.domains) p) := rfl

/-- The solver is asked once, and then the run goes on with what it answers. -/
theorem World.Holds.does_solve (h : w.Holds path s p r) (hprogram : p.compile = .ok program)
    (hrest : (received (w.solver ⟨program, models?.getD s.models⟩) >>= fun R =>
      conclude (R.decode p.domains) p).Does columns o ⟨cs, [], []⟩) :
    (solve w path models? timeout? showProgram).Does columns o
      ⟨preface columns r p program (models?.getD s.models) (timeout?.getD s.timeout) showProgram ++
        cs, [], [(timeout?.getD s.timeout, ⟨program, models?.getD s.models⟩)]⟩ := by
  obtain ⟨t, ht⟩ := exists_render_task p (models?.getD s.models) (timeout?.getD s.timeout)
  have htask := (does_print ht).bind_printed (k := fun _ => ask w (timeout?.getD s.timeout)
    ⟨program, models?.getD s.models⟩ >>= fun R => conclude (R.decode p.domains) p) (does_ask hrest)
  rw [solve_eq_prepared, preface, List.append_assoc, List.append_assoc]
  refine h.does_prepared hprogram ?_
  cases showProgram with
  | true => exact does_read.bind_printed ((does_write _).bind_printed htask)
  | false => exact htask

section Endings

variable (h : w.Holds path s p r) (hprogram : p.compile = .ok program)
  (hargs : Invocation.ofArguments args = .run (.solve path models? timeout? showProgram))

include h hprogram hargs

theorem World.Holds.requests_solve :
    (run w args columns).2.requests =
      [(timeout?.getD s.timeout, ⟨program, models?.getD s.models⟩)] := by
  obtain ⟨o, ho, cs, hdoes⟩ := ((quiet_received (w.solver ⟨program, models?.getD s.models⟩)).bind
    fun R => quiet_conclude (R.decode p.domains) p).exists_yields
  exact (Shell.Yields.run hargs ⟨_, h.does_solve hprogram hdoes⟩ ho).2.1

section Answered

variable (hanswer : w.solver ⟨program, models?.getD s.models⟩ = .ok R)

include hanswer

theorem World.Holds.solve_none (hstatus : R.status ≠ .satisfiable) :
    (run w args columns).1 = .exit 2 := by
  obtain ⟨cs, hdoes⟩ := exists_does_conclude_none p hstatus
  rw [(h.does_solve hprogram (by rw [hanswer]; exact hdoes)).run_exit hargs]

theorem World.Holds.solve_solved (hstatus : R.status = .satisfiable)
    (hcount : R.moreModels = true ∨ Json.digitCount R.modelsCount ≤ Numeral.digitLimit) :
    (run w args columns).1 = .exit 0 := by
  obtain ⟨ds, htell⟩ := exists_does_tellModels hcount
  obtain ⟨cs, hdoes⟩ := exists_does_conclude_solved h.wellFormed hstatus htell
  rw [(h.does_solve hprogram (by rw [hanswer]; exact hdoes)).run_ok hargs]

theorem World.Holds.solve_unwritable (hstatus : R.status = .satisfiable)
    (hmore : R.moreModels = false) (hcount : Numeral.digitLimit < Json.digitCount R.modelsCount) :
    (run w args columns).1 = .exit 1 := by
  have htell : (tellModels R.modelsCount R.moreModels).Does columns
      (.error (.fault (.numeral .unwritable))) ⟨[], [], []⟩ := by
    rw [hmore]
    exact does_tellModels_unwritable hcount
  obtain ⟨cs, hdoes⟩ := exists_does_conclude_solved h.wellFormed hstatus htell
  have hmessage : '[' ∉ (Fault.numeral .unwritable).message.toList := by
    have huntagged : Markup.IsUntagged (Numeral.Error.message .unwritable).toList := by
      unfold Numeral.Error.message
      simp only [String.toList_append, Markup.isUntagged_append]
      exact ⟨⟨Markup.isUntagged_ofList (by decide), Markup.isUntagged_writeNat _⟩,
        Markup.isUntagged_ofList (by decide)⟩
    exact fun hmem => (huntagged _ hmem).1 rfl
  obtain ⟨ds, hrun⟩ := (h.does_solve hprogram (by rw [hanswer]; exact hdoes)).run_reported hargs
    rfl hmessage
  rw [hrun]

end Answered

section Failed

variable (hanswer : w.solver ⟨program, models?.getD s.models⟩ = .error (.failed text))

include hanswer

theorem World.Holds.solve_shown {t : StyledText}
    (ht : Markup.render ("[red]Błąd solvera:[/red] " ++ text) = .ok t) :
    (run w args columns).1 = .exit 1 := by
  rw [(h.does_solve hprogram (by rw [hanswer]; exact does_received_shown ht)).run_exit hargs]

theorem World.Holds.solve_unshown {e : Markup.Error}
    (he : Markup.render ("[red]Błąd solvera:[/red] " ++ text) = .error e) :
    (run w args columns).1 = endingAt e :=
  (h.does_solve hprogram (by rw [hanswer]; exact does_received_unshown he)).run_markup hargs he

end Failed

end Endings

/-- The ending of `solve` tells the outcome: code 0 for a solution, 2 if there is none, and 1 if the
solver fails. But a failure whose text cannot be shown leaves the program, and a count of models
that is too long to be written ends it with code 1. -/
theorem ending_solve (h : w.Holds path s p r)
    (hargs : Invocation.ofArguments ("solve" :: rest) =
      .run (.solve path models? timeout? showProgram)) (columns : Nat) :
    ∃ program, p.compile = .ok program ∧
      (run w ("solve" :: rest) columns).2.requests =
        [(timeout?.getD s.timeout, ⟨program, models?.getD s.models⟩)] ∧
      (∀ R, w.solver ⟨program, models?.getD s.models⟩ = .ok R →
        (R.status ≠ .satisfiable → (run w ("solve" :: rest) columns).1 = .exit 2) ∧
        (R.status = .satisfiable →
          R.moreModels = true ∨ Json.digitCount R.modelsCount ≤ Numeral.digitLimit →
          (run w ("solve" :: rest) columns).1 = .exit 0) ∧
        (R.status = .satisfiable → R.moreModels = false →
          Numeral.digitLimit < Json.digitCount R.modelsCount →
          (run w ("solve" :: rest) columns).1 = .exit 1)) ∧
      ∀ text, w.solver ⟨program, models?.getD s.models⟩ = .error (.failed text) →
        (Markup.IsTagless text.toList → (run w ("solve" :: rest) columns).1 = .exit 1) ∧
        (∀ t, Markup.render ("[red]Błąd solvera:[/red] " ++ text) = .ok t →
          (run w ("solve" :: rest) columns).1 = .exit 1) ∧
        ∀ e, Markup.render ("[red]Błąd solvera:[/red] " ++ text) = .error e →
          (run w ("solve" :: rest) columns).1 = endingAt e := by
  obtain ⟨program, hprogram⟩ := h.exists_compile
  refine ⟨program, hprogram, h.requests_solve hprogram hargs, fun R hanswer => ?_,
    fun text hanswer => ?_⟩
  · exact ⟨h.solve_none hprogram hargs hanswer, h.solve_solved hprogram hargs hanswer,
      h.solve_unwritable hprogram hargs hanswer⟩
  · refine ⟨fun htagless => ?_, fun t => h.solve_shown hprogram hargs hanswer,
      fun e => h.solve_unshown hprogram hargs hanswer⟩
    obtain ⟨t, ht⟩ := exists_render_failure htagless
    exact h.solve_shown hprogram hargs hanswer ht

theorem ending_solve_fewValues :
    let unsatisfiable := World.ofText fewValues fun _ => .ok (Loading.noModels 0)
    let failing := World.ofText fewValues fun _ => .error (.failed "[1] x")
    ∃ s p r, unsatisfiable.Holds "p.json" s p r ∧ failing.Holds "p.json" s p r ∧
      Invocation.ofArguments ["solve", "p.json"] = .run (.solve "p.json" none none false) ∧
      (run unsatisfiable ["solve", "p.json"] 160).1 = .exit 2 ∧
      (run failing ["solve", "p.json"] 160).1 = .exit 1 := by
  intro unsatisfiable failing
  obtain ⟨p, r, h, _⟩ := holds_fewValues fun _ => .ok (Loading.noModels 0)
  have hfailing : failing.Holds "p.json" ⟨defaultModels, .zero false, .standard⟩ p r :=
    ⟨h.configured, h.loaded, h.valid⟩
  obtain ⟨_, _, _, hanswered, _⟩ := ending_solve h ofArguments_solve 160
  obtain ⟨_, _, _, _, hfailed⟩ := ending_solve hfailing ofArguments_solve 160
  have htagless : Markup.IsTagless "[1] x".toList := by
    have htails : ∀ ds ∈ "[1] x".toList.tails, Markup.tagBody? ds = none := by decide
    exact fun ds hds => htails ds ((List.mem_tails ds _).2 hds)
  exact ⟨_, p, r, h, hfailing, ofArguments_solve, (hanswered _ rfl).1 (by decide),
    (hfailed _ rfl).1 htagless⟩

/-- A closing tag in what the solver says leaves the program, however wide the screen is. -/
theorem not_ended_closingTag :
    ¬ ∃ columns, ∀ (w : World) (path : String) (s : Settings) (p : Puzzle) (r : Report)
        (rest : List String) (models? : Option Int) (timeout? : Option Binary64)
        (showProgram : Bool) (program text : String), w.Holds path s p r →
      Invocation.ofArguments ("solve" :: rest) =
        .run (.solve path models? timeout? showProgram) →
      p.compile = .ok program →
      w.solver ⟨program, models?.getD s.models⟩ = .error (.failed text) →
        (run w ("solve" :: rest) columns).1 = .exit 1 := by
  rintro ⟨columns, hclaim⟩
  obtain ⟨p, r, h, _⟩ := holds_fewValues fun _ => .error (.failed "[/red]")
  obtain ⟨program, hprogram⟩ := h.exists_compile
  have hspans : ∀ span ∈ [Markup.Span.styled "red".toList "Błąd solvera:".toList,
      .plain " ".toList], span.WellFormed := by
    simp only [List.forall_mem_cons]
    exact ⟨.styled Markup.isStyle_red (by decide), .plain (by decide), by simp⟩
  obtain ⟨position, hunmatched⟩ := Markup.exists_render_eq_unmatched
    ("[red]Błąd solvera:[/red] " ++ "[/red]") [] hspans Markup.isStyle_red
    (by decide)
  have hending := hclaim _ _ _ p r ["p.json"] none none false program "[/red]" h
    ofArguments_solve hprogram rfl
  rw [h.solve_unshown hprogram ofArguments_solve rfl hunmatched] at hending
  cases hending

end Solving

section Decoding

/-- An answer in a file is concluded from like one that was just given. -/
theorem World.Holds.does_decode (h : w.Holds path s p r)
    (hplace : Place.ofPath w.files (Path.normalize result) = .file octets)
    (hload : Loading.loadResult (Path.fileName (Path.normalize result)) octets = .ok R)
    (hrest : (conclude (R.decode p.domains) p).Does columns o ⟨cs, [], []⟩) :
    (decode w path (some result)).Does columns o ⟨cs, [], []⟩ := by
  have hopen : open? w "Brak pliku wyniku" result = pure ⟨Path.normalize result, .ok octets⟩ := by
    unfold open?
    simp only [hplace]
  have hresult : loadResult ⟨Path.normalize result, .ok octets⟩ = pure R := by
    unfold loadResult Opened.octets Opened.name Shell.ok
    simp only [pure_bind, hload]
  have hpath : (Shell.ok id ((some result).elim (.error .noResult) .ok) : Shell String) =
    pure result := rfl
  have hbehind : (do
      let resultPath ← Shell.ok id ((some result).elim (.error .noResult) .ok)
      let o ← open? w "Brak pliku wyniku" resultPath
      conclude ((← loadResult o).decode p.domains) p : Shell Unit).Does columns o ⟨cs, [], []⟩ := by
    simp only [hpath, pure_bind, hopen, hresult]
    exact hrest
  exact h.does_settings.bind_printed (h.does_loadValid.bind_printed hbehind)

/-- An answer that was saved is decoded like one that was just given: `solve` prints the warnings and
its own line, and then what `decode` prints. -/
theorem decode_agrees_solve (h : w.Holds path s p r)
    (hsolve : Invocation.ofArguments ("solve" :: rest) = .run (.solve path models? timeout? false))
    (hdecode : Invocation.ofArguments ("decode" :: rest') = .run (.decode path (some result)))
    (hplace : Place.ofPath w.files (Path.normalize result) = .file octets)
    (hread : Loading.readObject (Path.fileName (Path.normalize result)) octets = .ok fields)
    (hheld : R.IsHeldBy fields)
    (hanswer : ∀ program, p.compile = .ok program →
      w.solver ⟨program, models?.getD s.models⟩ = .ok R) (columns : Nat) :
    Loading.loadResult (Path.fileName (Path.normalize result)) octets = .ok R ∧
      (run w ("solve" :: rest) columns).1 = .exit (if R.status = .satisfiable then 0 else 2) ∧
      (run w ("decode" :: rest') columns).1 = .exit (if R.status = .satisfiable then 0 else 2) ∧
      (run w ("solve" :: rest) columns).2.printed = warningBlock columns r ++
        displayed columns (taskText p (models?.getD s.models) (timeout?.getD s.timeout)) ++
        (run w ("decode" :: rest') columns).2.printed := by
  obtain ⟨program, hprogram⟩ := h.exists_compile
  have hload := Loading.loadResult_of_isHeldBy hread hheld
  refine ⟨hload, ?_⟩
  split
  · next hstatus =>
    have hcount : R.moreModels = true ∨ Json.digitCount R.modelsCount ≤ Numeral.digitLimit :=
      .inr (Loading.digitCount_of_isHeldBy hread hheld)
    obtain ⟨ds, htell⟩ := exists_does_tellModels hcount
    obtain ⟨cs, hdoes⟩ := exists_does_conclude_solved h.wellFormed hstatus htell
    rw [(h.does_solve hprogram (by rw [hanswer _ hprogram]; exact hdoes)).run_ok hsolve,
      (h.does_decode hplace hload hdoes).run_ok hdecode]
    simp [preface]
  · next hstatus =>
    obtain ⟨cs, hdoes⟩ := exists_does_conclude_none p hstatus
    rw [(h.does_solve hprogram (by rw [hanswer _ hprogram]; exact hdoes)).run_exit hsolve,
      (h.does_decode hplace hload hdoes).run_exit hdecode]
    simp [preface]

/-- A model that gives the first house its value. -/
def oneModel : SolverResult :=
  ⟨.satisfiable, [["assign(b,1)"]], 1, false⟩

def oneModelFields : List (String × Json) :=
  [("Calls", .int 1), ("Result", .str "SATISFIABLE"),
    ("Call", .arr [.obj [("Witnesses", .arr [.obj [("Value", .arr [.str "assign(b,1)"])]])]]),
    ("Models", .obj [("Number", .int 1), ("More", .str "no")])]

theorem isHeldBy_oneModel : oneModel.IsHeldBy oneModelFields :=
  ⟨rfl, ⟨_, _, _, rfl, rfl, .cons ⟨_, rfl, rfl⟩ .nil⟩, ⟨_, rfl, rfl, rfl⟩⟩

theorem writable_oneModelFields : (Json.obj oneModelFields).Writable := by
  have hone : (Json.int 1).Writable := .int (by decide)
  have hwitnesses : (Json.arr [.obj [("Value", .arr [.str "assign(b,1)"])]]).Writable := by
    refine .arr (List.forall_mem_singleton.2 (.obj (by decide) (List.forall_mem_singleton.2 ?_)))
    exact .arr (List.forall_mem_singleton.2 (.str _))
  have hcall : (Json.arr [.obj [("Witnesses",
      .arr [.obj [("Value", .arr [.str "assign(b,1)"])]])]]).Writable :=
    .arr (List.forall_mem_singleton.2 (.obj (by decide) (List.forall_mem_singleton.2 hwitnesses)))
  have hmodels : (Json.obj [("Number", .int 1), ("More", .str "no")]).Writable := by
    refine .obj (by decide) ?_
    simp only [List.forall_mem_cons]
    exact ⟨hone, .str _, by simp⟩
  refine .obj (by decide) ?_
  simp only [oneModelFields, List.forall_mem_cons]
  exact ⟨hone, .str _, hcall, hmodels, by simp⟩

theorem readObject_oneModel : Loading.readObject "result.json"
    (((Json.obj oneModelFields).indentedAt 0).toList.map Char.toNat) = .ok oneModelFields := by
  have hascii : ∀ c ∈ ((Json.obj oneModelFields).indentedAt 0).toList, c.toNat < 128 := by
    -- As characters, since the bytes of a text that is put together are read again at each step.
    simp only [oneModelFields, Json.indentedAt, Json.indentedFields_eq, Json.indentedItems_eq,
      Json.toList_block_cons, Json.fieldText, Json.separated, Json.compact, Json.escaped,
      Json.toList_newline, List.flatMap_cons, List.flatMap_nil, String.toList_append,
      String.toList_ofList]
    decide +kernel
  exact Loading.readObject_indentedAt writable_oneModelFields (Utf8.decode_ascii hascii)

theorem decode_agrees_solve_oneModel :
    let w : World := ⟨[("p.json", fewValues.toList.map Char.toNat),
      ("result.json", ((Json.obj oneModelFields).indentedAt 0).toList.map Char.toNat)],
      ⟨none, none, none⟩, fun _ => .ok oneModel⟩
    ∃ s p r, w.Holds "p.json" s p r ∧
      Invocation.ofArguments ["solve", "p.json"] = .run (.solve "p.json" none none false) ∧
      Invocation.ofArguments ["decode", "p.json", "--result", "result.json"] =
        .run (.decode "p.json" (some "result.json")) ∧
      oneModel.IsHeldBy oneModelFields ∧
      (run w ["solve", "p.json"] 160).1 = .exit 0 ∧
      (run w ["decode", "p.json", "--result", "result.json"] 160).1 = .exit 0 ∧
      (run w ["solve", "p.json"] 160).2.printed = warningBlock 160 r ++
        displayed 160 (taskText p s.models s.timeout) ++
        (run w ["decode", "p.json", "--result", "result.json"] 160).2.printed := by
  intro w
  obtain ⟨p, r, h, _⟩ := holds_fewValues fun _ => .ok oneModel
  have hholds : w.Holds "p.json" ⟨defaultModels, .zero false, .standard⟩ p r := h.of_files rfl
  have hdecode : Invocation.ofArguments ["decode", "p.json", "--result", "result.json"] =
      .run (.decode "p.json" (some "result.json")) := by decide +kernel
  obtain ⟨_, hsolved, hdecoded, hprinted⟩ := decode_agrees_solve hholds ofArguments_solve
    hdecode rfl readObject_oneModel isHeldBy_oneModel (fun _ _ => rfl) 160
  exact ⟨_, p, r, hholds, ofArguments_solve, hdecode, isHeldBy_oneModel, hsolved, hdecoded,
    hprinted⟩

end Decoding

end HousePuzzle.CommandLine
