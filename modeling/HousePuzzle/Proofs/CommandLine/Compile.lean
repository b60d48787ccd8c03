import HousePuzzle.Proofs.CommandLine.Valid

/-!
What `compile` writes. In a file the program stands alone, but what is printed is read through the
same stream as the warnings.
-/

namespace HousePuzzle.CommandLine

open Shell

variable {columns : Nat} {w : World} {path program : String} {args rest : List String}
  {s : Settings} {p : Puzzle} {r : Report}

namespace World.Holds

theorem run_compile (h : w.Holds path s p r) (hprogram : p.compile = .ok program)
    (hargs : Invocation.ofArguments args = .run (.compile path none)) :
    run w args columns = (.exit 0, ⟨warningBlock columns r ++ program.toList, [], []⟩) := by
  have hcompile : (CommandLine.compile w path none).Does columns (.ok ())
      ⟨warningBlock columns r ++ program.toList, [], []⟩ :=
    h.does_prepared (k := fun _ _ program => write program.toList) hprogram (does_write _)
  exact hcompile.run_ok hargs

/-- The file is written, whether or not its name can be shown. -/
theorem written_compile {output : String} (h : w.Holds path s p r)
    (hprogram : p.compile = .ok program)
    (hargs : Invocation.ofArguments args = .run (.compile path (some output)))
    (hempty : output.isEmpty = false)
    (hplace : ∀ e, Place.ofPath w.files (Path.normalize output) ≠ .none e) :
    (run w args columns).2.written = [(Path.normalize output, program)] := by
  obtain ⟨o, ho, hprint⟩ := (quiet_print ("[green]Zapisano[/green] " ++ output)).exists_yields
  obtain ⟨cs, hwrite⟩ := (yields_create hplace).bind_prints (k := fun _ =>
    print ("[green]Zapisano[/green] " ++ output)) hprint
  have hcompile : (CommandLine.compile w path (some output)).Does columns o
      ⟨warningBlock columns r ++ cs, [(Path.normalize output, program)], []⟩ := by
    rw [compile_eq]
    refine h.does_prepared hprogram ?_
    rw [hempty]
    exact hwrite
  exact (Shell.Yields.run hargs ⟨_, hcompile⟩ ho).1

end World.Holds

/-- On the screen the program stands behind the warnings, and alone if there are none; in a file it
always stands alone. -/
theorem printed_compile (h : w.Holds path s p r)
    (hargs : Invocation.ofArguments ("compile" :: rest) = .run (.compile path none))
    (columns : Nat) :
    ∃ program, p.compile = .ok program ∧
      run w ("compile" :: rest) columns =
        (.exit 0, ⟨warningBlock columns r ++ program.toList, [], []⟩) ∧
      ((run w ("compile" :: rest) columns).2.printed = program.toList ↔ r.warnings = []) ∧
      ∀ rest' output,
        Invocation.ofArguments ("compile" :: rest') = .run (.compile path (some output)) →
        output.isEmpty = false → (∀ e, Place.ofPath w.files (Path.normalize output) ≠ .none e) →
          (run w ("compile" :: rest') columns).2.written = [(Path.normalize output, program)] := by
  obtain ⟨program, hprogram⟩ := h.exists_compile
  have hrun : run w ("compile" :: rest) columns =
      (.exit 0, ⟨warningBlock columns r ++ program.toList, [], []⟩) := h.run_compile hprogram hargs
  refine ⟨program, hprogram, hrun, ?_, fun _ _ hargs' => h.written_compile hprogram hargs'⟩
  rw [hrun]
  simpa using h.warningBlock_eq_nil_iff

theorem ofArguments_compile_file :
    Invocation.ofArguments ["compile", "p.json"] = .run (.compile "p.json" none) := by
  decide +kernel

theorem printed_compile_fewValues :
    let w := World.ofText fewValues fun _ => .error (.failed "")
    ∃ s p r, w.Holds "p.json" s p r ∧
      Invocation.ofArguments ["compile", "p.json"] = .run (.compile "p.json" none) ∧
      ∃ program, p.compile = .ok program ∧
        run w ["compile", "p.json"] 160 =
          (.exit 0, ⟨warningBlock 160 r ++ program.toList, [], []⟩) ∧
        (run w ["compile", "p.json"] 160).2.printed ≠ program.toList ∧
        (run w ["compile", "p.json", "-o", "out.lp"] 160).2.written = [("out.lp", program)] := by
  intro w
  obtain ⟨p, r, h, hwarnings⟩ := holds_fewValues fun _ => .error (.failed "")
  obtain ⟨program, hprogram, hrun, hprinted, hwritten⟩ :=
    printed_compile h ofArguments_compile_file 160
  have hplace : ∀ e, Place.ofPath w.files (Path.normalize "out.lp") ≠ .none e := by
    have hfree : Place.ofPath w.files (Path.normalize "out.lp") = .free := rfl
    simp [hfree]
  have hfile := hwritten ["p.json", "-o", "out.lp"] "out.lp" ofArguments_compile rfl hplace
  exact ⟨_, p, r, h, ofArguments_compile_file, program, hprogram, hrun,
    fun hsame => hwarnings (hprinted.1 hsame), hfile⟩

/-- A puzzle with a warning is not followed by its program alone, however wide the screen is. -/
theorem not_printed_alone_fewValues :
    ¬ ∃ columns, ∀ (w : World) (path : String) (s : Settings) (p : Puzzle) (r : Report)
        (rest : List String), w.Holds path s p r →
      Invocation.ofArguments ("compile" :: rest) = .run (.compile path none) →
        ∃ program, p.compile = .ok program ∧
          run w ("compile" :: rest) columns = (.exit 0, ⟨program.toList, [], []⟩) := by
  rintro ⟨columns, hclaim⟩
  obtain ⟨p, r, h, hwarnings⟩ := holds_fewValues fun _ => .error (.failed "")
  obtain ⟨program, hprogram, hrun⟩ := hclaim _ _ _ p r ["p.json"] h ofArguments_compile_file
  rw [h.run_compile hprogram ofArguments_compile_file] at hrun
  have hblock : warningBlock columns r = [] := by simpa using hrun
  exact hwarnings (h.warningBlock_eq_nil_iff.1 hblock)

end HousePuzzle.CommandLine
