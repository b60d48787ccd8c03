import HousePuzzle.Proofs.CommandLine.Shell
import HousePuzzle.Proofs.Console.Faults
import HousePuzzle.Proofs.Console.Layout
import HousePuzzle.Proofs.Console.Markup
import HousePuzzle.Proofs.Console.Table

/-!
What commands print, and how a run ends in which a text cannot be shown.
-/

namespace HousePuzzle.CommandLine

def lineTexts (lines : List (List Char)) : List Char :=
  lines.flatMap (· ++ ['\n'])

/-- A text on the screen. One that cannot be shown leaves nothing there. -/
def displayed (columns : Nat) (text : String) : List Char :=
  match Markup.render text with
  | .ok t => lineTexts ((⟨columns, true, true, .free⟩ : Layout).render t)
  | .error _ => []

def displayedTable (columns : Nat) (t : Table) : List Char :=
  match t.render columns with
  | .ok lines => lineTexts lines
  | .error _ => []

namespace Shell

variable {columns : Nat} {α : Type} {m : Shell α} {n : Shell Unit} {k : α → Shell Unit} {a : α}
  {o : Except Ending Unit} {cells cells' : List Cell} {cs ds : List Char} {text : String}
  {t : Table} {e : Markup.Error}

/-- What is printed first stands first. -/
theorem Does.bind_printed {written : List (String × String)}
    {requests : List (Binary64 × Request)} (h : m.Does columns (.ok a) ⟨cs, [], []⟩)
    (hk : (k a).Does columns o ⟨ds, written, requests⟩) :
    (m >>= k).Does columns o ⟨cs ++ ds, written, requests⟩ :=
  h.bind hk

theorem does_print {s : StyledText} (h : Markup.render text = .ok s) :
    (print text).Does columns (.ok ()) ⟨displayed columns text, [], []⟩ := by
  unfold print displayed
  rw [h]
  exact (does_pure s).bind_printed (does_read.bind_printed (does_write _))

theorem does_print_error (h : Markup.render text = .error e) :
    (print text).Does columns (.error (.fault (.markup e))) ⟨[], [], []⟩ := by
  unfold print
  rw [h]
  exact (does_stop _).bind_error

/-- Every text that can be shown takes a line, if only an empty one. -/
theorem displayed_ne_nil {s : StyledText} (h : Markup.render text = .ok s) :
    displayed columns text ≠ [] := by
  unfold displayed lineTexts
  rw [h]
  obtain ⟨line, rest, hlines⟩ := List.exists_cons_of_ne_nil
    (Layout.render_ne_nil (l := ⟨columns, true, true, .free⟩) (t := s))
  simp [hlines]

/-- Texts are shown one after the other, up to the first that cannot be shown. -/
structure Shows (m : Shell Unit) (columns : Nat) (cells : List Cell) (cs : List Char) : Prop where
  shown : ∀ texts, cells.mapM Cell.text = .ok texts → m.Does columns (.ok ()) ⟨cs, [], []⟩
  stopped : ∀ e, cells.mapM Cell.text = .error e →
    ∃ ds, m.Does columns (.error (.fault (.markup e))) ⟨ds, [], []⟩

theorem shows_pure : (pure () : Shell Unit).Shows columns [] [] :=
  ⟨fun _ _ => does_pure (), fun _ h => by cases h⟩

theorem shows_print (text : String) :
    (print text).Shows columns [.markup text] (displayed columns text) := by
  constructor
  · intro texts h
    obtain ⟨s, hs, _⟩ := Except.bind_eq_ok_iff.1 h
    exact does_print hs
  · intro e h
    rcases Except.bind_eq_error_iff.1 h with h | ⟨_, _, h⟩
    · exact ⟨[], does_print_error h⟩
    · cases h

theorem Shows.bind {m : Shell Unit} (h : m.Shows columns cells cs)
    (hn : n.Shows columns cells' ds) :
    (m >>= fun _ => n).Shows columns (cells ++ cells') (cs ++ ds) := by
  constructor
  · intro texts htexts
    rw [List.mapM_append] at htexts
    obtain ⟨ts, hts, htexts⟩ := Except.bind_eq_ok_iff.1 htexts
    obtain ⟨us, hus, _⟩ := Except.bind_eq_ok_iff.1 htexts
    exact (h.shown ts hts).bind_printed (hn.shown us hus)
  · intro e he
    rw [List.mapM_append] at he
    rcases Except.bind_eq_error_iff.1 he with he | ⟨ts, hts, he⟩
    · obtain ⟨xs, hxs⟩ := h.stopped e he
      exact ⟨xs, hxs.bind_error⟩
    · rcases Except.bind_eq_error_iff.1 he with he | ⟨_, _, he⟩
      · obtain ⟨xs, hxs⟩ := hn.stopped e he
        exact ⟨cs ++ xs, (h.shown ts hts).bind_printed hxs⟩
      · cases he

theorem shows_forM {β : Type} (text : β → String) (xs : List β) :
    (xs.forM fun x => print (text x)).Shows columns ((xs.map text).map .markup)
      ((xs.map text).flatMap (displayed columns)) := by
  induction xs with
  | nil => exact shows_pure
  | cons x xs ih => exact (shows_print (text x)).bind ih

theorem shows_printTable (t : Table) :
    (printTable t).Shows columns t.cells (displayedTable columns t) := by
  constructor
  · intro texts h
    obtain ⟨lines, hlines⟩ := Table.exists_render_eq_ok_iff.2 ⟨texts, h⟩
    have hwrite : (ok .markup (t.render columns) >>= writeLines).Does columns (.ok ())
        ⟨displayedTable columns t, [], []⟩ := by
      unfold displayedTable
      rw [hlines]
      exact (does_pure lines).bind_printed (does_write _)
    exact does_read.bind_printed hwrite
  · intro e h
    have herror : t.render columns = .error e := Table.render_eq_error_iff.2 h
    have hstop : (ok .markup (t.render columns) >>= writeLines).Does columns
        (.error (.fault (.markup e))) ⟨[], [], []⟩ := by
      rw [herror]
      exact (does_stop _).bind_error
    exact ⟨[], does_read.bind_printed hstop⟩

end Shell

open Shell

/-- What is said of the warnings of a report, if it has any. -/
def warningTexts (r : Report) : List String :=
  if r.warnings.isEmpty then []
  else "[yellow]Ostrzeżenia:[/yellow]" ::
    r.warnings.map fun w => "  [yellow]·[/yellow] " ++ w.message

def warningBlock (columns : Nat) (r : Report) : List Char :=
  (warningTexts r).flatMap (displayed columns)

def errorCells (r : Report) : List Cell :=
  if r.errors.isEmpty then [] else (reportTable r.errors).cells

def errorBlock (columns : Nat) (r : Report) : List Char :=
  if r.errors.isEmpty then [] else displayedTable columns (reportTable r.errors)

theorem shows_showReport {columns : Nat} (r : Report) :
    (showReport r).Shows columns (errorCells r ++ (warningTexts r).map .markup)
      (errorBlock columns r ++ warningBlock columns r) := by
  have hwarnings : (if !r.warnings.isEmpty then do
      Shell.print "[yellow]Ostrzeżenia:[/yellow]"
      r.warnings.forM showWarning
      else pure ()).Shows columns ((warningTexts r).map .markup) (warningBlock columns r) := by
    unfold warningBlock warningTexts
    cases r.warnings.isEmpty with
    | true => exact shows_pure
    | false => exact (shows_print _).bind (shows_forM _ r.warnings)
  unfold showReport errorCells errorBlock
  cases r.errors.isEmpty with
  | true => exact hwarnings
  | false => exact (shows_printTable _).bind hwarnings

theorem shows_showWarnings {columns : Nat} {r : Report} (hvalid : r.isValid = true) :
    (showWarnings r).Shows columns ((warningTexts r).map .markup) (warningBlock columns r) := by
  have herrors : r.errors.isEmpty = true := hvalid
  have hreport : (showReport r).Shows columns (errorCells r ++ (warningTexts r).map .markup)
      (errorBlock columns r ++ warningBlock columns r) := shows_showReport r
  rw [errorCells, errorBlock, herrors] at hreport
  unfold showWarnings
  cases hwarnings : r.warnings.isEmpty with
  | true =>
    unfold warningBlock warningTexts
    rw [hwarnings]
    exact shows_pure
  | false => exact hreport

section Endings

variable {columns : Nat} {w : World} {args : List String} {c : Command} {o : Except Ending Unit}
  {e : Effects}

/-- How a run ends in which a text cannot be shown. A number in it that cannot be read is a fault
of the data. -/
def endingAt : Markup.Error → Ending
  | .numeral _ => .exit 1
  | e => .fault (.markup e)

/-- How a run ends in which a command came to an end, or stopped with an exit code. -/
theorem Shell.Does.run {o : Except Ending Unit} (hargs : Invocation.ofArguments args = .run c)
    (h : (guarded (c.run w)).Does columns o e) :
    CommandLine.run w args columns = (match o with | .ok () => .exit 0 | .error x => x, e) := by
  have hrun : ((main w args).run columns).run.run ⟨[], [], []⟩ = (o, e) := by
    rw [main, hargs, ← Effects.nil_append (s := e)]
    exact h _
  rw [CommandLine.run, hrun]
  cases o <;> rfl

theorem Shell.Does.run_ok (hargs : Invocation.ofArguments args = .run c)
    (h : (c.run w).Does columns (.ok ()) e) : CommandLine.run w args columns = (.exit 0, e) :=
  h.tryCatch_ok.run hargs

theorem Shell.Does.run_exit {code : Nat} (hargs : Invocation.ofArguments args = .run c)
    (h : (c.run w).Does columns (.error (.exit code)) e) :
    CommandLine.run w args columns = (.exit code, e) := by
  have hguarded : (guarded (c.run w)).Does columns (.error (.exit code)) (e ++ ⟨[], [], []⟩) :=
    h.tryCatch_error (does_stop (.exit code))
  rw [Effects.append_nil] at hguarded
  exact hguarded.run hargs

/-- A fault that is reported ends the run with code 1, if what is said of it can be shown. -/
theorem Shell.Does.run_reported {f : Fault} (hargs : Invocation.ofArguments args = .run c)
    (h : (c.run w).Does columns (.error (.fault f)) e) (hf : f.isReported = true)
    (hshown : '[' ∉ f.message.toList) :
    ∃ cs, CommandLine.run w args columns = (.exit 1, e ++ ⟨cs, [], []⟩) := by
  have hspans : ∀ span ∈ [Markup.Span.styled "red".toList "Błąd:".toList, .plain " ".toList],
      span.WellFormed := by
    simp only [List.forall_mem_cons]
    exact ⟨.styled Markup.isStyle_red (by decide), .plain (by decide), by simp⟩
  obtain ⟨t, ht⟩ := Markup.exists_render_append ("[red]Błąd:[/red] " ++ f.message) hspans
    (Markup.isTagless_of_notMem hshown) (by simp [Markup.Span.write])
  have hreport : (do
      Shell.print ("[red]Błąd:[/red] " ++ f.message)
      Shell.exit 1 : Shell Unit).Does columns (.error (.exit 1))
        ⟨displayed columns ("[red]Błąd:[/red] " ++ f.message) ++ [], [], []⟩ :=
    (does_print ht).bind_printed (does_stop _)
  have hguarded : (guarded (c.run w)).Does columns (.error (.exit 1))
      (e ++ ⟨displayed columns ("[red]Błąd:[/red] " ++ f.message) ++ [], [], []⟩) := by
    refine h.tryCatch_error ?_
    dsimp only
    rw [hf]
    exact hreport
  exact ⟨_, hguarded.run hargs⟩

theorem Shell.Does.run_fault {f : Fault} (hargs : Invocation.ofArguments args = .run c)
    (h : (c.run w).Does columns (.error (.fault f)) e) (hf : f.isReported = false) :
    CommandLine.run w args columns = (.fault f, e) := by
  have hguarded : (guarded (c.run w)).Does columns (.error (.fault f)) (e ++ ⟨[], [], []⟩) := by
    refine h.tryCatch_error ?_
    dsimp only
    rw [hf]
    exact does_stop _
  rw [Effects.append_nil] at hguarded
  exact hguarded.run hargs

/-- The run ends at the first text that cannot be shown. -/
theorem Shell.Does.run_markup {text : String} {err : Markup.Error}
    (hargs : Invocation.ofArguments args = .run c)
    (h : (c.run w).Does columns (.error (.fault (.markup err))) e)
    (htext : Markup.render text = .error err) :
    (CommandLine.run w args columns).1 = endingAt err := by
  cases err with
  | numeral n =>
    obtain ⟨cs, hrun⟩ := h.run_reported hargs rfl (Markup.isUntagged_of_render htext)
    rw [hrun]
    rfl
  | unmatched body position => rw [h.run_fault hargs rfl]; rfl
  | nothingOpen position => rw [h.run_fault hargs rfl]; rfl
  | handler f => rw [h.run_fault hargs rfl]; rfl

end Endings

end HousePuzzle.CommandLine
