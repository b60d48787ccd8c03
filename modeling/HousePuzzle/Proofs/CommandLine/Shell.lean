import HousePuzzle.CommandLine.Run

/-!
What a command does does not depend on what has been done before: it comes to its outcome, and its
effects are added to those that there are.
-/

namespace HousePuzzle.CommandLine

namespace Effects

instance : Append Effects where
  append s t := ⟨s.printed ++ t.printed, s.written ++ t.written, s.requests ++ t.requests⟩

variable {s t u : Effects}

theorem append_eq :
    s ++ t = ⟨s.printed ++ t.printed, s.written ++ t.written, s.requests ++ t.requests⟩ := rfl

@[simp] theorem append_nil : s ++ ⟨[], [], []⟩ = s := by simp [append_eq]

@[simp] theorem nil_append : ⟨[], [], []⟩ ++ s = s := by simp [append_eq]

theorem append_assoc : s ++ t ++ u = s ++ (t ++ u) := by simp [append_eq]

end Effects

namespace Shell

variable {columns : Nat} {α β : Type} {m n : Shell α} {k : α → Shell β} {g : Ending → Shell α}
  {a : α} {o : Except Ending β} {e f : Effects} {x : Ending} {written : List (String × String)}
  {requests : List (Binary64 × Request)}

/-- What a program comes to on a screen of so many columns, and what it does. -/
def Does (m : Shell α) (columns : Nat) (o : Except Ending α) (e : Effects) : Prop :=
  ∀ s, (m.run columns).run.run s = (o, s ++ e)

section Does

theorem does_pure (a : α) : (pure a : Shell α).Does columns (.ok a) ⟨[], [], []⟩ := by
  intro s
  rw [Effects.append_nil]
  rfl

theorem does_stop (x : Ending) : (stop x : Shell α).Does columns (.error x) ⟨[], [], []⟩ := by
  intro s
  rw [Effects.append_nil]
  rfl

theorem does_modify {h : Effects → Effects} (hh : ∀ s, h s = s ++ e) :
    (modify h : Shell Unit).Does columns (.ok ()) e := by
  intro s
  rw [← hh]
  rfl

theorem does_read : (read : Shell Nat).Does columns (.ok columns) ⟨[], [], []⟩ := by
  intro s
  rw [Effects.append_nil]
  rfl

theorem does_write (cs : List Char) : (write cs).Does columns (.ok ()) ⟨cs, [], []⟩ :=
  does_modify fun s => by simp [Effects.append_eq]

theorem Does.bind (h : m.Does columns (.ok a) e) (hk : (k a).Does columns o f) :
    (m >>= k).Does columns o (e ++ f) := by
  intro s
  rw [← Effects.append_assoc, ← hk, ReaderT.run_bind, ExceptT.run_bind, StateT.run_bind, h]
  rfl

theorem Does.bind_error (h : m.Does columns (.error x) e) :
    (m >>= k).Does columns (.error x) e := by
  intro s
  rw [ReaderT.run_bind, ExceptT.run_bind, StateT.run_bind, h]
  rfl

theorem run_tryCatch (m : Shell α) (g : Ending → Shell α) (columns : Nat) :
    (tryCatch m g).run columns = tryCatch (m.run columns) fun x => (g x).run columns := rfl

theorem Does.tryCatch_ok (h : m.Does columns (.ok a) e) :
    (tryCatch m g).Does columns (.ok a) e := by
  intro s
  rw [run_tryCatch, ExceptT.run_tryCatch, StateT.run_bind, h]
  rfl

theorem Does.tryCatch_error {o : Except Ending α} (h : m.Does columns (.error x) e)
    (hg : (g x).Does columns o f) : (tryCatch m g).Does columns o (e ++ f) := by
  intro s
  rw [← Effects.append_assoc, ← hg, run_tryCatch, ExceptT.run_tryCatch, StateT.run_bind, h]
  rfl

end Does

/-- What a program comes to, writes and asks, whatever it prints. -/
def Yields (m : Shell α) (columns : Nat) (o : Except Ending α) (written : List (String × String))
    (requests : List (Binary64 × Request)) : Prop :=
  ∃ cs, m.Does columns o ⟨cs, written, requests⟩

/-- A program that comes to a value and does no more than print. -/
abbrev Prints (m : Shell α) (columns : Nat) (a : α) : Prop :=
  m.Yields columns (.ok a) [] []

/-- A program that ends the run, but not with code 0, and does no more than print. -/
def Refuses (m : Shell α) (columns : Nat) : Prop :=
  ∃ x, x ≠ .exit 0 ∧ m.Yields columns (.error x) [] []

def Quiet (m : Shell α) (columns : Nat) : Prop :=
  (∃ a, m.Prints columns a) ∨ m.Refuses columns

section Printing

theorem Prints.bind (h : m.Prints columns a) (hk : (k a).Yields columns o written requests) :
    (m >>= k).Yields columns o written requests := by
  obtain ⟨cs, hm⟩ := h
  obtain ⟨ds, hka⟩ := hk
  exact ⟨cs ++ ds, hm.bind hka⟩

theorem Yields.bind_prints (h : m.Yields columns (.ok a) written requests)
    (hk : (k a).Yields columns o [] []) : (m >>= k).Yields columns o written requests := by
  obtain ⟨cs, hm⟩ := h
  obtain ⟨ds, hka⟩ := hk
  have hbind := hm.bind hka
  rw [Effects.append_eq, List.append_nil, List.append_nil] at hbind
  exact ⟨cs ++ ds, hbind⟩

theorem Quiet.exists_yields (h : m.Quiet columns) :
    ∃ o, o ≠ .error (.exit 0) ∧ m.Yields columns o [] [] := by
  cases h with
  | inl h =>
    obtain ⟨a, ha⟩ := h
    exact ⟨.ok a, by simp, ha⟩
  | inr h =>
    obtain ⟨x, hx, hm⟩ := h
    exact ⟨.error x, by simpa using hx, hm⟩

theorem Refuses.bind (h : m.Refuses columns) : (m >>= k).Refuses columns := by
  obtain ⟨x, hx, cs, hm⟩ := h
  exact ⟨x, hx, cs, hm.bind_error⟩

theorem Prints.bind_refuses (h : m.Prints columns a) (hk : (k a).Refuses columns) :
    (m >>= k).Refuses columns := by
  obtain ⟨x, hx, hka⟩ := hk
  exact ⟨x, hx, h.bind hka⟩

theorem Prints.not_refuses (h : m.Prints columns a) : ¬ m.Refuses columns := by
  rintro ⟨x, _, cs, hx⟩
  obtain ⟨ds, ha⟩ := h
  have heq := (ha ⟨[], [], []⟩).symm.trans (hx ⟨[], [], []⟩)
  cases (Prod.mk.inj heq).1

theorem Quiet.bind_refuses (h : m.Quiet columns) (hk : ∀ a, (k a).Refuses columns) :
    (m >>= k).Refuses columns := by
  cases h with
  | inl h =>
    obtain ⟨a, ha⟩ := h
    exact ha.bind_refuses (hk a)
  | inr h => exact h.bind

theorem Quiet.bind (h : m.Quiet columns) (hk : ∀ a, (k a).Quiet columns) :
    (m >>= k).Quiet columns := by
  cases h with
  | inl h =>
    obtain ⟨a, ha⟩ := h
    cases hk a with
    | inl hb =>
      obtain ⟨b, hb⟩ := hb
      exact .inl ⟨b, ha.bind hb⟩
    | inr hb => exact .inr (ha.bind_refuses hb)
  | inr h => exact .inr h.bind

theorem prints_pure (a : α) : (pure a : Shell α).Prints columns a :=
  ⟨[], does_pure a⟩

theorem prints_read : (read : Shell Nat).Prints columns columns :=
  ⟨[], does_read⟩

theorem prints_write (cs : List Char) : (write cs).Prints columns () :=
  ⟨cs, does_write cs⟩

theorem prints_print {text : String} {t : StyledText} (h : Markup.render text = .ok t) :
    (print text).Prints columns () := by
  rw [print, h]
  exact (prints_pure t).bind (prints_read.bind (prints_write _))

theorem refuses_stop (hx : x ≠ .exit 0) : (stop x : Shell α).Refuses columns :=
  ⟨x, hx, [], does_stop x⟩

theorem refuses_exit {code : Nat} (h : code ≠ 0) : (exit code : Shell α).Refuses columns :=
  refuses_stop (by simpa using h)

theorem quiet_pure (a : α) : (pure a : Shell α).Quiet columns :=
  .inl ⟨a, prints_pure a⟩

theorem quiet_ok {ε : Type} (fault : ε → Fault) (r : Except ε α) : (ok fault r).Quiet columns := by
  cases r with
  | ok a => exact quiet_pure a
  | error e => exact .inr (refuses_stop (by simp))

theorem quiet_read : (read : Shell Nat).Quiet columns :=
  .inl ⟨columns, prints_read⟩

theorem quiet_write (cs : List Char) : (write cs).Quiet columns :=
  .inl ⟨(), prints_write cs⟩

theorem quiet_print (text : String) : (print text).Quiet columns :=
  (quiet_ok _ _).bind fun _ => quiet_read.bind fun _ => quiet_write _

theorem quiet_printTable (t : Table) : (printTable t).Quiet columns :=
  quiet_read.bind fun _ => (quiet_ok _ _).bind fun _ => quiet_write _

theorem quiet_forM {h : β → Shell PUnit} (hh : ∀ b, (h b).Quiet columns) (bs : List β) :
    (bs.forM h).Quiet columns := by
  induction bs with
  | nil => exact quiet_pure _
  | cons b bs ih => exact (hh b).bind fun _ => ih

theorem quiet_ite {c : Prop} [Decidable c] (hm : m.Quiet columns) (hn : n.Quiet columns) :
    (if c then m else n).Quiet columns := by
  split
  · exact hm
  · exact hn

end Printing

end Shell

open Shell

variable {columns : Nat}

theorem quiet_showReport (r : Report) : (showReport r).Quiet columns := by
  have hwarnings : (do
      Shell.print "[yellow]Ostrzeżenia:[/yellow]"
      r.warnings.forM showWarning : Shell Unit).Quiet columns :=
    (quiet_print _).bind fun _ => quiet_forM (fun _ => quiet_print _) _
  have hrest := quiet_ite (c := !r.warnings.isEmpty) hwarnings (quiet_pure ())
  rw [showReport]
  exact quiet_ite ((quiet_printTable _).bind fun _ => hrest) hrest

theorem quiet_showInvalid (o : Opened) (r : Report) : (showInvalid o r).Quiet columns :=
  quiet_print _

theorem quiet_showSolution (s : Solution) (p : Puzzle) : (showSolution s p).Quiet columns := by
  rw [showSolution]
  refine (quiet_print _).bind fun _ => ?_
  split
  · exact quiet_pure _
  · refine (quiet_printTable _).bind fun _ => ?_
    exact quiet_ite (quiet_print _) ((quiet_ok _ _).bind fun _ => quiet_print _)

theorem quiet_conclude (s : Solution) (p : Puzzle) : (conclude s p).Quiet columns := by
  rw [conclude]
  refine (quiet_showSolution s p).bind fun _ => ?_
  exact quiet_ite (.inr (refuses_exit (by decide))) (quiet_pure _)

section Guarded

variable {m : Shell Unit} {o : Except Ending Unit} {written : List (String × String)}
  {requests : List (Binary64 × Request)}

/-- A command that is guarded ends with code 0 where it did, and what the guard does is print. -/
theorem Shell.Yields.exists_guarded (h : m.Yields columns o written requests)
    (ho : o ≠ .error (.exit 0)) :
    ∃ o', (guarded m).Yields columns o' written requests ∧ o' ≠ .error (.exit 0) ∧
      (o' = .ok () ↔ o = .ok ()) := by
  obtain ⟨cs, h⟩ := h
  cases o with
  | ok a => exact ⟨.ok a, ⟨cs, h.tryCatch_ok⟩, ho, Iff.rfl⟩
  | error x =>
    have hguard : ∃ y, y ≠ .exit 0 ∧ (guarded m).Yields columns (.error y) written requests := by
      cases x with
      | exit code =>
        have hdoes : (guarded m).Does columns (.error (.exit code))
            (⟨cs, written, requests⟩ ++ ⟨[], [], []⟩) := h.tryCatch_error (does_stop (.exit code))
        rw [Effects.append_nil] at hdoes
        exact ⟨.exit code, by simpa using ho, cs, hdoes⟩
      | fault f =>
        obtain ⟨y, hy, ds, hg⟩ : (if f.isReported then (do
            Shell.print ("[red]Błąd:[/red] " ++ f.message)
            Shell.exit 1 : Shell Unit)
          else Shell.stop (.fault f)).Refuses columns := by
          split
          · exact (quiet_print _).bind_refuses fun _ => refuses_exit (by decide)
          · exact refuses_stop (by simp)
        have hdoes : (guarded m).Does columns (.error y)
            (⟨cs, written, requests⟩ ++ ⟨ds, [], []⟩) := h.tryCatch_error hg
        rw [Effects.append_eq, List.append_nil, List.append_nil] at hdoes
        exact ⟨y, hy, cs ++ ds, hdoes⟩
    obtain ⟨y, hy, hdoes⟩ := hguard
    exact ⟨.error y, hdoes, by simpa using hy, by simp⟩

/-- A run in which a command comes to its end, or does not. -/
theorem Shell.Yields.run {w : World} {args : List String} {c : Command}
    (hargs : Invocation.ofArguments args = .run c) (h : (c.run w).Yields columns o written requests)
    (ho : o ≠ .error (.exit 0)) :
    (run w args columns).2.written = written ∧ (run w args columns).2.requests = requests ∧
      ((run w args columns).1 = .exit 0 ↔ o = .ok ()) := by
  obtain ⟨o', ⟨cs, hdoes⟩, ho', hiff⟩ := h.exists_guarded ho
  have hrun : ((main w args).run columns).run.run ⟨[], [], []⟩ = (o', ⟨cs, written, requests⟩) := by
    rw [main, hargs, ← Effects.nil_append (s := ⟨cs, written, requests⟩)]
    exact hdoes _
  rw [CommandLine.run, hrun, ← hiff]
  cases o' with
  | ok a => simp
  | error x => simpa using ho'

theorem Shell.Refuses.run {w : World} {args : List String} {c : Command}
    (hargs : Invocation.ofArguments args = .run c) (h : (c.run w).Refuses columns) :
    (run w args columns).2.written = [] ∧ (run w args columns).2.requests = [] ∧
      (run w args columns).1 ≠ .exit 0 := by
  obtain ⟨x, hx, hyields⟩ := h
  obtain ⟨hwritten, hrequests, hiff⟩ := hyields.run hargs (by simpa using hx)
  exact ⟨hwritten, hrequests, by simp [hiff]⟩

end Guarded

end HousePuzzle.CommandLine
