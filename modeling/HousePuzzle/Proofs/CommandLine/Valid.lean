import HousePuzzle.Proofs.CommandLine.Gate
import HousePuzzle.Proofs.CommandLine.Printing
import HousePuzzle.Proofs.Validation.Findings

/-!
Commands on a file that holds a valid puzzle. All that is said of such a puzzle can be shown: its
names have no brackets and no backslashes.
-/

namespace HousePuzzle

open Markup (IsUntagged isUntagged_append isUntagged_write isUntagged_writeNat)

variable {p : Puzzle} {r : Report} {rule : Rule} {name : String}

theorem Name.Fits.isUntagged {form : List Char → Prop}
    (hform : ∀ cs, form cs → ∀ c ∈ cs, isWordChar c = true) (h : Fits form name) :
    IsUntagged name.toList := by
  obtain ⟨cs, hcs, heq | heq⟩ := h
  all_goals
    have hword : IsUntagged cs := fun c hc =>
      ⟨ne_of_isWordChar rfl (hform cs hcs c hc), ne_of_isWordChar rfl (hform cs hcs c hc)⟩
    rw [heq]
  · exact hword
  · exact isUntagged_append.2 ⟨hword, by decide⟩

namespace Puzzle.WellFormed

theorem isUntagged_category {e : String × List String} (hp : p.WellFormed)
    (he : e ∈ p.domains.domains) : IsUntagged e.1.toList :=
  (hp.predicates e he).1.isUntagged fun _ h => h.valueForm.2

theorem isUntagged_value {e : String × List String} {v : String} (hp : p.WellFormed)
    (he : e ∈ p.domains.domains) (hv : v ∈ e.2) : IsUntagged v.toList :=
  (hp.values e he v hv).1.isUntagged fun _ h => h.2

theorem isUntagged_operand (hp : p.WellFormed) (hrule : rule ∈ p.rules) (side : Side) :
    IsUntagged (rule.operand side).category.toList ∧
      IsUntagged (rule.operand side).value.toList := by
  rcases hp.rules rule hrule side with ⟨hposition, hvalue⟩ | ⟨vs, hmem, hv⟩
  · have hcategory : (rule.operand side).category = Name.position := by
      simpa [Operand.isPosition] using hposition
    rw [hcategory]
    exact ⟨by decide, hvalue.isUntagged fun _ h => h.1.valueForm.2⟩
  · exact ⟨hp.isUntagged_category hmem, hp.isUntagged_value hmem hv⟩

end Puzzle.WellFormed

/-- A puzzle whose names have no brackets and no backslashes. -/
structure Puzzle.IsUntagged (p : Puzzle) : Prop where
  categories : ∀ e ∈ p.domains.domains, Markup.IsUntagged e.1.toList
  operands : ∀ rule ∈ p.rules, ∀ side, Markup.IsUntagged (rule.operand side).category.toList ∧
    Markup.IsUntagged (rule.operand side).value.toList

theorem Puzzle.WellFormed.isUntagged (hp : p.WellFormed) : p.IsUntagged :=
  ⟨fun _ he => hp.isUntagged_category he, fun _ hrule => hp.isUntagged_operand hrule⟩

namespace Puzzle.IsUntagged

theorem text (hp : p.IsUntagged) (hrule : rule ∈ p.rules) :
    Markup.IsUntagged rule.text.toList := by
  have hlabel : Markup.IsUntagged rule.operator.label.toList := by
    cases rule.operator <;> decide
  obtain ⟨hleft, hleftValue⟩ := hp.operands rule hrule .left
  obtain ⟨hright, hrightValue⟩ := hp.operands rule hrule .right
  simp only [Rule.text, String.toList_append, isUntagged_append]
  exact ⟨⟨⟨⟨⟨⟨⟨⟨hleft, by decide⟩, hleftValue⟩, by decide⟩, hlabel⟩, by decide⟩, hright⟩,
    by decide⟩, hrightValue⟩

theorem warning {w : Warning} (hp : p.IsUntagged)
    (h : w.Concerns (.int p.houses) p.domains p.rules) : Markup.IsUntagged w.message.toList := by
  cases h with
  | @sizeMismatch c vs hmem =>
    have hrelation : Markup.IsUntagged (Warning.relation vs.length (.int p.houses)).toList := by
      unfold Warning.relation Json.asInt?
      dsimp only
      split_ifs <;> decide
    have hhouses : Markup.IsUntagged (Json.int p.houses).plainText.toList := isUntagged_write p.houses
    unfold Warning.message
    simp only [String.toList_append, isUntagged_append]
    exact ⟨⟨⟨⟨⟨⟨⟨⟨by decide, hp.categories _ hmem⟩, by decide⟩, isUntagged_writeNat _⟩,
      by decide⟩, hrelation⟩, by decide⟩, hhouses⟩, by decide⟩
  | @voidRule i rule hmem _ =>
    unfold Warning.message
    simp only [String.toList_append, isUntagged_append]
    exact ⟨⟨⟨⟨by decide, isUntagged_writeNat i⟩, by decide⟩,
      hp.text (List.mem_of_getElem? hmem)⟩, by decide⟩

end Puzzle.IsUntagged

/-- Warnings about such a puzzle can be shown. -/
theorem Puzzle.IsUntagged.exists_shown_warnings (hp : p.IsUntagged)
    (hwarnings : ∀ warning ∈ r.warnings, warning.Concerns (.int p.houses) p.domains p.rules) :
    ∃ texts, ((CommandLine.warningTexts r).map .markup).mapM Cell.text = .ok texts := by
  have hspans : ∀ span ∈ [Markup.Span.plain "  ".toList, .styled "yellow".toList "·".toList,
      .plain " ".toList], span.WellFormed := by
    simp only [List.forall_mem_cons]
    exact ⟨.plain (by decide), .styled Markup.isStyle_yellow (by decide), .plain (by decide),
      by simp⟩
  have hheading : ∃ t, Markup.render "[yellow]Ostrzeżenia:[/yellow]" = .ok t :=
    Markup.exists_render _ (List.forall_mem_singleton.2
      (.styled Markup.isStyle_yellow
        (by decide : Markup.IsUntagged "Ostrzeżenia:".toList))) (by decide)
  have htexts : ∀ text ∈ CommandLine.warningTexts r, ∃ t, Markup.render text = .ok t := by
    intro text htext
    unfold CommandLine.warningTexts at htext
    split at htext
    · cases htext
    · rcases List.mem_cons.1 htext with rfl | htext
      · exact hheading
      · obtain ⟨warning, hwarning, rfl⟩ := List.mem_map.1 htext
        have huntagged := hp.warning (hwarnings warning hwarning)
        exact Markup.exists_render_append _ hspans
          (Markup.isTagless_of_notMem fun hmem => (huntagged _ hmem).1 rfl)
          (by simp [Markup.Span.write])
  obtain ⟨texts, htexts⟩ := exists_forall₂_iff.2 htexts
  exact ⟨texts, mapM_eq_ok_iff.2 (List.forall₂_map_left_iff.2 htexts)⟩

namespace CommandLine

open Shell

/-- The file at the path holds a valid puzzle, under the settings that are in force. -/
structure World.Holds (w : World) (path : String) (s : Settings) (p : Puzzle) (r : Report) :
    Prop where
  configured : Settings.ofEnvironment w.environment = .ok s
  loaded : ∃ octets, Place.ofPath w.files (Path.normalize path) = .file octets ∧
    Loading.loadPuzzle (Path.fileName (Path.normalize path)) octets s.aliases = .ok ⟨some p, r⟩
  valid : r.isValid = true

variable {columns : Nat} {w : World} {path program : String} {s : Settings} {cs : List Char}
  {k : Settings → Puzzle → String → Shell Unit} {o : Except Ending Unit}
  {written : List (String × String)} {requests : List (Binary64 × Request)}

namespace World.Holds

theorem validate (h : w.Holds path s p r) : p.validate = .ok r := by
  obtain ⟨octets, _, hload⟩ := h.loaded
  obtain ⟨fields, _, hfields⟩ := Except.bind_eq_ok_iff.1 hload
  exact (Checked.ofFields_eq_ok_iff.1 (Except.mapError_eq_ok_iff.1 hfields)).2.2

theorem wellFormed (h : w.Holds path s p r) : p.WellFormed :=
  (Puzzle.wellFormed_of_validate h.validate h.valid).1

theorem exists_compile (h : w.Holds path s p r) : ∃ program, p.compile = .ok program :=
  Puzzle.exists_compile (Puzzle.wellFormed_of_validate h.validate h.valid).2

/-- Other files do not matter. -/
theorem of_files (h : w.Holds path s p r) {files : List (String × List Nat)} {solver : Solver}
    (hplace : Place.ofPath files (Path.normalize path) =
      Place.ofPath w.files (Path.normalize path)) :
    World.Holds ⟨files, w.environment, solver⟩ path s p r := by
  obtain ⟨octets, hfile, hload⟩ := h.loaded
  exact ⟨h.configured, ⟨octets, hplace.trans hfile, hload⟩, h.valid⟩

theorem does_settings (h : w.Holds path s p r) :
    (settings w).Does columns (.ok s) ⟨[], [], []⟩ := by
  unfold settings
  rw [h.configured]
  exact does_pure s

theorem does_loadValid (h : w.Holds path s p r) :
    (loadValid w path s.aliases).Does columns (.ok (p, r)) ⟨[], [], []⟩ := by
  obtain ⟨octets, hplace, hload⟩ := h.loaded
  have hopen : open? w "Brak pliku łamigłówki" path = pure ⟨Path.normalize path, .ok octets⟩ := by
    unfold open?
    simp only [hplace]
  have hloaded : load ⟨Path.normalize path, .ok octets⟩ "Błąd wczytywania łamigłówki" s.aliases =
      pure ⟨some p, r⟩ := by
    unfold load Opened.octets Opened.name Shell.ok
    simp only [pure_bind, hload]
  unfold loadValid
  rw [hopen, pure_bind, hloaded, pure_bind]
  simp only [h.valid]
  exact does_pure (p, r)

theorem exists_shown_warnings (h : w.Holds path s p r) :
    ∃ texts, ((warningTexts r).map .markup).mapM Cell.text = .ok texts :=
  h.wellFormed.isUntagged.exists_shown_warnings (Validation.concerns_of_validate h.validate).2

theorem does_showWarnings (h : w.Holds path s p r) :
    (showWarnings r).Does columns (.ok ()) ⟨warningBlock columns r, [], []⟩ := by
  obtain ⟨texts, htexts⟩ := h.exists_shown_warnings
  exact (shows_showWarnings h.valid).shown texts htexts

/-- The warnings stand in front of whatever a command prints. -/
theorem warningBlock_eq_nil_iff (h : w.Holds path s p r) :
    warningBlock columns r = [] ↔ r.warnings = [] := by
  obtain ⟨texts, htexts⟩ := h.exists_shown_warnings
  unfold warningBlock warningTexts
  cases hwarnings : r.warnings with
  | nil => simp
  | cons warning rest =>
    rw [warningTexts, hwarnings] at htexts
    obtain ⟨t, ht, _⟩ := Except.bind_eq_ok_iff.1 htexts
    simp [displayed_ne_nil ht]

/-- A command on a valid puzzle shows the warnings and goes on with the program. -/
theorem does_prepared (h : w.Holds path s p r) (hprogram : p.compile = .ok program)
    (hk : (k s p program).Does columns o ⟨cs, written, requests⟩) :
    (prepared w path k).Does columns o ⟨warningBlock columns r ++ cs, written, requests⟩ := by
  have hcompile : (compileText p).Does columns (.ok program) ⟨[], [], []⟩ := by
    unfold compileText
    rw [hprogram]
    exact does_pure program
  exact h.does_settings.bind_printed (h.does_loadValid.bind_printed
    (h.does_showWarnings.bind_printed (hcompile.bind_printed hk)))

end World.Holds

/-- One file in the directory of the run, and no settings. -/
def World.ofText (text : String) (solver : Solver) : World :=
  ⟨[("p.json", text.toList.map Char.toNat)], ⟨none, none, none⟩, solver⟩

/-- Two houses, but one value in the only category. -/
def fewValues : String :=
  "\x7b\"houses\":2,\"domains\":\x7b\"a\":[\"b\"]\x7d,\"rules\":[]\x7d"

theorem holds_fewValues (solver : Solver) :
    ∃ p r, (World.ofText fewValues solver).Holds "p.json" ⟨defaultModels, .zero false, .standard⟩ p r ∧
      r.warnings ≠ [] := by
  have hsome : (Loading.loadPuzzle "p.json" (fewValues.toList.map Char.toNat) .standard).toOption.map
      (fun c => (c.puzzle?.isSome, c.report.isValid, c.report.warnings.isEmpty)) =
      some (true, true, false) := by decide +kernel
  cases hload : Loading.loadPuzzle "p.json" (fewValues.toList.map Char.toNat) .standard with
  | error e => simp [hload, Except.toOption] at hsome
  | ok c =>
    obtain ⟨_ | p, r⟩ := c
    · simp [hload, Except.toOption] at hsome
    · simp only [hload, Except.toOption, Option.map_some, Option.some.injEq, Prod.mk.injEq,
        List.isEmpty_eq_false_iff] at hsome
      exact ⟨p, r, ⟨rfl, ⟨_, rfl, hload⟩, hsome.2.1⟩, hsome.2.2⟩

end CommandLine

end HousePuzzle
