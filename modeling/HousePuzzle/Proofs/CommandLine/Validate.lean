import HousePuzzle.Proofs.Checking
import HousePuzzle.Proofs.CommandLine.ReportTable

/-!
What `validate` shows of a puzzle that is not valid: the report, if all its texts can be shown, and
each error in a row of its own.
-/

namespace HousePuzzle.CommandLine

open Shell

variable {columns : Nat} {w : World} {path : String} {args rest : List String} {s : Settings}
  {c : Checked} {p : Puzzle} {r : Report} {o : Opened} {json normalized : Bool} {octets : List Nat}
  {fields : List (String × Json)} {f : Validation.Failure} {e : Markup.Error}

/-- The line above the table of errors. -/
def invalidText (name : String) (r : Report) : String :=
  "[red]BŁĄD[/red]  Łamigłówka [bold]" ++ name ++ "[/bold] — " ++
    Numeral.writeNat r.errors.length ++ " błąd(ów)."

/-- All texts that are shown of a report with errors, in the order in which they are read. -/
def invalidCells (name : String) (r : Report) : List Cell :=
  .markup (invalidText name r) :: (errorCells r ++ (warningTexts r).map .markup)

/-- The document behind the report, if it is asked for. -/
def documentText (c : Checked) (json normalized : Bool) : List Char :=
  if json then (documentOf c normalized).indented.toList ++ ['\n'] else []

theorem shows_invalid (o : Opened) (r : Report) (columns : Nat) :
    (do showInvalid o r
        showReport r : Shell Unit).Shows columns (invalidCells o.name r)
      (displayed columns (invalidText o.name r) ++
        (errorBlock columns r ++ warningBlock columns r)) :=
  (shows_print (invalidText o.name r)).bind (shows_showReport r)

/-- What follows the report: the document, if it is asked for, and the end of the run. -/
def behindReport (c : Checked) (json normalized : Bool) : Shell Unit := do
  if json then Shell.write ((documentOf c normalized).indented.toList ++ ['\n'])
  Shell.exit 1

theorem does_behindReport (c : Checked) (json normalized : Bool) :
    (behindReport c json normalized).Does columns (.error (.exit 1))
      ⟨documentText c json normalized, [], []⟩ := by
  unfold behindReport documentText
  cases json with
  | true =>
    have hwritten : (do
        Shell.write ((documentOf c normalized).indented.toList ++ ['\n'])
        Shell.exit 1 : Shell Unit).Does columns (.error (.exit 1))
          ⟨(documentOf c normalized).indented.toList ++ ['\n'] ++ [], [], []⟩ :=
      (does_write _).bind_printed (does_stop _)
    rw [List.append_nil] at hwritten
    exact hwritten
  | false => exact does_stop (.exit 1)

/-- The file at the path holds a JSON object. -/
structure World.Reads (w : World) (path : String) (s : Settings) (fields : List (String × Json)) :
    Prop where
  configured : Settings.ofEnvironment w.environment = .ok s
  read : ∃ octets, Place.ofPath w.files (Path.normalize path) = .file octets ∧
    Loading.readObject (Path.fileName (Path.normalize path)) octets = .ok fields

namespace World.Reads

/-- What is opened at the path, and what comes of loading it. -/
theorem exists_opened (h : w.Reads path s fields) :
    ∃ o : Opened, o.name = Path.fileName (Path.normalize path) ∧
      (∀ missing, open? w missing path = pure o) ∧ settings w = pure s ∧
      ∃ octets, o.octets = pure octets ∧ Loading.loadPuzzle o.name octets s.aliases =
        (Checked.ofFields (some .puzzle) s.aliases fields).mapError .failure := by
  obtain ⟨octets, hplace, hread⟩ := h.read
  refine ⟨⟨Path.normalize path, .ok octets⟩, rfl, fun missing => ?_, ?_, octets, rfl, ?_⟩
  · unfold open?
    simp only [hplace]
  · unfold settings
    rw [h.configured]
    rfl
  · unfold Loading.loadPuzzle
    rw [Opened.name, hread]
    rfl

/-- A report with errors is shown before anything else. -/
theorem validate_eq (json normalized : Bool) (h : w.Reads path s fields)
    (hc : Checked.ofFields (some .puzzle) s.aliases fields = .ok c)
    (hvalid : c.report.isValid = false) :
    ∃ o : Opened, o.name = Path.fileName (Path.normalize path) ∧
      CommandLine.validate w path json normalized =
        ((do showInvalid o c.report
             showReport c.report : Shell Unit) >>= fun _ => behindReport c json normalized) := by
  obtain ⟨o, hname, hopen, hs, octets, hoctets, hload⟩ := h.exists_opened
  have hloaded : load o "Błąd wczytywania" s.aliases = pure c := by
    unfold load
    simp only [hoctets, pure_bind, hload, hc, Except.mapError]
  refine ⟨o, hname, ?_⟩
  unfold CommandLine.validate
  simp only [hopen, hs, hloaded, pure_bind, hvalid, bind_assoc]
  cases c.puzzle? <;> rfl

/-- A puzzle that cannot be validated has a position that is too long. -/
theorem does_validate_failure (h : w.Reads path s fields)
    (hf : Checked.ofFields (some .puzzle) s.aliases fields = .error f) :
    (CommandLine.validate w path json normalized).Does columns
      (.error (.fault (.puzzle (.failure f)))) ⟨[], [], []⟩ := by
  obtain ⟨o, _, hopen, hs, octets, hoctets, hload⟩ := h.exists_opened
  have hloaded : load o "Błąd wczytywania" s.aliases =
      Shell.stop (.fault (.puzzle (.failure f))) := by
    unfold load
    simp only [hoctets, pure_bind, hload, hf, Except.mapError]
  unfold CommandLine.validate
  simp only [hopen, hs, pure_bind, hloaded]
  exact (does_stop _).bind_error

variable (h : w.Reads path s fields)
  (hargs : Invocation.ofArguments args = .run (.validate path json normalized))

include h hargs

theorem run_failure (hf : Checked.ofFields (some .puzzle) s.aliases fields = .error f) :
    (run w args columns).1 = .exit 1 := by
  obtain ⟨p, haccepts, hread, hvalidate⟩ := Checked.ofFields_eq_error_iff.1 hf
  have hnormal := Normalization.normal_of_accepts haccepts hread
  obtain ⟨_, o, _, _, rfl⟩ := (Puzzle.validate_eq_error_iff hnormal).1 hvalidate
  obtain ⟨cs, hrun⟩ := Shell.Does.run_reported (c := .validate path json normalized) hargs
    (h.does_validate_failure hf) rfl (Numeral.isUntagged_tooLong _)
  rw [hrun]

variable (hc : Checked.ofFields (some .puzzle) s.aliases fields = .ok c)
  (hvalid : c.report.isValid = false)

include hc hvalid

/-- A report all texts of which can be shown. -/
theorem run_shown {texts : List StyledText}
    (htexts : (invalidCells (Path.fileName (Path.normalize path)) c.report).mapM Cell.text =
      .ok texts) :
    run w args columns = (.exit 1,
      ⟨displayed columns (invalidText (Path.fileName (Path.normalize path)) c.report) ++
        (errorBlock columns c.report ++ warningBlock columns c.report) ++
        documentText c json normalized, [], []⟩) := by
  obtain ⟨o, hname, heq⟩ := h.validate_eq json normalized hc hvalid
  have hshown := (shows_invalid o c.report columns).shown texts (by rwa [hname])
  have hvalidate := hshown.bind_printed (k := fun _ => behindReport c json normalized)
    (does_behindReport c json normalized)
  rw [← heq, hname] at hvalidate
  exact hvalidate.run_exit hargs

/-- A report with a text that cannot be shown. -/
theorem run_unshown (he : (invalidCells (Path.fileName (Path.normalize path)) c.report).mapM
    Cell.text = .error e) :
    (run w args columns).1 = endingAt e := by
  obtain ⟨o, hname, heq⟩ := h.validate_eq json normalized hc hvalid
  obtain ⟨cs, hstopped⟩ := (shows_invalid o c.report columns).stopped e (by rwa [hname])
  have hvalidate := hstopped.bind_error (k := fun _ => behindReport c json normalized)
  rw [← heq] at hvalidate
  obtain ⟨cell, _, hcell⟩ := exists_of_mapM_eq_error he
  cases cell with
  | plain text => cases hcell
  | markup text => exact hvalidate.run_markup hargs hcell

end World.Reads

theorem exists_shown_errors (h : ∀ d ∈ r.errors, d.IsInert) :
    ∃ texts, (errorCells r).mapM Cell.text = .ok texts := by
  unfold errorCells
  split
  · exact ⟨[], rfl⟩
  · exact Table.exists_shown (shows_reportColumns h)

theorem exists_render_invalid {name : String} (r : Report)
    (hname : Markup.IsUntagged name.toList) : ∃ t, Markup.render (invalidText name r) = .ok t := by
  have hspans : ∀ span ∈ [Markup.Span.styled "red".toList "BŁĄD".toList,
      .plain "  Łamigłówka ".toList, .styled "bold".toList name.toList, .plain " — ".toList,
      .plain (Numeral.writeNat r.errors.length).toList, .plain " błąd(ów).".toList],
      span.WellFormed := by
    simp only [List.forall_mem_cons]
    exact ⟨.styled Markup.isStyle_red (by decide), .plain (by decide),
      .styled Markup.isStyle_bold hname, .plain (by decide), .plain (Markup.isUntagged_writeNat _),
      .plain (by decide), by simp⟩
  refine Markup.exists_render _ hspans ?_
  unfold invalidText
  simp [Markup.Span.write]

/-- Where nothing that is quoted can be taken for a tag, everything is shown. -/
theorem exists_shown_invalid {name : String} (hname : Markup.IsUntagged name.toList)
    (herrors : ∀ d ∈ r.errors, d.IsInert)
    (hwarnings : ∃ texts, ((warningTexts r).map .markup).mapM Cell.text = .ok texts) :
    ∃ texts, (invalidCells name r).mapM Cell.text = .ok texts := by
  obtain ⟨t, ht⟩ := exists_render_invalid r hname
  obtain ⟨texts, htexts⟩ := exists_shown_errors herrors
  obtain ⟨rest, hrest⟩ := hwarnings
  refine ⟨t :: (texts ++ rest), ?_⟩
  have hcell : Cell.text (.markup (invalidText name r)) = .ok t := ht
  rw [invalidCells, List.mapM_cons, List.mapM_append, hcell, htexts, hrest]
  rfl

/-- A report with errors ends the run with code 1 if all its texts can be shown, and so does a
position that is too long; but a text that cannot be shown leaves the program. If no name in the
puzzle has brackets, backslashes or colons all texts can be shown, and each error is a row of the
table with its texts as they are, but for the form of a category name, which loses a part. -/
theorem report_validate (h : w.Reads path s fields)
    (hargs : Invocation.ofArguments ("validate" :: rest) = .run (.validate path json normalized))
    (columns : Nat) :
    (∀ f, Checked.ofFields (some .puzzle) s.aliases fields = .error f →
      (run w ("validate" :: rest) columns).1 = .exit 1) ∧
    ∀ c, Checked.ofFields (some .puzzle) s.aliases fields = .ok c → c.report.isValid = false →
      let name := Path.fileName (Path.normalize path)
      (∀ texts, (invalidCells name c.report).mapM Cell.text = .ok texts →
        run w ("validate" :: rest) columns = (.exit 1,
          ⟨displayed columns (invalidText name c.report) ++
            (errorBlock columns c.report ++ warningBlock columns c.report) ++
            documentText c json normalized, [], []⟩)) ∧
      (∀ e, (invalidCells name c.report).mapM Cell.text = .error e →
        (run w ("validate" :: rest) columns).1 = endingAt e) ∧
      (∀ p, c.puzzle? = some p → p.IsInert → Markup.IsUntagged name.toList →
        (∀ d ∈ c.report.errors, d.IsInert) ∧
          ∃ texts, (invalidCells name c.report).mapM Cell.text = .ok texts) ∧
      ((∀ d ∈ c.report.errors, d.IsInert) →
        Text.total ((reportRooms c.report.errors).map (· + Table.padding)) + 5 ≤ columns →
        errorBlock columns c.report = lineTexts ([] ::
          reportRow c.report.errors ["Kod", "Ścieżka", "Komunikat", "Poprawka"] ::
          Table.rule ((reportRooms c.report.errors).map (· + Table.padding)) ::
          (c.report.errors.map fun d => reportRow c.report.errors
            [d.code, d.path, d.shownMessage, d.expectedFix]) ++ [[]])) := by
  refine ⟨fun f hf => h.run_failure hargs hf, fun c hc hvalid => ?_⟩
  refine ⟨fun texts => h.run_shown hargs hc hvalid, fun e => h.run_unshown hargs hc hvalid,
    fun p hp hinert hname => ?_, fun hinert hroom => ?_⟩
  · have hvalidate : p.validate = .ok c.report := by
      rcases Checked.cases_of_ofFields hc with ⟨hnone, _⟩ | ⟨q, hq, hvalidate⟩
      · rw [hp] at hnone
        cases hnone
      · rw [hp] at hq
        exact Option.some.inj hq ▸ hvalidate
    obtain ⟨herrors, hwarnings⟩ := Validation.concerns_of_validate hvalidate
    have hdefects : ∀ d ∈ c.report.errors, d.IsInert := fun d hd => hinert.defect (herrors d hd)
    exact ⟨hdefects, exists_shown_invalid hname hdefects
      (hinert.isUntagged.exists_shown_warnings hwarnings)⟩
  · have hne : c.report.errors.isEmpty = false := hvalid
    rw [errorBlock, hne]
    exact displayedTable_reportTable hinert hroom

section Runs

theorem exists_reads {text : String} (solver : Solver)
    (hload : Loading.loadPuzzle "p.json" (text.toList.map Char.toNat) .standard = .ok c) :
    ∃ fields, (World.ofText text solver).Reads "p.json" ⟨defaultModels, .zero false, .standard⟩
        fields ∧ Checked.ofFields (some .puzzle) .standard fields = .ok c := by
  obtain ⟨fields, hread, hfields⟩ := Except.bind_eq_ok_iff.1 hload
  exact ⟨fields, ⟨rfl, ⟨_, rfl, Except.mapError_eq_ok_iff.1 hread⟩⟩,
    Except.mapError_eq_ok_iff.1 hfields⟩

/-- A category without values. The row that tells of it is short. -/
def noValues : String :=
  "\x7b\"houses\":1,\"domains\":\x7b\"a\":[]\x7d,\"rules\":[]\x7d"

theorem exists_load_noValues :
    ∃ p r, Loading.loadPuzzle "p.json" (noValues.toList.map Char.toNat) .standard =
        .ok ⟨some p, r⟩ ∧ r.isValid = false ∧ p.IsInert ∧
      Text.total ((reportRooms r.errors).map (· + Table.padding)) + 5 ≤ 160 := by
  have hloaded : (Loading.loadPuzzle "p.json" (noValues.toList.map Char.toNat)
      .standard).toOption.map (fun c => (c.report.isValid, c.puzzle?.map fun p => decide p.IsInert,
        decide (Text.total ((reportRooms c.report.errors).map (· + Table.padding)) + 5 ≤ 160))) =
      some (false, some true, true) := by decide +kernel
  cases hload : Loading.loadPuzzle "p.json" (noValues.toList.map Char.toNat) .standard with
  | error e => simp [hload, Except.toOption] at hloaded
  | ok c =>
    obtain ⟨_ | p, r⟩ := c
    · simp [hload, Except.toOption] at hloaded
    · simp only [hload, Except.toOption, Option.map_some, Option.some.injEq, Prod.mk.injEq,
        decide_eq_true_eq] at hloaded
      exact ⟨p, r, rfl, hloaded.1, hloaded.2.1, hloaded.2.2⟩

theorem report_validate_noValues :
    let w := World.ofText noValues fun _ => .error (.failed "")
    ∃ s fields p r, w.Reads "p.json" s fields ∧
      Invocation.ofArguments ["validate", "p.json"] = .run (.validate "p.json" false false) ∧
      Checked.ofFields (some .puzzle) s.aliases fields = .ok ⟨some p, r⟩ ∧ r.isValid = false ∧
      p.IsInert ∧ (run w ["validate", "p.json"] 160).1 = .exit 1 ∧
      errorBlock 160 r = lineTexts ([] ::
        reportRow r.errors ["Kod", "Ścieżka", "Komunikat", "Poprawka"] ::
        Table.rule ((reportRooms r.errors).map (· + Table.padding)) ::
        (r.errors.map fun d => reportRow r.errors
          [d.code, d.path, d.shownMessage, d.expectedFix]) ++ [[]]) := by
  intro w
  obtain ⟨p, r, hload, hvalid, hinert, hroom⟩ := exists_load_noValues
  obtain ⟨fields, h, hc⟩ := exists_reads (fun _ => .error (.failed "")) hload
  obtain ⟨_, hreport⟩ := report_validate h ofArguments_validate 160
  obtain ⟨hshown, _, hplain, hrows⟩ := hreport _ hc hvalid
  obtain ⟨hdefects, texts, htexts⟩ := hplain p rfl hinert (by decide)
  refine ⟨_, fields, p, r, h, ofArguments_validate, hc, hvalid, hinert, ?_, hrows hdefects hroom⟩
  rw [hshown texts htexts]

/-- A category whose name is a closing tag. -/
def closingName : String :=
  "\x7b\"houses\":1,\"domains\":\x7b\"[/red]\":[\"b\"]\x7d,\"rules\":[]\x7d"

theorem not_shown_closingName :
    ¬ ∃ columns, ∀ (w : World) (path : String) (s : Settings) (fields : List (String × Json))
        (c : Checked) (rest : List String) (json normalized : Bool), w.Reads path s fields →
      Invocation.ofArguments ("validate" :: rest) = .run (.validate path json normalized) →
      Checked.ofFields (some .puzzle) s.aliases fields = .ok c → c.report.isValid = false →
        (run w ("validate" :: rest) columns).1 = .exit 1 := by
  rintro ⟨columns, hclaim⟩
  have hloaded : (Loading.loadPuzzle "p.json" (closingName.toList.map Char.toNat)
      .standard).toOption.map (fun c => (c.report.isValid, c.report.errors.map fun d =>
        (d.code, d.path))) = some (false, [("E_CATEGORY_NAME_INVALID", "/domains/[/red]")]) := by
    decide +kernel
  cases hload : Loading.loadPuzzle "p.json" (closingName.toList.map Char.toNat) .standard with
  | error e => simp [hload, Except.toOption] at hloaded
  | ok c =>
    simp only [hload, Except.toOption, Option.map_some, Option.some.injEq, Prod.mk.injEq] at hloaded
    obtain ⟨hvalid, herrors⟩ := hloaded
    obtain ⟨fields, h, hc⟩ := exists_reads (fun _ => .error (.failed "")) hload
    obtain ⟨position, hpath⟩ := Markup.exists_render_eq_unmatched "/domains/[/red]" []
      (List.forall_mem_singleton.2 (.plain (by decide : Markup.IsUntagged "/domains/".toList)))
      Markup.isStyle_red (by decide)
    obtain ⟨d, herrors, hd⟩ := List.map_eq_singleton_iff.1 herrors
    obtain ⟨hcode, hdpath⟩ := Prod.mk.inj hd
    obtain ⟨rest, hcells⟩ : ∃ rest, invalidCells (Path.fileName (Path.normalize "p.json")) c.report =
        [.markup (invalidText (Path.fileName (Path.normalize "p.json")) c.report), .markup "Kod",
          .markup d.code, .markup "Ścieżka"] ++ .markup d.path :: rest := by
      rw [invalidCells, errorCells, herrors]
      exact ⟨_, rfl⟩
    have hfront : ∀ cell ∈ [Cell.markup (invalidText (Path.fileName (Path.normalize "p.json"))
        c.report), .markup "Kod", .markup d.code, .markup "Ścieżka"], ∃ t, cell.text = .ok t := by
      simp only [List.forall_mem_cons]
      exact ⟨exists_render_invalid _ (by decide), Markup.exists_render_untagged (by decide),
        ⟨_, Markup.render_of_isPlain d.isPlain_code⟩, Markup.exists_render_untagged (by decide),
        by simp⟩
    have hcell : Cell.text (.markup d.path) =
        .error (.unmatched ('/' :: "red".toList) position) := by
      rw [Cell.text, hdpath, hpath]
    have hunshown := mapM_eq_error_of_append rest hfront hcell
    rw [← hcells] at hunshown
    have hending := hclaim _ _ _ _ c ["p.json"] false false h ofArguments_validate hc hvalid
    rw [h.run_unshown ofArguments_validate hc hvalid hunshown] at hending
    cases hending

end Runs

end HousePuzzle.CommandLine
