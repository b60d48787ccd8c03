import HousePuzzle.Proofs.CommandLine.Valid
import HousePuzzle.Proofs.Decoding
import HousePuzzle.Proofs.Json.Token

/-!
What is shown of a solution. Nothing in it comes from the solver but values of the puzzle and the
count of models, so it can be shown whatever the solver answers.
-/

namespace HousePuzzle

open Markup (IsUntagged IsOrdinary isUntagged_writeNat)

variable {p : Puzzle} {d : Registry} {c v : String} {vs : List String} {as : List (String × String)}

theorem Name.toNat_toUpper {x : Char} (h : isSmall x = true) :
    x.toUpper.toNat = x.toNat - 32 := by
  have hrange : 'a'.val ≤ x.val ∧ x.val ≤ 'z'.val := by simpa [isSmall, Char.le_def] using h
  obtain ⟨hlow, hhigh⟩ := isSmall_iff_toNat.1 h
  have hval : x.toUpper.toNat = (x.toNat + 4294967264) % 4294967296 := by
    have hupper : x.toUpper = ⟨x.val + ('A'.val - 'a'.val), _⟩ := dif_pos hrange
    rw [hupper]
    exact UInt32.toNat_add x.val ('A'.val - 'a'.val)
  omega

theorem Markup.isOrdinary_toUpper {x : Char} (h : IsOrdinary x) : IsOrdinary x.toUpper := by
  by_cases hsmall : Name.isSmall x = true
  · have hupper := Name.toNat_toUpper hsmall
    obtain ⟨hlow, hhigh⟩ := Name.isSmall_iff_toNat.1 hsmall
    constructor <;> intro heq <;> rw [heq] at hupper <;> simp at hupper <;> omega
  · have hrange : ¬ ('a'.val ≤ x.val ∧ x.val ≤ 'z'.val) := by
      simpa [Name.isSmall, Char.le_def] using hsmall
    have hupper : x.toUpper = x := dif_neg hrange
    rwa [hupper]

theorem HouseValues.mem_of_mem_attributes (h : (c, v) ∈ attributes d vs) :
    v ∈ (d.values? c).getD [] := by
  obtain ⟨_, _, hfind⟩ := List.mem_filterMap.1 h
  obtain ⟨_, hv, heq⟩ := Option.map_eq_some_iff.1 hfind
  obtain ⟨rfl, rfl⟩ := Prod.mk.inj heq
  simpa using List.find?_some hv

namespace CommandLine

open Shell

variable {columns : Nat} {houses : HouseAssignments}

/-- What stands in a table of a solution are values of the puzzle, each under its category. -/
def IsOfPuzzle (p : Puzzle) (houses : HouseAssignments) : Prop :=
  ∀ h as, (h, as) ∈ houses → ∀ c v, (c, v) ∈ as → v ∈ (p.domains.values? c).getD []

theorem isOfPuzzle_categorize (p : Puzzle) (m : HouseValues) :
    IsOfPuzzle p (m.categorize p.domains) := by
  intro h as has c v hcv
  obtain ⟨vs, _, rfl⟩ := HouseValues.mem_categorize.1 has
  exact HouseValues.mem_of_mem_attributes hcv

/-- What is looked up for a house is a value of the puzzle. -/
theorem IsOfPuzzle.exists_values (hhouses : IsOfPuzzle p houses) {h : Int}
    (hget : Assoc.get? c ((Assoc.get? h houses).getD []) = some v) :
    ∃ vs, (c, vs) ∈ p.domains.domains ∧ v ∈ vs := by
  have hcv := Assoc.mem_of_get?_eq_some hget
  cases has : Assoc.get? h houses with
  | none => simp [has] at hcv
  | some as =>
    rw [has] at hcv
    have hv := hhouses h as (Assoc.mem_of_get?_eq_some has) c v hcv
    cases hvs : p.domains.values? c with
    | none => simp [hvs] at hv
    | some vs =>
      rw [hvs] at hv
      exact ⟨vs, Registry.values?_eq_some_iff.1 hvs, hv⟩

/-- The heading over a category is its name in capitals. -/
theorem isUntagged_heading (hp : p.WellFormed) (hc : c ∈ p.domains.categories) :
    IsUntagged (String.ofList (c.toList.map Char.toUpper)).toList := by
  obtain ⟨vs, hmem⟩ := (Registry.mem_categories_iff.1 hc).1
  rw [String.toList_ofList]
  intro x hx
  obtain ⟨y, hy, rfl⟩ := List.mem_map.1 hx
  exact Markup.isOrdinary_toUpper (hp.isUntagged_category hmem y hy)

/-- A house shows a value under a category, or that it has none. -/
theorem exists_render_entry (hp : p.WellFormed) (hhouses : IsOfPuzzle p houses) (h : Int)
    (c : String) : ∃ t, Markup.render
      ((Assoc.get? c ((Assoc.get? h houses).getD [])).getD "[dim]none[/dim]") = .ok t := by
  cases hget : Assoc.get? c ((Assoc.get? h houses).getD []) with
  | none =>
    exact Markup.exists_render _ (List.forall_mem_singleton.2
      (.styled Markup.isStyle_dim (by decide : IsUntagged "none".toList))) (by decide)
  | some v =>
    obtain ⟨vs, hmem, hv⟩ := hhouses.exists_values hget
    exact Markup.exists_render_untagged (hp.isUntagged_value hmem hv)

theorem exists_shown_solution (hp : p.WellFormed) (hhouses : IsOfPuzzle p houses) :
    ∃ texts, (solutionTable p houses).cells.mapM Cell.text = .ok texts := by
  have hcells : ∀ cell ∈ (solutionTable p houses).cells, ∃ t, cell.text = .ok t := by
    intro cell hcell
    obtain ⟨column, hcolumn, hcell⟩ := List.mem_flatMap.1 hcell
    rcases List.mem_cons.1 hcolumn with rfl | hcolumn
    · rcases List.mem_cons.1 hcell with rfl | hcell
      · exact Markup.exists_render_untagged (by decide : IsUntagged "DOM".toList)
      · obtain ⟨n, _, rfl⟩ := List.mem_map.1 hcell
        exact Markup.exists_render_untagged (isUntagged_writeNat n)
    · obtain ⟨c, hc, rfl⟩ := List.mem_map.1 hcolumn
      rcases List.mem_cons.1 hcell with rfl | hcell
      · exact Markup.exists_render_untagged (isUntagged_heading hp hc)
      · obtain ⟨n, _, rfl⟩ := List.mem_map.1 hcell
        exact exists_render_entry hp hhouses n c
  obtain ⟨texts, htexts⟩ := exists_forall₂_iff.2 hcells
  exact ⟨texts, mapM_eq_ok_iff.2 htexts⟩

theorem isStyle_outcomeStyle (o : Outcome) : Markup.IsStyle (outcomeStyle o).toList := by
  cases o
  · exact Markup.isStyle_green
  · exact Markup.isStyle_red
  · exact Markup.isStyle_yellow
  · exact Markup.isStyle_magenta

/-- The line that tells the outcome can be shown, and then the rest is. -/
theorem does_outcome {k : Unit → Shell Unit} {o : Except Ending Unit} {cs : List Char}
    (outcome : Outcome) (hk : (k ()).Does columns o ⟨cs, [], []⟩) :
    ∃ ds, (Shell.print ("[" ++ outcomeStyle outcome ++ "]" ++ outcome.message ++ "[/" ++
      outcomeStyle outcome ++ "]") >>= k).Does columns o ⟨ds, [], []⟩ := by
  have hmessage : IsUntagged outcome.message.toList := by
    cases outcome with
    | unexpectedOptimum =>
      change IsUntagged (_ ++ _ : String).toList
      rw [String.toList_append, Markup.isUntagged_append]
      exact ⟨Markup.isUntagged_ofList (by decide +kernel), Markup.isUntagged_ofList (by decide)⟩
    | _ => exact Markup.isUntagged_ofList (by decide)
  obtain ⟨t, ht⟩ := Markup.exists_render ("[" ++ outcomeStyle outcome ++ "]" ++
    outcome.message ++ "[/" ++ outcomeStyle outcome ++ "]")
    (List.forall_mem_singleton.2 (.styled (isStyle_outcomeStyle outcome) hmessage))
    (by simp [Markup.Span.write])
  exact ⟨_, (does_print ht).bind_printed hk⟩

variable {R : SolverResult}

/-- Without a solution there is no more to tell. -/
theorem exists_does_conclude_none (p : Puzzle) (hstatus : R.status ≠ .satisfiable) :
    ∃ cs, (conclude (R.decode p.domains) p).Does columns (.error (.exit 2)) ⟨cs, [], []⟩ := by
  have hdecode : R.decode p.domains =
      ⟨.ofStatus R.status, none, [], R.modelsCount, R.moreModels⟩ := by
    unfold SolverResult.decode
    split
    · next h => exact absurd h hstatus
    · rfl
  have hunsolved : (R.decode p.domains).isSolved = false := by
    rw [hdecode]
    cases hR : R.status
    case satisfiable => exact absurd hR hstatus
    all_goals rfl
  have hshow : ∃ cs, (showSolution (R.decode p.domains) p).Does columns (.ok ()) ⟨cs, [], []⟩ := by
    rw [hdecode]
    exact does_outcome _ (does_pure ())
  obtain ⟨cs, hshow⟩ := hshow
  unfold conclude
  rw [hunsolved]
  exact ⟨_, hshow.bind_printed (does_stop (.exit 2))⟩

/-- What is said of other models than the one that is shown. -/
def tellModels (count : Int) (more : Bool) : Shell Unit :=
  if more then
    Shell.print ("[yellow]Istnieje więcej niż jeden model — rozwiązanie nie jest " ++
      "jednoznaczne (pokazano pierwszy).[/yellow]")
  else do
    let count ← Shell.ok .numeral (Numeral.writeShort count)
    Shell.print ("  [dim]modeli: " ++ count ++ "[/dim]")

theorem exists_render_moreModels :
    ∃ t, Markup.render ("[yellow]Istnieje więcej niż jeden model — rozwiązanie nie jest " ++
      "jednoznaczne (pokazano pierwszy).[/yellow]") = .ok t := by
  have hmessage : IsUntagged ("Istnieje więcej niż jeden model — rozwiązanie nie jest ".toList ++
      "jednoznaczne (pokazano pierwszy).".toList) :=
    Markup.isUntagged_append.2 ⟨Markup.isUntagged_ofList (by decide),
      Markup.isUntagged_ofList (by decide)⟩
  have hfront : "[yellow]Istnieje więcej niż jeden model — rozwiązanie nie jest ".toList =
      '[' :: ("yellow".toList ++
        ']' :: "Istnieje więcej niż jeden model — rozwiązanie nie jest ".toList) := by
    change (String.ofList _).toList =
      '[' :: ((String.ofList _).toList ++ ']' :: (String.ofList _).toList)
    simp only [String.toList_ofList]
    rfl
  have hback : "jednoznaczne (pokazano pierwszy).[/yellow]".toList =
      "jednoznaczne (pokazano pierwszy).".toList ++ '[' :: '/' :: ("yellow".toList ++ [']']) := by
    change (String.ofList _).toList = (String.ofList _).toList ++
      '[' :: '/' :: ((String.ofList _).toList ++ [']'])
    simp only [String.toList_ofList]
    rfl
  exact Markup.exists_render _
    (List.forall_mem_singleton.2 (.styled Markup.isStyle_yellow hmessage))
    (by rw [String.toList_append, hfront, hback]; simp [Markup.Span.write, -String.reduceToList])

theorem exists_render_modelsCount (count : Int) :
    ∃ t, Markup.render ("  [dim]modeli: " ++ Numeral.write count ++ "[/dim]") = .ok t := by
  have huntagged : IsUntagged ("modeli: ".toList ++ (Numeral.write count).toList) :=
    Markup.isUntagged_append.2 ⟨by decide, Markup.isUntagged_write count⟩
  have hspans : ∀ span ∈ [Markup.Span.plain "  ".toList,
      .styled "dim".toList ("modeli: ".toList ++ (Numeral.write count).toList)],
      span.WellFormed := by
    simp only [List.forall_mem_cons]
    exact ⟨.plain (by decide), .styled Markup.isStyle_dim huntagged, by simp⟩
  exact Markup.exists_render _ hspans (by simp [Markup.Span.write])

theorem exists_does_tellModels {count : Int} {more : Bool}
    (h : more = true ∨ Json.digitCount count ≤ Numeral.digitLimit) :
    ∃ cs, (tellModels count more).Does columns (.ok ()) ⟨cs, [], []⟩ := by
  cases more with
  | true =>
    obtain ⟨t, ht⟩ := exists_render_moreModels
    exact ⟨_, does_print ht⟩
  | false =>
    have hcount : Json.digitCount count ≤ Numeral.digitLimit := h.resolve_left (by decide)
    obtain ⟨t, ht⟩ := exists_render_modelsCount count
    unfold tellModels
    rw [Json.writeShort_eq_ok hcount]
    exact ⟨_, does_print ht⟩

/-- A count that is too long to be written is not said. -/
theorem does_tellModels_unwritable {count : Int}
    (h : Numeral.digitLimit < Json.digitCount count) :
    (tellModels count false).Does columns (.error (.fault (.numeral .unwritable)))
      ⟨[], [], []⟩ := by
  unfold tellModels
  rw [Json.writeShort_eq_error h]
  exact (does_stop _).bind_error

/-- Of a solution the table is shown, and then what is known of other models. -/
theorem exists_does_conclude_solved {o : Except Ending Unit} {ds : List Char}
    (hp : p.WellFormed) (hstatus : R.status = .satisfiable)
    (h : (tellModels R.modelsCount R.moreModels).Does columns o ⟨ds, [], []⟩) :
    ∃ cs, (conclude (R.decode p.domains) p).Does columns o ⟨cs, [], []⟩ := by
  have hdecode : R.decode p.domains =
      ⟨.solved, some ((HouseValues.ofAtoms (R.witnesses.headD [])).categorize p.domains),
        HouseValues.ofAtoms (R.witnesses.headD []), R.modelsCount, R.moreModels⟩ := by
    simp only [SolverResult.decode, hstatus]
  obtain ⟨texts, htexts⟩ := exists_shown_solution hp
    (isOfPuzzle_categorize p (HouseValues.ofAtoms (R.witnesses.headD [])))
  have hshow : ∃ cs, (showSolution (R.decode p.domains) p).Does columns o ⟨cs, [], []⟩ := by
    rw [hdecode]
    exact does_outcome .solved (((shows_printTable _).shown texts htexts).bind_printed h)
  obtain ⟨cs, hshow⟩ := hshow
  have hsolved : (R.decode p.domains).isSolved = true := by
    rw [hdecode]
    rfl
  unfold conclude
  rw [hsolved]
  cases o with
  | ok u => exact ⟨_, hshow.bind_printed (does_pure ())⟩
  | error x => exact ⟨_, hshow.bind_error⟩

end CommandLine

end HousePuzzle
