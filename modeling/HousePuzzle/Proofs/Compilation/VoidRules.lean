import HousePuzzle.Proofs.Compilation.Lines
import HousePuzzle.Proofs.Validation.Rules

/-!
Rules that say nothing. Validation warns of exactly those rules that have no constraint, and a
puzzle has the same program without them.
-/

namespace HousePuzzle

variable {p : Puzzle} {report : Report} {r : Rule} {rs : List Rule} {cs : List Constraint} {i : Nat}

namespace Report

/-- It is warned that the rule at a place says nothing. -/
def WarnsVoid (report : Report) (i : Nat) : Prop :=
  ∃ w ∈ report.warnings, w.code = "W_POSITION_SAME_NOOP" ∧
    w.path = "/rules/" ++ Numeral.writeNat i

instance : DecidablePred report.WarnsVoid :=
  fun _ => inferInstanceAs (Decidable (∃ w ∈ report.warnings, _))

end Report

/-- A puzzle without the rules of which it is warned that they say nothing. -/
def Puzzle.withoutVoid (p : Puzzle) (report : Report) : Puzzle :=
  { p with rules := (p.rules.zipIdx.filter fun e => ¬ report.WarnsVoid e.2).map Prod.fst }

section Warned

theorem rulePath_injective : Function.Injective rulePath := by
  intro i j h
  apply Numeral.writeNat_injective
  apply String.toList_inj.1
  simpa [rulePath] using congrArg String.toList h

theorem Validation.mem_voidRules_iff {w : Warning} :
    w ∈ voidRules 0 rs ↔ ∃ i r, rs[i]? = some r ∧ r.isVoid = true ∧ w = .voidRule i r := by
  simp only [voidRules, List.mem_map, List.mem_filter, Prod.exists, List.mem_zipIdx_iff_getElem?]
  constructor
  · rintro ⟨r, i, ⟨hr, hvoid⟩, rfl⟩
    exact ⟨i, r, hr, hvoid, rfl⟩
  · rintro ⟨i, r, hr, hvoid, rfl⟩
    exact ⟨r, i, ⟨hr, hvoid⟩, rfl⟩

/-- The rules of a valid puzzle are all looked through. -/
theorem Puzzle.voidWarnings_eq (h : p.validate = .ok report) (hvalid : report.isValid = true) :
    report.voidWarnings = Validation.voidRules 0 p.rules := by
  obtain ⟨hw, hsides⟩ := wellFormed_of_validate h hvalid
  obtain ⟨hhouses, hdomains, _⟩ := Validation.wellFormed_iff.1 hw
  have hearly : Validation.earlyDefects (.int p.houses) p.domains = [] := by
    rw [Validation.earlyDefects, hhouses, hdomains, List.append_nil]
  have hpasses : ∀ r ∈ p.rules, Validation.Passes (.int p.houses) p.domains r.left ∧
      Validation.Passes (.int p.houses) p.domains r.right := fun r hr =>
    ⟨(Validation.passes_iff_sideFits rfl).2 (hsides r hr .left),
      (Validation.passes_iff_sideFits rfl).2 (hsides r hr .right)⟩
  rw [validate, Validation.validate_eq, hearly, if_neg (by decide),
    Validation.ruleFindings_of_passes hpasses] at h
  obtain rfl := Except.ok.inj h
  exact Validation.voidWarnings_eq _ _

theorem Puzzle.warnsVoid_iff (h : p.validate = .ok report) (hvalid : report.isValid = true) :
    report.WarnsVoid i ↔ ∃ r, p.rules[i]? = some r ∧ r.isVoid = true := by
  have hmem (w : Warning) : w ∈ report.warnings ∧ w.code = "W_POSITION_SAME_NOOP" ↔
      w ∈ Validation.voidRules 0 p.rules := by
    rw [← voidWarnings_eq h hvalid, Report.voidWarnings, List.mem_filter, decide_eq_true_eq]
  constructor
  · rintro ⟨w, hw, hcode, hpath⟩
    obtain ⟨j, r, hr, hvoid, rfl⟩ := Validation.mem_voidRules_iff.1 ((hmem w).1 ⟨hw, hcode⟩)
    obtain rfl : j = i := rulePath_injective hpath
    exact ⟨r, hr, hvoid⟩
  · rintro ⟨r, hr, hvoid⟩
    obtain ⟨hw, hcode⟩ := (hmem _).2 (Validation.mem_voidRules_iff.2 ⟨i, r, hr, hvoid, rfl⟩)
    exact ⟨_, hw, hcode, rfl⟩

theorem Puzzle.rules_withoutVoid (h : p.validate = .ok report) (hvalid : report.isValid = true) :
    (p.withoutVoid report).rules = p.rules.filter (!·.isVoid) := by
  have hkept : ∀ e ∈ p.rules.zipIdx,
      decide (¬ report.WarnsVoid e.2) = !e.1.isVoid := by
    intro e he
    have hr : p.rules[e.2]? = some e.1 := List.mem_zipIdx_iff_getElem?.1 he
    simp [warnsVoid_iff h hvalid, hr]
  rw [withoutVoid, List.filter_congr hkept]
  conv_rhs => rw [← List.zipIdx_map_fst 0 p.rules, List.filter_map]
  rfl

end Warned

section Compiled

theorem Rule.constraint?_eq_none_iff : r.constraint? = .ok none ↔ r.isVoid = true := by
  constructor
  · intro h
    simpa using isSome_of_constraint? h
  · intro h
    simp only [isVoid, Bool.and_eq_true, decide_eq_true_eq] at h
    simp [constraint?, h.1.1, h.1.2, h.2]

theorem Puzzle.constraints_of_forall₂
    (h : List.Forall₂ (fun r c => r.constraint? = .ok (some c)) p.rules cs) :
    p.constraints = .ok cs := by
  have hall : p.rules.mapM Rule.constraint? = .ok (cs.map some) :=
    mapM_eq_ok_iff.2 (List.forall₂_map_right_iff.2 h)
  rw [constraints, hall]
  exact congrArg Except.ok (by simp)

theorem Program.render_append (P Q : Program) : render (P ++ Q) = P.render ++ Q.render := by
  rw [render, List.map_append, String.join_append, ← render, ← render]

/-- The constraints come between what does not depend on them. -/
theorem Puzzle.render_programOf (p : Puzzle) (cs : List Constraint) :
    (p.programOf cs).render = p.preamble.render ++
      String.join (cs.map fun c => c.render ++ "\n") ++ "\n#show assign/2.\n" := by
  have hlast : Program.render [Statement.blank, .showAssignments] = "\n#show assign/2.\n" := rfl
  have hlines : Program.render (cs.map Statement.constraint) =
      String.join (cs.map fun c => c.render ++ "\n") := by
    rw [Program.render, List.map_map]
    rfl
  rw [programOf, Program.render_append, Program.render_append, hlast, hlines]

theorem Puzzle.compile_of_constraints (h : p.constraints = .ok cs) :
    p.compile = .ok (p.programOf cs).render := by
  rw [compile, program, h]
  rfl

/-- Void rules leave no trace in a program. -/
theorem Puzzle.constraints_withoutVoid (h : p.validate = .ok report)
    (hvalid : report.isValid = true) (hcs : p.constraints = .ok cs) :
    List.Forall₂ (fun r c => r.constraint? = .ok (some c)) (p.withoutVoid report).rules cs ∧
      (p.withoutVoid report).compile = .ok (p.programOf cs).render := by
  have hall : List.Forall₂ (fun r c => r.constraint? = .ok (some c))
      (p.withoutVoid report).rules cs := by
    rw [rules_withoutVoid h hvalid]
    exact forall₂_constraints hcs
  exact ⟨hall, compile_of_constraints (constraints_of_forall₂ hall)⟩

theorem Puzzle.length_voidWarnings (h : p.validate = .ok report)
    (hvalid : report.isValid = true) (hcs : p.constraints = .ok cs) :
    cs.length + report.voidWarnings.length = p.rules.length := by
  have hvoid : report.voidWarnings.length = p.rules.countP (·.isVoid) := by
    rw [voidWarnings_eq h hvalid, Validation.voidRules, List.length_map,
      ← List.countP_eq_length_filter]
    conv_rhs => rw [← List.zipIdx_map_fst 0 p.rules, List.countP_map]
    rfl
  have hsplit : p.rules.length = p.rules.countP (·.isVoid) + p.rules.countP (!·.isVoid) := by
    simpa using List.length_eq_countP_add_countP (·.isVoid) (l := p.rules)
  rw [length_constraints hcs, hvoid, hsplit, ← List.countP_eq_length_filter, Nat.add_comm]

theorem Puzzle.lineFeed_notMem_constraints (h : p.validate = .ok report)
    (hvalid : report.isValid = true) (hline : p.Unbroken) (hcs : p.constraints = .ok cs) :
    ∀ c ∈ cs, '\n' ∉ c.render.toList := by
  obtain ⟨_, ds, hds, _⟩ := exists_constrains h hvalid hline
  obtain rfl : ds = cs := Except.ok.inj (hds.compiled.symm.trans hcs)
  exact fun c hc => (hds.readable c hc).lineFeed_notMem

end Compiled

namespace Puzzle

/-- Of a valid puzzle just those rules are warned of that have no constraint, and leaving them all
out does not change a character of the program. What the program has from the rules are the
constraints of the others, in their order. -/
theorem voidWarnings_exact (h : p.validate = .ok report) (hvalid : report.isValid = true) :
    (∀ i, report.WarnsVoid i ↔ ∃ r, p.rules[i]? = some r ∧ r.constraint? = .ok none) ∧
    ∃ text cs, p.compile = .ok text ∧ (p.withoutVoid report).compile = .ok text ∧
      List.Forall₂ (fun r c => r.constraint? = .ok (some c)) (p.withoutVoid report).rules cs ∧
      text = p.preamble.render ++ String.join (cs.map fun c => c.render ++ "\n") ++
        "\n#show assign/2.\n" ∧
      (p.Unbroken → ∀ c ∈ cs, '\n' ∉ c.render.toList) ∧
      cs.length + report.voidWarnings.length = p.rules.length := by
  obtain ⟨hw, hsides⟩ := wellFormed_of_validate h hvalid
  obtain ⟨text, htext⟩ := exists_compile hsides
  obtain ⟨program, hprogram, _⟩ := Except.map_eq_ok_iff.1 htext
  obtain ⟨cs, hcs, _⟩ := Except.map_eq_ok_iff.1 hprogram
  obtain ⟨hall, hkept⟩ := constraints_withoutVoid h hvalid hcs
  refine ⟨fun i => ?_, _, cs, compile_of_constraints hcs, hkept, hall, render_programOf p cs,
    fun hline => lineFeed_notMem_constraints h hvalid hline hcs, length_voidWarnings h hvalid hcs⟩
  simp only [warnsVoid_iff h hvalid, Rule.constraint?_eq_none_iff]

/-- Of these rules the first and the third say nothing, though the first one cannot be met. -/
def partlyVoid : Puzzle :=
  { twoHouses with rules := [⟨⟨"position", "1"⟩, .same, ⟨"position", "2"⟩⟩,
      ⟨⟨"position", "1"⟩, .next, ⟨"position", "02"⟩⟩,
      ⟨⟨"position", "2"⟩, .same, ⟨"position", "2\n"⟩⟩,
      ⟨⟨"color", "Blue"⟩, .same, ⟨"position", "1"⟩⟩] }

theorem voidWarnings_exact_partlyVoid :
    ∃ report, (partlyVoid.validate = .ok report ∧ report.isValid = true) ∧
      (report.WarnsVoid 0 ∧ ¬ report.WarnsVoid 1 ∧ report.WarnsVoid 2) ∧
      ∃ text, partlyVoid.compile = .ok text ∧ (partlyVoid.withoutVoid report).compile = .ok text := by
  obtain ⟨report, h, hvalid⟩ : ∃ report, partlyVoid.validate = .ok report ∧
      report.isValid = true := ⟨_, rfl, rfl⟩
  obtain ⟨hwarned, text, cs, htext, hkept, _⟩ := voidWarnings_exact h hvalid
  refine ⟨report, ⟨h, hvalid⟩, ⟨(hwarned 0).2 ⟨_, rfl, rfl⟩, fun hone => ?_,
    (hwarned 2).2 ⟨_, rfl, rfl⟩⟩, text, htext, hkept⟩
  obtain ⟨r, hr, hnone⟩ := (hwarned 1).1 hone
  obtain rfl := Option.some.inj hr
  cases hnone

end Puzzle

end HousePuzzle
