import HousePuzzle.Proofs.Validation.Domains

/-!
The stages of validation. Each of them reports defects of its own, so the code of a defect tells
where it was found.
-/

namespace HousePuzzle

/-- The stage that finds a defect. -/
inductive Validation.Stage
  | document
  | houses
  | domains
  | rules
  deriving DecidableEq

namespace Defect

open Validation (Stage)

def stage : Defect → Stage
  | schema _ | unreadable _ => .document
  | houseCount _ => .houses
  | reservedCategory _ | categoryName _ | emptyDomain _ _ => .domains
  | valueName _ | valueIsCategory _ | ambiguousValue _ _ => .domains
  | positionRange _ _ | unknownCategory _ _ | foreignValue _ _ => .rules

variable {e : Defect}

theorem code_eq_schema_iff : e.code = "E_SCHEMA_VIOLATION" ↔ e.stage = .document := by
  cases e <;> simp [code, stage]

theorem code_eq_houseCount_iff : e.code = "E_HOUSE_COUNT_INVALID" ↔ e.stage = .houses := by
  cases e <;> simp [code, stage]

theorem code_eq_rule_iff :
    (e.code = "E_RULE_CATEGORY_UNKNOWN" ∨ e.code = "E_RULE_VALUE_NOT_IN_DOMAIN") ↔
      e.stage = .rules := by
  cases e <;> simp [code, stage]

end Defect

namespace Validation

variable {houses : Json} {d : Registry} {rs : List Rule} {e : Defect} {report : Report}

theorem stage_of_mem_houseDefects (h : e ∈ houseDefects houses) : e.stage = .houses := by
  rw [eq_of_mem_houseDefects h, Defect.stage]

theorem stage_of_mem_domainFindings (h : e ∈ (domainFindings houses [] d.domains).1) :
    e.stage = .domains := by
  rw [domainFindings_registry] at h
  obtain ⟨entry, _, he⟩ := List.mem_flatMap.1 h
  rcases mem_faults_iff.1 he with hc | ⟨_, i, v, _, hv⟩
  · rcases cases_of_categoryDefect? hc with ⟨_, rfl⟩ | ⟨_, rfl⟩ | ⟨_, _, rfl⟩ <;> rfl
  · rcases cases_of_valueFault? hv with rfl | rfl | ⟨owner, _, rfl⟩ <;> rfl

theorem code_of_mem_domainFindings {w : Warning} (h : w ∈ (domainFindings houses [] d.domains).2) :
    w.code = "W_SIZE_MISMATCH" := by
  rw [domainFindings_registry, flatMap_mismatches] at h
  obtain ⟨entry, _, rfl⟩ := List.mem_map.1 h
  rfl

theorem stage_of_sideDefect? {p : RulePlace} (h : sideDefect? houses d p = .ok (some e)) :
    e.stage = .rules := by
  rcases cases_of_sideDefect? h with rfl | rfl | ⟨domain, _, rfl⟩ <;> rfl

/-- What the rules add to the defects before them. -/
theorem exists_errors_eq (h : validate houses d rs = .ok report) :
    ∃ late, report.errors = earlyDefects houses d ++ late ∧ ∀ e ∈ late, e.stage = .rules := by
  obtain ⟨late, _, rfl, hlate, _⟩ := exists_found_of_validate h
  refine ⟨late, rfl, fun e he => ?_⟩
  obtain ⟨i, r, side, _, hside⟩ := hlate e he
  exact stage_of_sideDefect? hside

/-- What the rules add to the warnings before them. -/
theorem exists_warnings_eq (h : validate houses d rs = .ok report) :
    ∃ late, report.warnings = (domainFindings houses [] d.domains).2 ++ late ∧
      ∀ w ∈ late, ∃ j r, w = .voidRule j r := by
  obtain ⟨_, void, rfl, _, hvoid⟩ := exists_found_of_validate h
  refine ⟨void, rfl, fun w hw => ?_⟩
  obtain ⟨i, r, _, _, heq⟩ := hvoid w hw
  exact ⟨i, r, heq⟩

theorem stage_ne_document (h : validate houses d rs = .ok report) (he : e ∈ report.errors) :
    e.stage ≠ .document := by
  obtain ⟨late, herrors, hlate⟩ := exists_errors_eq h
  rw [herrors, earlyDefects, List.append_assoc] at he
  rcases List.mem_append.1 he with he | he
  · simp [stage_of_mem_houseDefects he]
  · rcases List.mem_append.1 he with he | he
    · simp [stage_of_mem_domainFindings he]
    · simp [hlate e he]

theorem countP_houseCount (h : validate houses d rs = .ok report) :
    report.errors.countP (·.code = "E_HOUSE_COUNT_INVALID") = (houseDefects houses).length := by
  obtain ⟨late, herrors, hlate⟩ := exists_errors_eq h
  have hhouses : (houseDefects houses).countP (·.code = "E_HOUSE_COUNT_INVALID") =
      (houseDefects houses).length := by
    refine List.countP_eq_length.2 fun e he => decide_eq_true ?_
    exact Defect.code_eq_houseCount_iff.2 (stage_of_mem_houseDefects he)
  have hdomains : (domainFindings houses [] d.domains).1.countP
      (·.code = "E_HOUSE_COUNT_INVALID") = 0 := by
    refine List.countP_eq_zero.2 fun e he => ?_
    simp [Defect.code_eq_houseCount_iff, stage_of_mem_domainFindings he]
  have hrules : late.countP (·.code = "E_HOUSE_COUNT_INVALID") = 0 := by
    refine List.countP_eq_zero.2 fun e he => ?_
    simp [Defect.code_eq_houseCount_iff, hlate e he]
  rw [herrors, earlyDefects, List.countP_append, List.countP_append, hhouses, hdomains, hrules]
  rfl

theorem length_houseDefects_le (houses : Json) : (houseDefects houses).length ≤ 1 := by
  unfold houseDefects
  split
  · split <;> simp
  · simp

end Validation

end HousePuzzle
