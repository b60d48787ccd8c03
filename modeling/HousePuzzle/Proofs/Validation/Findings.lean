import HousePuzzle.Proofs.Validation.Domains

/-!
What findings are about. Every defect and every warning of a puzzle speaks of something that is in
the puzzle, and by its place.
-/

namespace HousePuzzle

/-- The value of an entry of the domains that a place names. -/
def ValuePlace.IsIn (d : Registry) (p : ValuePlace) : Prop :=
  ∃ vs, (p.category, vs) ∈ d.domains ∧ vs[p.index]? = some p.value

/-- The side of a rule that a place names. -/
def RulePlace.IsIn (rs : List Rule) (p : RulePlace) : Prop :=
  ∃ r, rs[p.index]? = some r ∧ p.operand = r.operand p.side

inductive Defect.Concerns (houses : Json) (d : Registry) (rs : List Rule) : Defect → Prop
  | houseCount : Concerns houses d rs (.houseCount houses)
  | reservedCategory {c : String} : c ∈ Assoc.keys d.domains → Concerns houses d rs (.reservedCategory c)
  | categoryName {c : String} : c ∈ Assoc.keys d.domains → Concerns houses d rs (.categoryName c)
  | emptyDomain {c : String} : c ∈ Assoc.keys d.domains → Concerns houses d rs (.emptyDomain c houses)
  | valueName {p : ValuePlace} : p.IsIn d → Concerns houses d rs (.valueName p)
  | valueIsCategory {p : ValuePlace} : p.IsIn d → Concerns houses d rs (.valueIsCategory p)
  | ambiguousValue {p : ValuePlace} {owner : String} :
      p.IsIn d → owner ∈ Assoc.keys d.domains → Concerns houses d rs (.ambiguousValue p owner)
  | positionRange {p : RulePlace} : p.IsIn rs → Concerns houses d rs (.positionRange p houses)
  | unknownCategory {p : RulePlace} :
      p.IsIn rs → Concerns houses d rs (.unknownCategory p (d.categories ++ [Name.position]))
  | foreignValue {p : RulePlace} {domain : List String} :
      p.IsIn rs → (p.operand.category, domain) ∈ d.domains →
        Concerns houses d rs (.foreignValue p domain)

inductive Warning.Concerns (houses : Json) (d : Registry) (rs : List Rule) : Warning → Prop
  | sizeMismatch {c : String} {vs : List String} :
      (c, vs) ∈ d.domains → Concerns houses d rs (.sizeMismatch c vs.length houses)
  | voidRule {i : Nat} {r : Rule} :
      rs[i]? = some r → r.isVoid = true → Concerns houses d rs (.voidRule i r)

namespace Validation

variable {houses : Json} {d : Registry} {rs : List Rule} {entry : String × List String} {e : Defect}
  {report : Report}

theorem concerns_of_mem_houseDefects (h : e ∈ houseDefects houses) : e.Concerns houses d rs := by
  rw [eq_of_mem_houseDefects h]
  exact .houseCount

theorem concerns_of_mem_faults (hentry : entry ∈ d.domains) (h : e ∈ faults houses d entry) :
    e.Concerns houses d rs := by
  have hmem : entry.1 ∈ Assoc.keys d.domains := Assoc.mem_keys_of_mem hentry
  rcases mem_faults_iff.1 h with hc | ⟨_, i, v, hv, hfault⟩
  · rcases cases_of_categoryDefect? hc with ⟨_, rfl⟩ | ⟨_, rfl⟩ | ⟨_, _, rfl⟩
    · exact .reservedCategory hmem
    · exact .categoryName hmem
    · exact .emptyDomain hmem
  · have hplace : ValuePlace.IsIn d ⟨entry.1, i, v⟩ := ⟨entry.2, hentry, hv⟩
    rcases cases_of_valueFault? hfault with rfl | rfl | ⟨owner, howner, rfl⟩
    · exact .valueName hplace
    · exact .valueIsCategory hplace
    · exact .ambiguousValue hplace howner

theorem concerns_of_mem_domainFindings :
    (∀ e ∈ (domainFindings houses [] d.domains).1, e.Concerns houses d rs) ∧
      ∀ w ∈ (domainFindings houses [] d.domains).2, w.Concerns houses d rs := by
  rw [domainFindings_registry, flatMap_mismatches]
  refine ⟨fun e he => ?_, fun w hw => ?_⟩
  · obtain ⟨entry, hentry, he⟩ := List.mem_flatMap.1 he
    exact concerns_of_mem_faults hentry he
  · obtain ⟨entry, hentry, rfl⟩ := List.mem_map.1 hw
    exact .sizeMismatch (List.mem_of_mem_filter hentry)

theorem concerns_of_sideDefect? {p : RulePlace} (hp : p.IsIn rs)
    (h : sideDefect? houses d p = .ok (some e)) : e.Concerns houses d rs := by
  rcases cases_of_sideDefect? h with rfl | rfl | ⟨domain, hdomain, rfl⟩
  · exact .positionRange hp
  · exact .unknownCategory hp
  · exact .foreignValue hp hdomain

/-- All that is reported of a puzzle is about the puzzle. -/
theorem concerns_of_validate (h : validate houses d rs = .ok report) :
    (∀ e ∈ report.errors, e.Concerns houses d rs) ∧
      ∀ w ∈ report.warnings, w.Concerns houses d rs := by
  obtain ⟨late, void, rfl, hlate, hvoid⟩ := exists_found_of_validate h
  obtain ⟨hdomains, hsizes⟩ :
      (∀ e ∈ (domainFindings houses [] d.domains).1, e.Concerns houses d rs) ∧
        ∀ w ∈ (domainFindings houses [] d.domains).2, w.Concerns houses d rs :=
    concerns_of_mem_domainFindings
  have hearly : ∀ e ∈ earlyDefects houses d, e.Concerns houses d rs :=
    List.forall_mem_append.2 ⟨fun e he => concerns_of_mem_houseDefects he, hdomains⟩
  refine ⟨List.forall_mem_append.2 ⟨hearly, fun e he => ?_⟩,
    List.forall_mem_append.2 ⟨hsizes, fun w hw => ?_⟩⟩
  · obtain ⟨i, r, side, hr, hside⟩ := hlate e he
    exact concerns_of_sideDefect? ⟨r, hr, rfl⟩ hside
  · obtain ⟨i, r, hr, hisVoid, rfl⟩ := hvoid w hw
    exact .voidRule hr hisVoid

end Validation

end HousePuzzle
