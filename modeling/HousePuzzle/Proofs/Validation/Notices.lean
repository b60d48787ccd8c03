import HousePuzzle.Proofs.Validation.Stages

/-!
What a report tells of the domains: of each category and of each of its values, in their order, and
of the sizes of the categories that could be used.
-/

namespace HousePuzzle

/-- What a report tells of a finding, but for the words. -/
structure Notice where
  code : String
  path : String
  details : Json

def Defect.notice (e : Defect) : Notice :=
  ⟨e.code, e.path, e.details⟩

def Warning.notice (w : Warning) : Notice :=
  ⟨w.code, w.path, w.details⟩

namespace Registry

/-- What is to be told of a value of a category: at most one thing. -/
def valueNotice? (d : Registry) (category : String) (index : Nat) (value : String) :
    Option Notice :=
  let path := "/domains/" ++ category ++ "/" ++ Numeral.writeNat index
  let details := .obj [("category", .str category), ("value", .str value)]
  if !Name.isValue value then some ⟨"E_VALUE_NAME_INVALID", path, details⟩
  else if value = category then some ⟨"E_VALUE_EQUALS_CATEGORY", path, details⟩
  else ((d.before category).owner? value).map fun owner => ⟨"E_VALUE_AMBIGUOUS", path,
    .obj [("value", .str value), ("categories", .arr [.str owner, .str category])]⟩

/-- What is to be told of a category: one thing about its name or its having no values, or else of
each value in order. -/
def notices (d : Registry) (e : String × List String) : List Notice :=
  let whole (code : String) : Notice := ⟨code, "/domains/" ++ e.1, .obj [("category", .str e.1)]⟩
  if Name.reserved.contains e.1 then [whole "E_CATEGORY_RESERVED"]
  else if !Name.isPredicate e.1 then [whole "E_CATEGORY_NAME_INVALID"]
  else if e.2.isEmpty then [whole "E_DOMAIN_EMPTY"]
  else e.2.zipIdx.filterMap fun p => d.valueNotice? e.1 p.2 p.1

def sizeNotices (houses : Json) (d : Registry) : List Notice :=
  (d.domains.filter (isMismatched houses)).map fun e => ⟨"W_SIZE_MISMATCH", "/domains/" ++ e.1,
    .obj [("category", .str e.1), ("size", .int e.2.length), ("houses", houses)]⟩

end Registry

namespace Validation

variable {houses : Json} {d : Registry}

theorem notice_valueFault? (p : ValuePlace) :
    (valueFault? d p).map Defect.notice = d.valueNotice? p.category p.index p.value := by
  unfold valueFault? Registry.valueNotice?
  split
  · rfl
  · split
    · rfl
    · rw [Option.map_map]
      rfl

/-- The tests of a category tell which of its notices there are. -/
theorem notice_faults (houses : Json) (d : Registry) (e : String × List String) :
    (faults houses d e).map Defect.notice = d.notices e := by
  unfold faults Registry.notices categoryDefect?
  by_cases hreserved : Name.reserved.contains e.1 = true
  · simp only [if_pos hreserved]
    rfl
  · by_cases hname : (!Name.isPredicate e.1) = true
    · simp only [if_neg hreserved, if_pos hname]
      rfl
    · by_cases hempty : e.2.isEmpty = true
      · simp only [if_neg hreserved, if_neg hname, if_pos hempty]
        rfl
      · simp only [if_neg hreserved, if_neg hname, if_neg hempty, List.map_filterMap,
          notice_valueFault?]

section Reported

variable {rules : List Rule} {report : Report}

theorem filter_errors (h : validate houses d rules = .ok report) :
    report.errors.filter (·.stage = .domains) = (domainFindings houses [] d.domains).1 := by
  obtain ⟨late, herrors, hlate⟩ := exists_errors_eq h
  have hhouses : (houseDefects houses).filter (·.stage = .domains) = [] :=
    List.filter_eq_nil_iff.2 fun e he => by simp [stage_of_mem_houseDefects he]
  have hdomains : (domainFindings houses [] d.domains).1.filter (·.stage = .domains) =
      (domainFindings houses [] d.domains).1 :=
    List.filter_eq_self.2 fun e he => decide_eq_true (stage_of_mem_domainFindings he)
  have hrules : late.filter (·.stage = .domains) = [] :=
    List.filter_eq_nil_iff.2 fun e he => by simp [hlate e he]
  rw [herrors, earlyDefects, List.filter_append, List.filter_append, hhouses, hdomains, hrules,
    List.nil_append, List.append_nil]

theorem filter_warnings (h : validate houses d rules = .ok report) :
    report.warnings.filter (·.code = "W_SIZE_MISMATCH") = (domainFindings houses [] d.domains).2 := by
  obtain ⟨late, hwarnings, hlate⟩ := exists_warnings_eq h
  have hdomains : (domainFindings houses [] d.domains).2.filter (·.code = "W_SIZE_MISMATCH") =
      (domainFindings houses [] d.domains).2 :=
    List.filter_eq_self.2 fun w hw => decide_eq_true (code_of_mem_domainFindings hw)
  have hrules : late.filter (·.code = "W_SIZE_MISMATCH") = [] := by
    refine List.filter_eq_nil_iff.2 fun w hw => ?_
    obtain ⟨j, r, rfl⟩ := hlate w hw
    simp [Warning.code]
  rw [hwarnings, List.filter_append, hdomains, hrules, List.append_nil]

/-- Of each category and each value in order just that is reported which is wrong with it. Of a
value that an earlier category may own, the first such category is named with the later one; and of
the categories that could be used those are warned of that have not one value for each house. -/
theorem domainFindings_notices (houses : Json) (d : Registry) :
    (domainFindings houses [] d.domains).1.map Defect.notice = d.domains.flatMap d.notices ∧
    (domainFindings houses [] d.domains).2.map Warning.notice = d.sizeNotices houses ∧
    ∀ rules report, validate houses d rules = .ok report →
      report.errors.filter (·.stage = .domains) = (domainFindings houses [] d.domains).1 ∧
      report.warnings.filter (·.code = "W_SIZE_MISMATCH") =
        (domainFindings houses [] d.domains).2 := by
  refine ⟨?_, ?_, fun rules report h => ⟨filter_errors h, filter_warnings h⟩⟩
  · rw [domainFindings_registry, List.map_flatMap]
    exact List.flatMap_congr fun e _ => notice_faults houses d e
  · rw [domainFindings_registry, flatMap_mismatches, List.map_map]
    rfl

end Reported

end Validation

end HousePuzzle
