import HousePuzzle.Proofs.Loading
import HousePuzzle.Proofs.Puzzle.Acceptance
import HousePuzzle.Proofs.Validation.Stages

/-!
Documents are malformed by their shape alone: what the schema accepts is a puzzle. There is no
report of such a puzzle when the search for a wrong rule comes to a position that is too long to be
read.
-/

namespace HousePuzzle

variable {aliases : Aliases} {fields : List (String × Json)} {c : Checked} {f : Validation.Failure}

namespace Checked

/-- What is accepted is validated. -/
theorem exists_ofFields_eq
    (h : Schema.puzzle.Accepts (.obj (Normalization.puzzle aliases fields))) :
    ∃ p, Puzzle.ofJson (.obj (Normalization.puzzle aliases fields)) = .ok p ∧
      ofFields (some .puzzle) aliases fields = p.validate.map (⟨some p, ·⟩) := by
  obtain ⟨p, hp, _⟩ := Normalization.exists_puzzle_of_accepts h
  refine ⟨p, hp, ?_⟩
  rw [ofFields_of_accepts h, build, hp]

theorem ofFields_eq_error_iff :
    ofFields (some .puzzle) aliases fields = .error f ↔
      ∃ p, Schema.puzzle.Accepts (.obj (Normalization.puzzle aliases fields)) ∧
        Puzzle.ofJson (.obj (Normalization.puzzle aliases fields)) = .ok p ∧
          p.validate = .error f := by
  by_cases h : Schema.puzzle.Accepts (.obj (Normalization.puzzle aliases fields))
  · obtain ⟨p, hp, heq⟩ := exists_ofFields_eq h
    rw [heq, hp]
    cases hv : p.validate <;> simp [Except.map, h, hv]
  · simp [ofFields_of_not_accepts h, h]

/-- A report is one of violations of the schema, or one of a puzzle. -/
theorem cases_of_ofFields (h : ofFields (some .puzzle) aliases fields = .ok c) :
    (c.puzzle? = none ∧ c.report.errors ≠ [] ∧ ∀ e ∈ c.report.errors, ∃ x, e = .schema x) ∨
      ∃ p, c.puzzle? = some p ∧ p.validate = .ok c.report := by
  by_cases haccepts : Schema.puzzle.Accepts (.obj (Normalization.puzzle aliases fields))
  · obtain ⟨p, _, heq⟩ := exists_ofFields_eq haccepts
    rw [heq] at h
    obtain ⟨r, hr, rfl⟩ := Except.map_eq_ok_iff.1 h
    exact .inr ⟨p, rfl, hr⟩
  · rw [ofFields_of_not_accepts haccepts] at h
    obtain rfl := Except.ok.inj h
    refine .inl ⟨rfl, ?_, fun e he => ?_⟩
    · simpa [malformed, Schema.violations_eq_nil_iff] using haccepts
    · obtain ⟨x, _, rfl⟩ := List.mem_map.1 he
      exact ⟨x, rfl⟩

/-- The schema and the reading of documents agree. A document without violations is read, as it
stands, and there is no puzzle exactly where all that is reported are violations, one at least. -/
theorem read_of_violations_eq_nil (aliases : Aliases) (fields : List (String × Json)) :
    (Schema.violations [] (.obj (Normalization.puzzle aliases fields)) .puzzle = [] →
      ∃ p, Puzzle.ofJson (.obj (Normalization.puzzle aliases fields)) = .ok p ∧
        p.Matches (Normalization.puzzle aliases fields)) ∧
    ofFields (some .puzzle) aliases fields ≠ .error .infiniteHouses ∧
    ∀ c, ofFields (some .puzzle) aliases fields = .ok c →
      (∀ e, Defect.unreadable e ∉ c.report.errors) ∧
      (c.puzzle? = none ↔
        c.report.errors ≠ [] ∧ ∀ e ∈ c.report.errors, e.code = "E_SCHEMA_VIOLATION") := by
  refine ⟨fun h => ?_, fun h => ?_, fun c h => ?_⟩
  · exact Normalization.exists_puzzle_of_accepts ((Schema.violations_eq_nil_iff _).1 h)
  · obtain ⟨p, _, _, hv⟩ := ofFields_eq_error_iff.1 h
    obtain ⟨_, o, _, _, hbreaks⟩ := Validation.validate_eq_error_iff.1 hv
    obtain ⟨_, ⟨_, ⟨_, hf⟩ | ⟨_, _, _, hf⟩⟩, _⟩ := Validation.isPositionOf_eq_error_iff.1 hbreaks <;>
      cases hf
  · rcases cases_of_ofFields h with ⟨hnone, hne, hschema⟩ | ⟨p, hp, hv⟩
    · refine ⟨fun e he => ?_, fun _ => ⟨hne, fun e he => ?_⟩, fun _ => hnone⟩
      · obtain ⟨x, hx⟩ := hschema _ he
        cases hx
      · obtain ⟨x, rfl⟩ := hschema _ he
        rfl
    · have hstage : ∀ e ∈ c.report.errors, e.stage ≠ .document := fun e he =>
        Validation.stage_ne_document hv he
      refine ⟨fun e he => hstage _ he rfl, fun hnone => ?_, fun ⟨hne, hcode⟩ => ?_⟩
      · rw [hp] at hnone
        cases hnone
      · obtain ⟨e, he⟩ := List.exists_mem_of_ne_nil _ hne
        exact absurd (Defect.code_eq_schema_iff.1 (hcode e he)) (hstage e he)

theorem read_of_violations_eq_nil_mixedSpelling :
    Schema.violations [] (.obj (Normalization.puzzle .standard mixedSpelling)) .puzzle = [] ∧
    ∃ p, Puzzle.ofJson (.obj (Normalization.puzzle .standard mixedSpelling)) = .ok p ∧
      p.Matches (Normalization.puzzle .standard mixedSpelling) := by
  have hnil : Schema.violations [] (.obj (Normalization.puzzle .standard mixedSpelling)) .puzzle =
      [] := by decide +kernel
  exact ⟨hnil, (read_of_violations_eq_nil .standard mixedSpelling).1 hnil⟩

end Checked

/-- A position with more digits than are read. -/
def Operand.IsTooLong (o : Operand) : Prop :=
  o.isPosition = true ∧ Name.DigitsForm o.value.toList ∧
    Numeral.digitLimit < o.value.toList.length

/-- Only the length of a position keeps a puzzle from being validated. -/
theorem Puzzle.validate_eq_error_iff {p : Puzzle} (hp : p.Normal aliases) :
    p.validate = .error f ↔
      (Validation.earlyDefects (.int p.houses) p.domains).length < Validation.errorLimit ∧
        ∃ o, Validation.ComesTo (Validation.SideFits p.houses p.domains)
            (Validation.sides p.rules) o ∧
          o.IsTooLong ∧ f = .numeral (.tooLong o.value.toList.length) := by
  have hpasses : ∀ o, Validation.Passes (.int p.houses) p.domains o ↔
      Validation.SideFits p.houses p.domains o := fun o => Validation.passes_iff_sideFits rfl
  have hbreaks : ∀ o ∈ Validation.sides p.rules, (Validation.Breaks (.int p.houses) f o ↔
      o.IsTooLong ∧ f = .numeral (.tooLong o.value.toList.length)) := by
    intro o ho
    obtain ⟨r, hr, side, rfl⟩ := Validation.mem_sides_iff.1 ho
    have htrimmed := Text.trim_eq_self_iff.1 (hp.operands r hr side).2
    rw [Validation.Breaks, Validation.isPositionOf_eq_error_iff, Operand.IsTooLong]
    constructor
    · rintro ⟨hposition, hfits⟩
      obtain ⟨hdigits, ⟨hlong, hf⟩ | ⟨_, _, hnumber, _⟩⟩ := hfits.whole_of_isTrimmed htrimmed
      · exact ⟨⟨hposition, hdigits, hlong⟩, hf⟩
      · cases hnumber
    · rintro ⟨⟨hposition, hdigits, hlong⟩, hf⟩
      exact ⟨hposition, _, ⟨hdigits, .inl ⟨hlong, hf⟩⟩, .inl rfl⟩
  rw [validate, Validation.validate_eq_error_iff]
  refine and_congr_right fun _ => exists_congr fun o => ?_
  rw [Validation.comesTo_congr hpasses]
  exact and_congr_right fun hcomes => hbreaks o hcomes.mem

/-- There is a report of every document, except where a document is accepted and read, there are
fewer errors before the rules than the limit, and the first side that does not fit is a position
with more digits than are read. -/
theorem Checked.ofFields_eq_error_iff_tooLong (aliases : Aliases) (fields : List (String × Json))
    (f : Validation.Failure) :
    ofFields (some .puzzle) aliases fields = .error f ↔
      ∃ p, Schema.puzzle.Accepts (.obj (Normalization.puzzle aliases fields)) ∧
        Puzzle.ofJson (.obj (Normalization.puzzle aliases fields)) = .ok p ∧
        (Validation.earlyDefects (.int p.houses) p.domains).length < Validation.errorLimit ∧
        ∃ o, Validation.ComesTo (Validation.SideFits p.houses p.domains)
            (Validation.sides p.rules) o ∧
          o.IsTooLong ∧ f = .numeral (.tooLong o.value.toList.length) := by
  rw [ofFields_eq_error_iff]
  refine exists_congr fun p => and_congr_right fun haccepts => and_congr_right fun hread => ?_
  exact Puzzle.validate_eq_error_iff (Normalization.normal_of_accepts haccepts hread)

def longPosition : Operand :=
  ⟨"position", String.ofList (List.replicate (Numeral.digitLimit + 1) '1')⟩

theorem isTooLong_longPosition : longPosition.IsTooLong := by
  refine ⟨rfl, ⟨?_, fun c hc => ?_⟩, ?_⟩
  · simp [longPosition]
  · rw [longPosition, String.toList_ofList] at hc
    rw [List.eq_of_mem_replicate hc]
    decide
  · simp [longPosition]

/-- One house, and a rule on two positions. -/
def oneHouse : Puzzle :=
  ⟨1, .empty, [⟨longPosition, .same, ⟨"position", "1"⟩⟩]⟩

theorem normal_oneHouse : oneHouse.Normal .standard := by
  have hname : ∃ name, "position" = Aliases.rename .standard name := ⟨"position", by decide +kernel⟩
  refine ⟨by simp [oneHouse, Registry.empty], by simp [oneHouse, Registry.empty],
    fun r hr side => ?_⟩
  obtain rfl := List.mem_singleton.1 hr
  cases side with
  | left =>
    refine ⟨hname, Text.trim_eq_self fun c hc => ?_⟩
    simp only [Rule.operand, longPosition, String.toList_ofList] at hc
    rw [List.eq_of_mem_replicate hc]
    decide
  | right => exact ⟨hname, by decide⟩

theorem Checked.not_reported_oneHouse :
    ¬ ∀ (aliases : Aliases) (fields : List (String × Json)),
      ∃ c, ofFields (some .puzzle) aliases fields = .ok c := by
  intro h
  obtain ⟨c, hc⟩ := h .standard oneHouse.fields
  have herror : oneHouse.validate =
      .error (.numeral (.tooLong longPosition.value.toList.length)) :=
    (Puzzle.validate_eq_error_iff normal_oneHouse).2
      ⟨by decide, longPosition, ⟨[], _, rfl, by simp⟩, isTooLong_longPosition, rfl⟩
  have hnone : ofFields (some .puzzle) .standard oneHouse.fields =
      .error (.numeral (.tooLong longPosition.value.toList.length)) := by
    refine ofFields_eq_error_iff.2 ⟨oneHouse, ?_, ?_, herror⟩
    · rw [Normalization.puzzle_fields Aliases.settled_standard normal_oneHouse, ← Puzzle.toJson_eq]
      exact Schema.accepts_puzzle oneHouse
    · rw [Normalization.puzzle_fields Aliases.settled_standard normal_oneHouse, ← Puzzle.toJson_eq]
      exact oneHouse.ofJson_toJson
  rw [hnone] at hc
  cases hc

end HousePuzzle
