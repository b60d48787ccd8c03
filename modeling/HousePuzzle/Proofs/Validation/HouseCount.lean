import HousePuzzle.Proofs.Validation.Stages

/-!
Numbers of houses that are none. Such a number is reported once, unless a position is to be compared
with it: then there is no report.
-/

namespace HousePuzzle

namespace Validation

variable {houses : Json} {d : Registry} {f : Failure} {o : Operand}

/-- A side that names a value of its category. -/
def IsMember (d : Registry) (o : Operand) : Prop :=
  o.isPosition = false ∧ ∃ vs, (o.category, vs) ∈ d.domains ∧ o.value ∈ vs

/-- A side that names a house, by a number that counts from one. -/
def IsCounted (o : Operand) : Prop :=
  o.isPosition = true ∧
    Name.Fits (fun ds => Name.DigitsForm ds ∧ 1 ≤ Nat.ofDigitChars 10 ds 0) o.value

/-- Without a number of houses no position passes. -/
theorem passes_iff_isMember (h : houses.isNumber = false) : Passes houses d o ↔ IsMember d o := by
  unfold Passes IsMember
  cases hp : o.isPosition with
  | false => simp
  | true =>
    simp only [if_true, Bool.true_eq_false, false_and, iff_false]
    intro hfits
    cases hdigits : Name.isDigits o.value with
    | false => simp [isPositionOf, hdigits] at hfits
    | true =>
      obtain ⟨ds, hds, hs⟩ := Name.isDigits_iff.1 hdigits
      rw [isPositionOf_of_digits hds hs] at hfits
      split at hfits
      · cases hfits
      · split at hfits
        · cases hfits
        · rw [reaches_eq_error_iff.2 ⟨h, rfl⟩] at hfits
          cases hfits

theorem breaks_iff (hlen : o.isPosition = true → o.value.toList.length ≤ Numeral.digitLimit) :
    Breaks houses f o ↔
      f = .incomparable houses.kind ∧ houses.isNumber = false ∧ IsCounted o := by
  unfold Breaks IsCounted
  rw [isPositionOf_eq_error_iff]
  constructor
  · rintro ⟨hp, ds, ⟨hds, hcase⟩, hs⟩
    rcases hcase with ⟨hlong, _⟩ | ⟨_, hone, hnumber, hf⟩
    · exact absurd ((Name.length_le_of_fits hs).trans (hlen hp)) (by omega)
    · exact ⟨hf, hnumber, hp, ds, ⟨hds, hone⟩, hs⟩
  · rintro ⟨hf, hnumber, hp, ds, ⟨hds, hone⟩, hs⟩
    have hshort := (Name.length_le_of_fits hs).trans (hlen hp)
    exact ⟨hp, ds, ⟨hds, .inr ⟨hshort, hone, hnumber, hf⟩⟩, hs⟩

/-- A number of houses that is none is reported exactly once. Of the puzzles whose positions can be
read those get no report, and no others, in which the search for a wrong rule comes to a position
that it cannot compare, where houses are given as no number at all. -/
theorem houseCount_reported (houses : Json) (d : Registry) (rules : List Rule)
    (hlen : ∀ r ∈ rules, ∀ side, (r.operand side).isPosition = true →
      (r.operand side).value.toList.length ≤ Numeral.digitLimit) :
    (∀ f, validate houses d rules = .error f ↔
      f = .incomparable houses.kind ∧ houses.isNumber = false ∧
        (earlyDefects houses d).length < errorLimit ∧
        ∃ o, ComesTo (IsMember d) (sides rules) o ∧ IsCounted o) ∧
    ∀ report, validate houses d rules = .ok report →
      report.errors.countP (·.code = "E_HOUSE_COUNT_INVALID") ≤ 1 ∧
      (report.errors.countP (·.code = "E_HOUSE_COUNT_INVALID") = 1 ↔
        ¬ ∃ n, houses = .int n ∧ 1 ≤ n) := by
  have hbreaks : ∀ f, ∀ o ∈ sides rules, (Breaks houses f o ↔
      f = .incomparable houses.kind ∧ houses.isNumber = false ∧ IsCounted o) := by
    intro f o ho
    obtain ⟨r, hr, side, rfl⟩ := mem_sides_iff.1 ho
    exact breaks_iff (hlen r hr side)
  refine ⟨fun f => ?_, fun report h => ?_⟩
  · rw [validate_eq_error_iff]
    constructor
    · rintro ⟨hlimit, o, hcomes, hb⟩
      obtain ⟨hf, hnumber, hcounted⟩ := (hbreaks f o hcomes.mem).1 hb
      exact ⟨hf, hnumber, hlimit, o,
        (comesTo_congr fun _ => passes_iff_isMember hnumber).1 hcomes, hcounted⟩
    · rintro ⟨hf, hnumber, hlimit, o, hcomes, hcounted⟩
      exact ⟨hlimit, o, (comesTo_congr fun _ => passes_iff_isMember hnumber).2 hcomes,
        (hbreaks f o hcomes.mem).2 ⟨hf, hnumber, hcounted⟩⟩
  · have hle := length_houseDefects_le houses
    rw [countP_houseCount h, ← houseDefects_eq_nil_iff, ← List.length_eq_zero_iff]
    exact ⟨hle, by omega⟩

/-- The colours of one house. -/
def oneColour : Registry :=
  .ofPairs [("color", ["red"])]

def redAtFirst : List Rule :=
  [⟨⟨"color", "red"⟩, .same, ⟨"position", "1"⟩⟩]

theorem short_redAtFirst : ∀ r ∈ redAtFirst, ∀ side, (r.operand side).isPosition = true →
    (r.operand side).value.toList.length ≤ Numeral.digitLimit := by
  intro r hr side _
  obtain rfl := List.mem_singleton.1 hr
  cases side <;> decide

theorem houseCount_reported_withoutHouses :
    (∀ r ∈ redAtFirst, ∀ side, (r.operand side).isPosition = true →
      (r.operand side).value.toList.length ≤ Numeral.digitLimit) ∧
    (∀ f, validate .null oneColour redAtFirst = .error f ↔
      f = .incomparable .null ∧ Json.isNumber .null = false ∧
        (earlyDefects .null oneColour).length < errorLimit ∧
        ∃ o, ComesTo (IsMember oneColour) (sides redAtFirst) o ∧ IsCounted o) ∧
    ∀ report, validate .null oneColour redAtFirst = .ok report →
      report.errors.countP (·.code = "E_HOUSE_COUNT_INVALID") ≤ 1 ∧
      (report.errors.countP (·.code = "E_HOUSE_COUNT_INVALID") = 1 ↔
        ¬ ∃ n, Json.null = .int n ∧ 1 ≤ n) :=
  ⟨short_redAtFirst, houseCount_reported .null oneColour redAtFirst short_redAtFirst⟩

/-- There is no report of houses given as null where red is in the first house. -/
theorem not_reported_withoutHouses :
    ¬ ∀ (houses : Json) (d : Registry) (rules : List Rule),
      (∀ r ∈ rules, ∀ side, (r.operand side).isPosition = true →
        (r.operand side).value.toList.length ≤ Numeral.digitLimit) →
      ∃ report, validate houses d rules = .ok report ∧
        (report.errors.countP (·.code = "E_HOUSE_COUNT_INVALID") = 1 ↔
          ¬ ∃ n, houses = .int n ∧ 1 ≤ n) := by
  intro h
  obtain ⟨report, hreport, _⟩ := h .null oneColour redAtFirst short_redAtFirst
  have herror : validate .null oneColour redAtFirst = .error (.incomparable .null) := rfl
  rw [herror] at hreport
  cases hreport

end Validation

end HousePuzzle
