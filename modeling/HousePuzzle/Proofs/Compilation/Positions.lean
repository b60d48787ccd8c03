import HousePuzzle.Proofs.Compilation.Unambiguous

/-!
The numbers of houses. The texts that validation takes for the number of a house are those that a
program writes as one of the values of positions, and no rule brings another number into a program.
-/

namespace HousePuzzle

open Registry (positionValues)
open Name (DigitsForm Fits)

variable {n : Int} {k : Nat} {d : Registry} {o : Operand} {l m : Place} {r : Rule} {c : Constraint}
  {v : String} {ds : List Char}

/-- The number of a house as it is written in a program. -/
def houseNumeral (value : String) : Except Numeral.Error String :=
  (Numeral.read value).map Numeral.write

namespace Registry

theorem mem_positionValues_iff :
    v ∈ positionValues n ↔ ∃ k : Nat, (1 ≤ k ∧ (k : Int) ≤ n) ∧ v = Numeral.writeNat k := by
  simp only [positionValues, List.mem_map, List.mem_range]
  constructor
  · rintro ⟨i, hi, rfl⟩
    exact ⟨i + 1, by omega, rfl⟩
  · rintro ⟨k, hk, rfl⟩
    obtain ⟨i, rfl⟩ := Nat.exists_eq_add_of_le' hk.1
    exact ⟨i, by omega, rfl⟩

theorem writeNat_mem_positionValues_iff :
    Numeral.writeNat k ∈ positionValues n ↔ 1 ≤ k ∧ (k : Int) ≤ n := by
  rw [mem_positionValues_iff]
  constructor
  · rintro ⟨j, hj, heq⟩
    rwa [Numeral.writeNat_injective heq]
  · intro hk
    exact ⟨k, hk, rfl⟩

theorem length_le_of_mem_positionValues (hv : v ∈ positionValues n) :
    v.toList.length ≤ (Numeral.write n).toList.length := by
  obtain ⟨k, hk, rfl⟩ := mem_positionValues_iff.1 hv
  obtain ⟨j, rfl⟩ := Int.eq_ofNat_of_zero_le (show 0 ≤ n by omega)
  rw [Numeral.write_natCast, Numeral.toList_writeNat, Numeral.toList_writeNat]
  exact Numeral.length_toDigits_mono (by omega)

end Registry

section Texts

theorem houseNumeral_of_digits (hv : v.toList.length ≤ Numeral.digitLimit) (hds : DigitsForm ds)
    (hs : v.toList = ds ∨ v.toList = ds ++ ['\n']) :
    houseNumeral v = .ok (Numeral.writeNat (Nat.ofDigitChars 10 ds 0)) := by
  have hshort := (Name.length_le_of_fits hs).trans hv
  rw [houseNumeral, Numeral.read_digits hds hs, if_neg (by omega)]
  rfl

theorem houseNumeral_writeNat (hk : (Numeral.writeNat k).toList.length ≤ Numeral.digitLimit) :
    houseNumeral (Numeral.writeNat k) = .ok (Numeral.writeNat k) := by
  rw [houseNumeral, Numeral.read_writeNat hk]
  rfl

namespace Validation

/-- Validation accepts the digits that are written as one of the values of positions. -/
theorem isPositionOf_iff (hv : v.toList.length ≤ Numeral.digitLimit) :
    isPositionOf (.int n) v = .ok true ↔
      Fits DigitsForm v ∧ ∃ m ∈ positionValues n, houseNumeral v = .ok m := by
  rw [isPositionOf_eq_true_iff rfl]
  constructor
  · rintro ⟨ds, ⟨⟨hds, hone, hle⟩, _⟩, hs⟩
    exact ⟨⟨ds, hds, hs⟩, _, Registry.writeNat_mem_positionValues_iff.2 ⟨hone, hle⟩,
      houseNumeral_of_digits hv hds hs⟩
  · rintro ⟨⟨ds, hds, hs⟩, m, hm, hnumeral⟩
    rw [houseNumeral_of_digits hv hds hs] at hnumeral
    obtain rfl := Except.ok.inj hnumeral
    obtain ⟨hone, hle⟩ := Registry.writeNat_mem_positionValues_iff.1 hm
    exact ⟨ds, ⟨⟨hds, hone, hle⟩, (Name.length_le_of_fits hs).trans hv⟩, hs⟩

theorem isPositionOf_of_mem (hn : (Numeral.write n).toList.length ≤ Numeral.digitLimit)
    (hv : v ∈ positionValues n) :
    isPositionOf (.int n) v = .ok true ∧ houseNumeral v = .ok v := by
  have hlength := (Registry.length_le_of_mem_positionValues hv).trans hn
  obtain ⟨k, _, rfl⟩ := Registry.mem_positionValues_iff.1 hv
  have hnumeral := houseNumeral_writeNat hlength
  have hdigits : DigitsForm (Numeral.writeNat k).toList := by
    rw [Numeral.toList_writeNat]
    exact Numeral.digitsForm_toDigits k
  exact ⟨(isPositionOf_iff hlength).2 ⟨⟨_, hdigits, .inl rfl⟩, _, hv, hnumeral⟩, hnumeral⟩

end Validation

end Texts

section Lines

/-- The variable for the house of a value. -/
def Side.variableName : Side → String
  | .left => "H1"
  | .right => "H2"

/-- The literal that a value needs and the number of a house does not. -/
def Operand.binding (o : Operand) (side : Side) : String :=
  if o.isPosition then ""
  else "assign(" ++ (Term.ofValue o.value).render ++ ", " ++ side.variableName ++ "), "

/-- The line that a rule is compiled to when `h` tells how the house of each side is written. -/
def Rule.line (r : Rule) (h : Side → String) : String :=
  let bindings := r.left.binding .left ++ r.right.binding .right
  match r.operator with
  | .same =>
    if r.left.isPosition then
      ":- assign(" ++ (Term.ofValue r.right.value).render ++ ", H), H != " ++ h .left ++ "."
    else if r.right.isPosition then
      ":- assign(" ++ (Term.ofValue r.left.value).render ++ ", H), H != " ++ h .right ++ "."
    else ":- " ++ bindings ++ h .left ++ " != " ++ h .right ++ "."
  | .next => ":- " ++ bindings ++ "not next_to(" ++ h .left ++ ", " ++ h .right ++ ")."
  | .right => ":- " ++ bindings ++ h .left ++ " != " ++ h .right ++ " + 1."
  | .left => ":- " ++ bindings ++ h .left ++ " != " ++ h .right ++ " - 1."

/-- How the house of a side is written: by its number, which is a value of positions, or by the
variable of a value. -/
def Operand.WrittenAs (n : Int) (o : Operand) (side : Side) (text : String) : Prop :=
  if o.isPosition then houseNumeral o.value = .ok text ∧ text ∈ positionValues n
  else text = side.variableName

theorem Operand.binding_eq (hl : o.place = .ok l) (side : Side) :
    l.binding side.variableName = o.binding side := by
  have hp := isHouse_place hl
  cases l with
  | house k => simp [Place.binding, binding, ← hp, Place.isHouse]
  | ofTerm t =>
    obtain rfl := (place_eq_ofTerm_iff hp.symm).1 hl
    simp [Place.binding, binding, ← hp, Place.isHouse, Term.assigned, String.append_assoc]

theorem Validation.SideFits.writtenAs (h : SideFits n d o) (hl : o.place = .ok l) (side : Side) :
    o.WrittenAs n side (l.render side.variableName) := by
  have hp := Operand.isHouse_place hl
  unfold Operand.WrittenAs
  cases l with
  | ofTerm t =>
    have hvalue : o.isPosition = false := hp.symm
    simp [hvalue, Place.render]
  | house j =>
    have hposition : o.isPosition = true := hp.symm
    obtain ⟨k, ⟨hone, hle⟩, hread⟩ := h.read hposition
    obtain rfl : j = k :=
      Except.ok.inj (((Operand.place_eq_house_iff hposition).1 hl).symm.trans hread)
    obtain ⟨i, rfl⟩ := Int.eq_ofNat_of_zero_le (show 0 ≤ j by omega)
    rw [if_pos hposition]
    exact ⟨by rw [houseNumeral, hread]; rfl,
      Registry.writeNat_mem_positionValues_iff.2 ⟨by omega, hle⟩⟩

theorem Rule.render_eq_line (hl : r.left.place = .ok l) (hm : r.right.place = .ok m)
    (hc : Constraint.between? r.operator l m = some c) :
    c.render = r.line fun
      | .left => l.render "H1"
      | .right => m.render "H2" := by
  have hbl : l.binding "H1" = r.left.binding .left := Operand.binding_eq hl .left
  have hbm : m.binding "H2" = r.right.binding .right := Operand.binding_eq hm .right
  have hp := Operand.isHouse_place hl
  have hq := Operand.isHouse_place hm
  apply String.toList_inj.1
  cases hop : r.operator with
  | same =>
    rw [hop] at hc
    cases l with
    | ofTerm t =>
      obtain rfl := (Operand.place_eq_ofTerm_iff hp.symm).1 hl
      cases m with
      | ofTerm u =>
        obtain rfl := Option.some.inj hc
        simp [Constraint.render, line, hop, ← hp, ← hq, ← hbl, ← hbm, Place.isHouse,
          Place.binding, Place.render, Term.assigned]
      | house k =>
        obtain rfl := Option.some.inj hc
        simp [Constraint.render, line, hop, ← hp, ← hq, Place.isHouse, Place.render, Term.assigned]
    | house j =>
      cases m with
      | ofTerm u =>
        obtain rfl := (Operand.place_eq_ofTerm_iff hq.symm).1 hm
        obtain rfl := Option.some.inj hc
        simp [Constraint.render, line, hop, ← hp, Place.isHouse, Place.render, Term.assigned]
      | house k => cases hc
  | next =>
    rw [hop] at hc
    obtain rfl := Option.some.inj hc
    simp [Constraint.render, Relation.violation_adjacent, line, hop, ← hbl, ← hbm]
  | right =>
    rw [hop] at hc
    obtain rfl := Option.some.inj hc
    simp [Constraint.render, Relation.violation_rightOf, line, hop, ← hbl, ← hbm]
  | left =>
    rw [hop] at hc
    obtain rfl := Option.some.inj hc
    simp [Constraint.render, Relation.violation_leftOf, line, hop, ← hbl, ← hbm]

/-- What a rule is compiled to names its houses by values of positions. -/
theorem Rule.exists_line (hsides : ∀ side, Validation.SideFits n d (r.operand side)) :
    ∃ c?, r.constraint? = .ok c? ∧ ∀ c, c? = some c →
      ∃ h, c.render = r.line h ∧ ∀ side, (r.operand side).WrittenAs n side (h side) := by
  have hleft : Validation.SideFits n d r.left := hsides .left
  have hright : Validation.SideFits n d r.right := hsides .right
  obtain ⟨l, hl⟩ := hleft.exists_place
  obtain ⟨m, hm⟩ := hright.exists_place
  refine ⟨_, constraint?_eq_between? hl hm, fun c hc => ⟨_, render_eq_line hl hm hc, ?_⟩⟩
  intro side
  cases side with
  | left => exact hleft.writtenAs hl .left
  | right => exact hright.writtenAs hm .right

end Lines

/-- The numbers of houses are the same for validation, for the values of positions and for the
program. What is accepted as a position are digits that are written as one of these values; each of
these values is accepted and written as it is; and where a rule has a position for a side, its line
has one of these values for it. -/
theorem houseNumerals_agree (n : Int) (d : Registry)
    (hn : (Numeral.write n).toList.length ≤ Numeral.digitLimit) :
    (∀ v : String, v.toList.length ≤ Numeral.digitLimit →
      ∃ b, Validation.isPositionOf (.int n) v = .ok b ∧
        (b = true ↔ Fits DigitsForm v ∧ ∃ m ∈ positionValues n, houseNumeral v = .ok m)) ∧
    (∃ vs, d.resolve? Name.position n = some vs ∧ ∀ v ∈ vs,
      Validation.isPositionOf (.int n) v = .ok true ∧ houseNumeral v = .ok v) ∧
    ∀ (p : Puzzle) (report : Report), p.validate = .ok report → report.isValid = true →
      ∀ r ∈ p.rules, ∃ c?, r.constraint? = .ok c? ∧ ∀ c, c? = some c →
        ∃ h, c.render = r.line h ∧ ∀ side, (r.operand side).WrittenAs p.houses side (h side) := by
  refine ⟨fun v hv => ?_, ⟨_, if_pos rfl, fun v hv => Validation.isPositionOf_of_mem hn hv⟩, ?_⟩
  · have hcount : (Json.int n).asInt? = some n := rfl
    obtain ⟨b, hb⟩ := Validation.exists_isPositionOf hcount hv
    have hiff := Validation.isPositionOf_iff (n := n) hv
    rw [hb, Except.ok.injEq] at hiff
    exact ⟨b, hb, hiff⟩
  · intro p report h hvalid r hr
    exact Rule.exists_line ((Puzzle.wellFormed_of_validate h hvalid).2 r hr)

/-- Twelve houses, and a position with a zero in front and a line feed behind it. -/
theorem houseNumerals_agree_twoHouses :
    ((Numeral.write 12).toList.length ≤ Numeral.digitLimit ∧
      "012\n".toList.length ≤ Numeral.digitLimit ∧
      ∃ report, twoHouses.validate = .ok report ∧ report.isValid = true) ∧
    (Fits DigitsForm "012\n" ∧ ∃ m ∈ positionValues 12, houseNumeral "012\n" = .ok m) ∧
    ∀ r ∈ twoHouses.rules, ∃ c?, r.constraint? = .ok c? ∧ ∀ c, c? = some c →
      ∃ h, c.render = r.line h ∧ ∀ side, (r.operand side).WrittenAs 2 side (h side) := by
  have hn : (Numeral.write 12).toList.length ≤ Numeral.digitLimit := by decide
  have hv : "012\n".toList.length ≤ Numeral.digitLimit := by decide
  obtain ⟨report, h, hvalid⟩ : ∃ report, twoHouses.validate = .ok report ∧
      report.isValid = true := ⟨_, rfl, rfl⟩
  obtain ⟨haccepts, _, hrules⟩ := houseNumerals_agree 12 twoHouses.domains hn
  obtain ⟨b, hb, hiff⟩ := haccepts "012\n" hv
  obtain rfl : true = b := Except.ok.inj (.trans rfl hb)
  exact ⟨⟨hn, hv, report, h, hvalid⟩, hiff.1 rfl, hrules twoHouses report h hvalid⟩

end HousePuzzle
