import HousePuzzle.Proofs.Normalization
import Mathlib.Data.Rat.Cast.Order

/-!
What the schema accepts is read. A puzzle that is read from an accepted document has its number of
houses, its domains and its rules, one for each.
-/

namespace HousePuzzle

namespace Binary64

/-- The exact value of a finite number. -/
def value? : Binary64 → Option ℚ
  | .finite negative m q => some (Numeral.signed negative m * 2 ^ q)
  | _ => none

theorem signed_mul (negative : Bool) (m k : Nat) :
    Numeral.signed negative (m * k) = Numeral.signed negative m * k := by
  cases negative <;> simp [Numeral.signed]

/-- Nothing is cut off a number without a fraction. -/
theorem truncate_eq {negative : Bool} {m : Nat} {q : Int} (h : m % power 2 (-q) = 0) :
    (truncate negative m q : ℚ) = Numeral.signed negative m * 2 ^ q := by
  obtain ⟨k, rfl⟩ := Nat.dvd_of_mod_eq_zero h
  have hpos : 0 < power 2 (-q) := Nat.pow_pos (by decide)
  have hcut : truncate negative (power 2 (-q) * k) q =
      Numeral.signed negative (k * power 2 q) := by
    rw [truncate, Nat.mul_assoc, Nat.mul_div_cancel_left _ hpos]
  have hpower : ((power 2 (-q) : Nat) : ℚ) * 2 ^ q = (power 2 q : Nat) := by
    rcases Int.le_total 0 q with hq | hq
    · obtain ⟨n, rfl⟩ := Int.eq_ofNat_of_zero_le hq
      simp [power]
    · obtain ⟨n, hn⟩ := Int.eq_ofNat_of_zero_le (Int.neg_nonneg_of_nonpos hq)
      obtain rfl : q = -n := by omega
      simp [power]
  rw [hcut, Nat.mul_comm (power 2 (-q)), signed_mul, signed_mul]
  push_cast
  rw [mul_assoc, hpower]

end Binary64

/-- The value of a number, however it is spelled. -/
def Json.number? : Json → Option ℚ
  | .int n => some n
  | .float x => x.value?
  | _ => none

/-- A rule with the fields of an object, one side after the other. -/
def Rule.Matches (item : Json) (r : Rule) : Prop :=
  ∃ fields, item = .obj fields ∧
    (∀ side, Assoc.get? (Side.categoryField side) fields = some (.str (r.operand side).category) ∧
      ∃ v, Assoc.get? (Side.valueField side) fields = some v ∧ v.plainText = (r.operand side).value) ∧
    Assoc.get? "operator" fields = some (.str r.operator.name)

/-- The rules that are given; a document may go without. -/
def Json.givenRules (fields : List (String × Json)) : List Json :=
  match Assoc.get? "rules" fields with
  | some (.arr items) => items
  | _ => []

/-- A puzzle with the fields of a document: its number of houses by its value, its domains as they
are, and a rule for each of its rules. -/
structure Puzzle.Matches (fields : List (String × Json)) (p : Puzzle) : Prop where
  houses : ∃ v, Assoc.get? "houses" fields = some v ∧ v.number? = some (p.houses : ℚ)
  domains : Assoc.get? "domains" fields = some p.domains.toJson
  rules : List.Forall₂ Rule.Matches (Json.givenRules fields) p.rules

namespace Schema

variable {v item : Json} {fields : List (String × Json)}

theorem Accepts.exists_toInt (h : Accepts (.forms [.integer]) v) :
    ∃ n, v.toInt = .ok n ∧ v.number? = some (n : ℚ) := by
  cases h with
  | form hf hv =>
    obtain rfl := List.mem_singleton.1 hf
    cases v with
    | int n => exact ⟨n, rfl, rfl⟩
    | float x =>
      cases x with
      | finite negative m q =>
        have hwhole : m % Binary64.power 2 (-q) = 0 := of_decide_eq_true hv
        refine ⟨_, rfl, ?_⟩
        rw [Json.number?, Binary64.value?, Binary64.truncate_eq hwhole]
      | _ => cases hv
    | _ => cases hv

theorem Accepts.exists_operator (h : Accepts (.choice (Operator.all.map (·.name))) v) :
    ∃ o : Operator, v = .str o.name := by
  cases h with
  | choice hs =>
    obtain ⟨o, _, rfl⟩ := List.mem_map.1 hs
    exact ⟨o, rfl⟩

theorem Accepts.exists_text (h : Accepts (.forms [.string]) v) : ∃ s, v = .str s := by
  cases h with
  | form hf hv =>
    obtain rfl := List.mem_singleton.1 hf
    exact Form.has_string_iff.1 hv

/-- Each side of an accepted rule has its fields. -/
theorem Accepts.exists_side (h : Accepts rule (.obj fields)) (side : Side) :
    ∃ o : Operand, Assoc.get? side.categoryField fields = some (.str o.category) ∧
      ∃ v, Assoc.get? side.valueField fields = some v ∧ v.plainText = o.value := by
  have hcategory : ∃ v, Assoc.get? side.categoryField fields = some v ∧
      Accepts (.forms [.string]) v := by
    cases side <;> exact h.exists_get? (by simp [Side.categoryField, Side.name]) (by
      simp [Side.categoryField, Side.name])
  have hvalue : ∃ v, Assoc.get? side.valueField fields = some v ∧
      Accepts (.forms [.string, .integer]) v := by
    cases side <;> exact h.exists_get? (by simp [Side.valueField, Side.name]) (by
      simp [Side.valueField, Side.name])
  obtain ⟨c, hc, htext⟩ := hcategory
  obtain ⟨v, hv, _⟩ := hvalue
  obtain ⟨s, rfl⟩ := htext.exists_text
  exact ⟨⟨s, v.plainText⟩, hc, v, hv, rfl⟩

theorem Accepts.exists_rule (h : Accepts rule item) :
    ∃ r, Rule.ofJson item = .ok r ∧ r.Matches item := by
  obtain ⟨fields, rfl⟩ := h.fields_eq
  obtain ⟨left, hleft⟩ := h.exists_side .left
  obtain ⟨right, hright⟩ := h.exists_side .right
  obtain ⟨v, hv, hchoice⟩ : ∃ v, Assoc.get? "operator" fields = some v ∧
      Accepts (.choice (Operator.all.map (·.name))) v := h.exists_get? (by simp) (by simp)
  obtain ⟨o, rfl⟩ := hchoice.exists_operator
  have hsides : ∀ side, Assoc.get? (Side.categoryField side) fields =
        some (.str ((Rule.mk left o right).operand side).category) ∧
      ∃ v, Assoc.get? (Side.valueField side) fields = some v ∧
        v.plainText = ((Rule.mk left o right).operand side).value := by
    intro side
    cases side
    exacts [hleft, hright]
  refine ⟨⟨left, o, right⟩, Rule.ofJson_eq_ok_iff.2 ⟨fun side => ?_, o.name, ?_, ?_⟩,
    fields, rfl, hsides, hv⟩
  · obtain ⟨hcategory, w, hw, htext⟩ := hsides side
    exact ⟨Json.textField_eq_ok_iff.2 ⟨_, Json.field_eq_ok_iff.2 hcategory, rfl⟩,
      Json.textField_eq_ok_iff.2 ⟨w, Json.field_eq_ok_iff.2 hw, htext⟩⟩
  · exact Json.textField_eq_ok_iff.2 ⟨_, Json.field_eq_ok_iff.2 hv, rfl⟩
  · rw [Operator.lower_name, Operator.read, Operator.ofName?_name]

theorem Accepts.forall_givenRules (h : Accepts puzzle (.obj fields)) :
    ∀ item ∈ Json.givenRules fields, Accepts rule item := by
  unfold Json.givenRules
  split
  · next items hitems =>
    obtain ⟨vs, heq, hall⟩ := h.exists_rules hitems
    obtain rfl := Json.arr.inj heq
    exact hall
  · simp

theorem Accepts.members_rules (h : Accepts puzzle (.obj fields)) :
    ∃ rs, (Json.obj fields).fieldD "rules" (.arr []) = .ok rs ∧
      rs.members = .ok (Json.givenRules fields) := by
  refine ⟨_, rfl, ?_⟩
  unfold Json.givenRules
  cases hget : Assoc.get? "rules" fields with
  | none => rfl
  | some v =>
    obtain ⟨items, rfl, _⟩ := h.exists_rules hget
    rfl

end Schema

namespace Normalization

open Schema (Accepts)

variable {aliases : Aliases} {fields : List (String × Json)} {bucket : List Json}

def Differ (vs : List Json) : Prop :=
  vs.Pairwise fun v w => v.same w = false

theorem differ_foldl_addValue {vs : List Json} (h : Differ bucket) :
    Differ (vs.foldl addValue bucket) := by
  induction vs generalizing bucket with
  | nil => exact h
  | cons v vs ih =>
    refine ih ?_
    unfold addValue
    split
    · exact h
    · next hnew =>
      refine List.pairwise_append.2 ⟨h, List.pairwise_singleton _ v, fun w hw u hu => ?_⟩
      obtain rfl := List.mem_singleton.1 hu
      simpa using fun hsame => hnew (List.any_eq_true.2 ⟨w, hw, hsame⟩)

theorem differ_addValues {v : Json} (h : Differ bucket) : Differ (addValues bucket v) := by
  unfold addValues
  split
  · exact differ_foldl_addValue h
  · exact h

theorem differ_of_mem_domains {e : String × List Json} (h : e ∈ domains aliases fields) :
    Differ e.2 := by
  refine Assoc.forall_mem_foldl_alter (m := [])
    (f := fun (f : String × Json) old => addValues (old.getD []) f.2) (P := fun e => Differ e.2)
    (fun _ hd => absurd hd List.not_mem_nil) (fun f _ old hold => ?_) e h
  cases old with
  | none => exact differ_addValues List.Pairwise.nil
  | some b => exact differ_addValues (hold b rfl)

theorem nodup_of_differ {vs : List String} (h : Differ (vs.map .str)) : vs.Nodup := by
  rw [Differ, List.pairwise_map] at h
  exact h.imp fun hsame heq => by simp [heq, Json.same, Json.sameScalar] at hsame

/-- No category of a normalised document is repeated, and no value of a category. -/
theorem distinct_of_get?_domains {ds : Domains}
    (h : Assoc.get? "domains" (puzzle aliases fields) = some (Domains.toJson ds)) : ds.Distinct := by
  obtain ⟨given, hgiven⟩ := exists_domains_eq h
  have hkeys : Assoc.keys (domains aliases given) = Assoc.keys ds := by
    rw [hgiven]
    exact List.map_map
  constructor
  · rw [← hkeys]
    exact Assoc.nodup_keys_foldl_alter List.nodup_nil
  · intro e he
    have hmem : (e.1, e.2.map Json.str) ∈ domains aliases given := by
      rw [hgiven]
      exact List.mem_map_of_mem he
    exact nodup_of_differ (differ_of_mem_domains hmem)

/-- What is accepted is read, as it stands. -/
theorem exists_puzzle_of_accepts (h : Accepts Schema.puzzle (.obj (puzzle aliases fields))) :
    ∃ p, Puzzle.ofJson (.obj (puzzle aliases fields)) = .ok p ∧
      p.Matches (puzzle aliases fields) := by
  obtain ⟨v, hv, hinteger⟩ : ∃ v, Assoc.get? "houses" (puzzle aliases fields) = some v ∧
      Accepts (.forms [.integer]) v := h.exists_get? (by simp) (by simp)
  obtain ⟨n, hn, hvalue⟩ := hinteger.exists_toInt
  obtain ⟨ds, hds⟩ := h.exists_domains
  obtain ⟨rules, hrules⟩ := exists_forall₂_iff.2 fun item hitem =>
    (h.forall_givenRules item hitem).exists_rule
  obtain ⟨rs, hrs, hmembers⟩ := h.members_rules
  let d : Registry := ⟨ds, distinct_of_get?_domains hds⟩
  have hread : (Json.obj (puzzle aliases fields)).fieldD "domains" (.obj []) =
      .ok (Domains.toJson ds) := by rw [Json.fieldD, hds, Option.getD_some]
  refine ⟨⟨n, d, rules⟩, Puzzle.ofJson_eq_ok_iff.2 ⟨v, Domains.toJson ds, ds, rs,
    Json.givenRules (puzzle aliases fields), ⟨Json.field_eq_ok_iff.2 hv, hn⟩,
    ⟨hread, Json.domainPairs_toJson ds, d.ofPairs_domains.symm⟩, hrs, hmembers, ?_⟩,
    ⟨v, hv, hvalue⟩, hds, hrules.imp fun _ _ hrule => hrule.2⟩
  exact mapM_eq_ok_iff.2 (hrules.imp fun _ _ hrule => hrule.1)

end Normalization

end HousePuzzle
