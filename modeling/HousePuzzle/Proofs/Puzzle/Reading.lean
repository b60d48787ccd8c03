import HousePuzzle.Proofs.Normalization
import HousePuzzle.Validation

/-!
Reading a puzzle from a document of any shape. The documents that hold a puzzle are told apart
without reading them; each of the others is malformed, with one exception: a number of houses
without end is refused on its own account, and is then not reported either.
-/

namespace HousePuzzle

namespace Json

variable {d v : Json} {name : String} {e : ShapeError}

/-- What stands for a whole number where one is asked for; of a fraction only its whole part. -/
inductive IsCount : Json → Prop
  | int (n : Int) : IsCount (.int n)
  | bool (b : Bool) : IsCount (.bool b)
  | float (negative : Bool) (m : Nat) (q : Int) : IsCount (.float (.finite negative m q))
  | str {s : String} {n : Int} : Numeral.read s = .ok n → IsCount (.str s)

/-- What has members that can be looked at one by one. -/
inductive HasMembers : Json → Prop
  | arr (items : List Json) : HasMembers (.arr items)
  | str (s : String) : HasMembers (.str s)
  | obj (fields : List (String × Json)) : HasMembers (.obj fields)

theorem exists_toInt_iff : (∃ n, v.toInt = .ok n) ↔ v.IsCount := by
  constructor
  · rintro ⟨n, h⟩
    cases v with
    | int k => exact .int k
    | bool b => exact .bool b
    | float x =>
      cases x with
      | finite negative m q => exact .float negative m q
      | _ => cases h
    | str s =>
      cases hread : Numeral.read s with
      | ok k => exact .str hread
      | error _ => simp [toInt, hread] at h
    | _ => cases h
  · intro h
    cases h with
    | str hread => exact ⟨_, by rw [toInt, hread]⟩
    | _ => exact ⟨_, rfl⟩

theorem toInt_eq_infinite_iff :
    v.toInt = .error .infiniteToInt ↔ ∃ negative, v = .float (.infinite negative) := by
  constructor
  · intro h
    cases v with
    | float x =>
      cases x with
      | infinite negative => exact ⟨negative, rfl⟩
      | _ => cases h
    | str s => cases hread : Numeral.read s <;> simp [toInt, hread] at h
    | _ => cases h
  · rintro ⟨negative, rfl⟩
    rfl

theorem exists_members_iff : (∃ items, v.members = .ok items) ↔ v.HasMembers := by
  constructor
  · rintro ⟨items, h⟩
    cases v with
    | arr items => exact .arr items
    | str s => exact .str s
    | obj fields => exact .obj fields
    | _ => cases h
  · intro h
    cases h <;> exact ⟨_, rfl⟩

/-! Only a number can be without end: nothing else that is asked of a value fails for that. -/

section Finite

theorem ne_infinite_of_field (h : d.field name = .error e) : e ≠ .infiniteToInt := by
  rintro rfl
  unfold field at h
  split at h
  · split at h <;> cases h
  · cases h

theorem ne_infinite_of_fieldD {default : Json} (h : d.fieldD name default = .error e) :
    e ≠ .infiniteToInt := by
  rintro rfl
  unfold fieldD at h
  split at h <;> cases h

theorem ne_infinite_of_members (h : d.members = .error e) : e ≠ .infiniteToInt := by
  rintro rfl
  unfold members at h
  split at h <;> cases h

theorem ne_infinite_of_domainPairs (h : d.domainPairs = .error e) : e ≠ .infiniteToInt := by
  rcases Except.bind_eq_error_iff.1 h with h | ⟨fields, _, h⟩
  · rintro rfl
    unfold entries at h
    split at h <;> cases h
  · obtain ⟨f, _, hf⟩ := exists_of_mapM_eq_error h
    rcases Except.bind_eq_error_iff.1 hf with hf | ⟨_, _, hpure⟩
    · exact ne_infinite_of_members (Except.map_eq_error_iff.1 hf)
    · cases hpure

theorem ne_infinite_of_textField {cause : Rule.ReadError} (h : d.textField name = .error cause) :
    cause ≠ .shape .infiniteToInt := by
  rintro rfl
  unfold textField at h
  split at h
  · cases h
  · next hfield => exact ne_infinite_of_field hfield (Rule.ReadError.shape.inj (Except.error.inj h))

end Finite

end Json

namespace Rule

variable {d : Json} {cause : ReadError}

/-- An object that has the fields of both sides and names an operator. -/
def IsReadable (d : Json) : Prop :=
  ∃ fields, d = .obj fields ∧
    (∀ side : Side, side.categoryField ∈ Assoc.keys fields ∧ side.valueField ∈ Assoc.keys fields) ∧
    ∃ v o, Assoc.get? "operator" fields = some v ∧ Text.lower v.plainText = Operator.name o

theorem ne_infinite_of_ofJson (h : Rule.ofJson d = .error cause) :
    cause ≠ .shape .infiniteToInt := by
  unfold Rule.ofJson at h
  simp only [Except.bind_eq_error_iff] at h
  rcases h with h | ⟨_, _, h | ⟨_, _, h | ⟨_, _, h | ⟨_, _, h | ⟨_, _, h | ⟨_, _, h⟩⟩⟩⟩⟩⟩
  · exact Json.ne_infinite_of_textField h
  · exact Json.ne_infinite_of_textField h
  · exact Json.ne_infinite_of_textField h
  · unfold Operator.read at h
    split at h
    · cases h
    · obtain rfl := Except.error.inj h
      simp
  · exact Json.ne_infinite_of_textField h
  · exact Json.ne_infinite_of_textField h
  · cases h

theorem exists_read_iff {text : String} :
    (∃ o, Operator.read text = .ok o) ↔ ∃ o : Operator, text = o.name := by
  constructor
  · rintro ⟨o, h⟩
    unfold Operator.read at h
    split at h
    · next o' ho =>
      have hname := List.find?_some (p := fun o : Operator => o.name = text) ho
      exact ⟨o', (of_decide_eq_true hname).symm⟩
    · cases h
  · rintro ⟨o, rfl⟩
    exact ⟨o, by rw [Operator.read, Operator.ofName?_name]⟩

theorem exists_ofJson_iff : (∃ r, Rule.ofJson d = .ok r) ↔ IsReadable d := by
  constructor
  · rintro ⟨r, h⟩
    obtain ⟨hsides, text, htext, hoperator⟩ := ofJson_eq_ok_iff.1 h
    obtain ⟨v, hv, rfl⟩ := Json.textField_eq_ok_iff.1 htext
    cases d with
    | obj fields =>
      have hmem {name text : String} (h : (Json.obj fields).textField name = .ok text) :
          name ∈ Assoc.keys fields := by
        obtain ⟨w, hw, _⟩ := Json.textField_eq_ok_iff.1 h
        exact Assoc.mem_keys_of_mem (Assoc.mem_of_get?_eq_some (Json.field_eq_ok_iff.1 hw))
      obtain ⟨o, ho⟩ := exists_read_iff.1 ⟨_, hoperator⟩
      exact ⟨fields, rfl, fun side => ⟨hmem (hsides side).1, hmem (hsides side).2⟩, v, o,
        Json.field_eq_ok_iff.1 hv, ho⟩
    | _ => cases hv
  · rintro ⟨fields, rfl, hsides, v, o, hv, ho⟩
    have htext {name : String} (h : name ∈ Assoc.keys fields) :
        ∃ text, (Json.obj fields).textField name = .ok text := by
      cases hget : Assoc.get? name fields with
      | none => exact absurd h (Assoc.get?_eq_none_iff.1 hget)
      | some w => exact ⟨_, Json.textField_eq_ok_iff.2 ⟨w, Json.field_eq_ok_iff.2 hget, rfl⟩⟩
    have hoperand (side : Side) : ∃ x : Operand,
        (Json.obj fields).textField side.categoryField = .ok x.category ∧
          (Json.obj fields).textField side.valueField = .ok x.value := by
      obtain ⟨c, hc⟩ := htext (hsides side).1
      obtain ⟨w, hw⟩ := htext (hsides side).2
      exact ⟨⟨c, w⟩, hc, hw⟩
    obtain ⟨left, hleft⟩ := hoperand .left
    obtain ⟨right, hright⟩ := hoperand .right
    refine ⟨⟨left, o, right⟩, ofJson_eq_ok_iff.2 ⟨fun side => ?_, v.plainText, ?_, ?_⟩⟩
    · cases side
      exacts [hleft, hright]
    · exact Json.textField_eq_ok_iff.2 ⟨v, Json.field_eq_ok_iff.2 hv, rfl⟩
    · rw [ho, Operator.read, Operator.ofName?_name]

end Rule

namespace Json

variable {v : Json} {fields : List (String × Json)}

/-- Members of one sort, whatever it is. Texts and objects have no members but texts; they may be
empty. -/
inductive HoldsEach (P : Json → Prop) : Json → Prop
  | arr {items : List Json} : (∀ item ∈ items, P item) → HoldsEach P (.arr items)
  | emptyText : HoldsEach P (.str "")
  | emptyObject : HoldsEach P (.obj [])

theorem exists_forall_members_iff {P : Json → Prop} (htext : ∀ s, ¬ P (.str s)) :
    (∃ items, v.members = .ok items ∧ ∀ item ∈ items, P item) ↔ v.HoldsEach P := by
  constructor
  · rintro ⟨items, hitems, hall⟩
    cases v with
    | arr given =>
      obtain rfl := Except.ok.inj hitems
      exact .arr hall
    | str s =>
      obtain rfl := Except.ok.inj hitems
      cases hs : s.toList with
      | nil =>
        obtain rfl := String.toList_eq_nil_iff.1 hs
        exact .emptyText
      | cons c cs => exact absurd (hall _ (by simp [hs])) (htext (String.singleton c))
    | obj fields =>
      obtain rfl := Except.ok.inj hitems
      cases fields with
      | nil => exact .emptyObject
      | cons f fields => exact absurd (hall _ (by simp)) (htext f.1)
    | _ => cases hitems
  · intro h
    cases h with
    | arr hall => exact ⟨_, rfl, hall⟩
    | emptyText => exact ⟨[], rfl, by simp⟩
    | emptyObject => exact ⟨[], rfl, by simp⟩

/-- Rules that can be read. Texts and objects have no members that are rules, but they may be
empty. -/
inductive HoldsRules : Json → Prop
  | arr {items : List Json} : (∀ item ∈ items, Rule.IsReadable item) → HoldsRules (.arr items)
  | emptyText : HoldsRules (.str "")
  | emptyObject : HoldsRules (.obj [])

theorem exists_rules_iff :
    (∃ items, v.members = .ok items ∧ ∃ rules, items.mapM Rule.ofJson = .ok rules) ↔
      v.HoldsRules := by
  simp only [exists_mapM_iff, Rule.exists_ofJson_iff]
  have htext (s : String) : ¬ Rule.IsReadable (.str s) := by
    rintro ⟨_, hobj, _⟩
    cases hobj
  rw [exists_forall_members_iff htext]
  constructor
  · intro h
    cases h with
    | arr hall => exact .arr hall
    | emptyText => exact .emptyText
    | emptyObject => exact .emptyObject
  · intro h
    cases h with
    | arr hall => exact .arr hall
    | emptyText => exact .emptyText
    | emptyObject => exact .emptyObject

/-- Domains that can be read: categories with whatever has members. -/
def HoldsDomains (v : Json) : Prop :=
  ∃ fields, v = .obj fields ∧ ∀ f ∈ fields, HasMembers f.2

theorem exists_domainPairs_iff : (∃ pairs, v.domainPairs = .ok pairs) ↔ v.HoldsDomains := by
  constructor
  · rintro ⟨pairs, h⟩
    obtain ⟨fields, hfields, hpairs⟩ := Except.bind_eq_ok_iff.1 h
    cases v with
    | obj given =>
      obtain rfl := Except.ok.inj hfields
      refine ⟨given, rfl, fun f hf => exists_members_iff.1 ?_⟩
      obtain ⟨_, hread⟩ := exists_mapM_iff.1 ⟨pairs, hpairs⟩ f hf
      obtain ⟨_, htexts, _⟩ := Except.bind_eq_ok_iff.1 hread
      obtain ⟨items, hitems, _⟩ := Except.map_eq_ok_iff.1 htexts
      exact ⟨items, hitems⟩
    | _ => cases hfields
  · rintro ⟨fields, rfl, hall⟩
    refine exists_mapM_iff.2 fun f hf => ?_
    obtain ⟨items, hitems⟩ := exists_members_iff.2 (hall f hf)
    exact ⟨_, Except.bind_eq_ok_iff.2 ⟨_, Except.map_eq_ok_iff.2 ⟨items, hitems, rfl⟩, rfl⟩⟩

/-- An object that holds a puzzle; it may go without domains and without rules. -/
structure HoldsPuzzle (fields : List (String × Json)) : Prop where
  houses : ∃ v, Assoc.get? "houses" fields = some v ∧ v.IsCount
  domains : ∀ v, Assoc.get? "domains" fields = some v → v.HoldsDomains
  rules : ∀ v, Assoc.get? "rules" fields = some v → v.HoldsRules

end Json

/-- A number of houses without end, as only a binary number can be. -/
def Json.HasInfiniteHouses (d : Json) : Prop :=
  ∃ negative, d.field "houses" = .ok (.float (.infinite negative))

namespace Puzzle

variable {d : Json} {fields : List (String × Json)}

theorem exists_ofJson_iff :
    (∃ p, Puzzle.ofJson d = .ok p) ↔ ∃ fields, d = .obj fields ∧ Json.HoldsPuzzle fields := by
  have hget {fields : List (String × Json)} {name : String} {default : Json} {P : Json → Prop}
      (hdefault : P default) : (∃ v, (Json.obj fields).fieldD name default = .ok v ∧ P v) ↔
        ∀ v, Assoc.get? name fields = some v → P v := by
    cases h : Assoc.get? name fields <;> simp [Json.fieldD, h, hdefault]
  have hnoDomains : Json.HoldsDomains (.obj []) := ⟨[], rfl, by simp⟩
  have hnoRules : Json.HoldsRules (.arr []) := .arr (by simp)
  constructor
  · rintro ⟨p, h⟩
    obtain ⟨houses, ds, pairs, rs, items, ⟨hhouses, hn⟩, ⟨hds, hpairs, _⟩, hrs, hitems, hrules⟩ :=
      ofJson_eq_ok_iff.1 h
    cases d with
    | obj fields =>
      refine ⟨fields, rfl, ⟨houses, Json.field_eq_ok_iff.1 hhouses, ?_⟩, ?_, ?_⟩
      · exact Json.exists_toInt_iff.1 ⟨_, hn⟩
      · exact (hget hnoDomains).1 ⟨ds, hds, Json.exists_domainPairs_iff.1 ⟨pairs, hpairs⟩⟩
      · exact (hget hnoRules).1 ⟨rs, hrs, Json.exists_rules_iff.1 ⟨items, hitems, _, hrules⟩⟩
    | _ => cases hhouses
  · rintro ⟨fields, rfl, ⟨houses, hhouses, hcount⟩, hdomains, hrules⟩
    obtain ⟨n, hn⟩ := Json.exists_toInt_iff.2 hcount
    obtain ⟨ds, hds, hheld⟩ := (hget hnoDomains).2 hdomains
    obtain ⟨pairs, hpairs⟩ := Json.exists_domainPairs_iff.2 hheld
    obtain ⟨rs, hrs, hheld⟩ := (hget hnoRules).2 hrules
    obtain ⟨items, hitems, rules, hread⟩ := Json.exists_rules_iff.2 hheld
    exact ⟨⟨n, .ofPairs pairs, rules⟩, ofJson_eq_ok_iff.2 ⟨houses, ds, pairs, rs, items,
      ⟨Json.field_eq_ok_iff.2 hhouses, hn⟩, ⟨hds, hpairs, rfl⟩, hrs, hitems, hread⟩⟩

/-- Only the number of houses can be infinite. -/
theorem shape_eq_infinite_iff :
    ofJson.shape d = .error .infiniteToInt ↔ d.HasInfiniteHouses := by
  unfold ofJson.shape
  simp only [Except.bind_eq_error_iff]
  constructor
  · rintro (h | ⟨v, hv, h | ⟨_, _, h | ⟨ds, _, h | ⟨_, _, h | ⟨rs, _, h | ⟨_, _, h⟩⟩⟩⟩⟩⟩)
    · exact absurd rfl (Json.ne_infinite_of_field h)
    · obtain ⟨negative, rfl⟩ := Json.toInt_eq_infinite_iff.1 h
      exact ⟨negative, hv⟩
    · exact absurd rfl (Json.ne_infinite_of_fieldD h)
    · exact absurd rfl (Json.ne_infinite_of_domainPairs h)
    · exact absurd rfl (Json.ne_infinite_of_fieldD h)
    · exact absurd rfl (Json.ne_infinite_of_members h)
    · cases h
  · rintro ⟨negative, hv⟩
    exact .inr ⟨_, hv, .inl rfl⟩

theorem ReadError.ofShape_eq {e : Json.ShapeError} (h : e ≠ .infiniteToInt) :
    ofShape e = .malformed (.shape e) := by
  unfold ofShape
  split
  · exact absurd rfl h
  · rfl

/-- A document that is not read is malformed, or has an infinite number of houses. -/
theorem cases_of_ofJson_eq_error {e : ReadError} (h : Puzzle.ofJson d = .error e) :
    (e = .infiniteHouses ∧ d.HasInfiniteHouses) ∨
      ∃ cause, e = .malformed cause ∧ cause ≠ .shape .infiniteToInt := by
  unfold Puzzle.ofJson at h
  rcases Except.bind_eq_error_iff.1 h with h | ⟨⟨_, _, items⟩, _, h⟩
  · obtain ⟨s, hs, rfl⟩ := Except.mapError_eq_error_iff.1 h
    by_cases hinfinite : s = .infiniteToInt
    · subst hinfinite
      exact .inl ⟨rfl, shape_eq_infinite_iff.1 hs⟩
    · exact .inr ⟨.shape s, ReadError.ofShape_eq hinfinite,
        fun heq => hinfinite (Rule.ReadError.shape.inj heq)⟩
  · rcases Except.bind_eq_error_iff.1 h with h | ⟨_, _, h⟩
    · obtain ⟨cause, hcause, rfl⟩ := Except.mapError_eq_error_iff.1 h
      obtain ⟨item, _, hitem⟩ := exists_of_mapM_eq_error hcause
      exact .inr ⟨cause, rfl, Rule.ne_infinite_of_ofJson hitem⟩
    · cases h

theorem ofJson_of_hasInfiniteHouses (h : d.HasInfiniteHouses) :
    Puzzle.ofJson d = .error .infiniteHouses := by
  unfold Puzzle.ofJson
  rw [shape_eq_infinite_iff.2 h]
  rfl

theorem eq_infiniteHouses_iff {e : ReadError} (h : Puzzle.ofJson d = .error e) :
    e = .infiniteHouses ↔ d.HasInfiniteHouses := by
  constructor
  · rintro rfl
    rcases cases_of_ofJson_eq_error h with ⟨_, hinfinite⟩ | ⟨_, hcause, _⟩
    · exact hinfinite
    · cases hcause
  · intro hinfinite
    rw [ofJson_of_hasInfiniteHouses hinfinite] at h
    exact (Except.error.inj h).symm

end Puzzle

/-- The number of houses is not changed by normalisation. -/
theorem Normalization.hasInfiniteHouses_puzzle (aliases : Aliases) (fields : List (String × Json)) :
    (Json.obj (puzzle aliases fields)).HasInfiniteHouses ↔ (Json.obj fields).HasInfiniteHouses := by
  have hkept : Assoc.get? "houses" (puzzle aliases fields) = Assoc.get? "houses" fields := by
    rw [get?_puzzle]
    exact congrFun Option.map_id _
  simp only [Json.HasInfiniteHouses, Json.field_eq_ok_iff, hkept]

namespace Checked

open Normalization (hasInfiniteHouses_puzzle)

variable {fields : List (String × Json)}

theorem build_of_ofJson_eq_error {d : Json} {cause : Rule.ReadError}
    (h : Puzzle.ofJson d = .error (.malformed cause)) :
    build d = .ok ⟨none, ⟨[.unreadable (.malformed cause)], []⟩⟩ := by
  rw [build, h]
  rfl

theorem ofFields_of_hasInfiniteHouses (aliases : Aliases)
    (h : (Json.obj fields).HasInfiniteHouses) :
    ofFields none aliases fields = .error .infiniteHouses := by
  change build (.obj (Normalization.puzzle aliases fields)) = _
  rw [build, Puzzle.ofJson_of_hasInfiniteHouses ((hasInfiniteHouses_puzzle aliases fields).2 h)]

theorem ofFields_of_not_holdsPuzzle {aliases : Aliases}
    (hfinite : ¬ (Json.obj fields).HasInfiniteHouses)
    (hunheld : ¬ Json.HoldsPuzzle (Normalization.puzzle aliases fields)) :
    ∃ cause, Puzzle.ofJson (.obj (Normalization.puzzle aliases fields)) =
        .error (.malformed cause) ∧
      ofFields none aliases fields = .ok ⟨none, ⟨[.unreadable (.malformed cause)], []⟩⟩ := by
  have hfails : ¬ ∃ p, Puzzle.ofJson (.obj (Normalization.puzzle aliases fields)) = .ok p := by
    rw [Puzzle.exists_ofJson_iff]
    rintro ⟨_, heq, hheld⟩
    obtain rfl := Json.obj.inj heq
    exact hunheld hheld
  cases hread : Puzzle.ofJson (.obj (Normalization.puzzle aliases fields)) with
  | ok p => exact absurd ⟨p, hread⟩ hfails
  | error e =>
    rcases Puzzle.cases_of_ofJson_eq_error hread with ⟨_, hinfinite⟩ | ⟨cause, rfl, _⟩
    · exact absurd ((hasInfiniteHouses_puzzle aliases fields).1 hinfinite) hfinite
    · exact ⟨cause, rfl, build_of_ofJson_eq_error hread⟩

/-- A document is read where it holds a puzzle. Else there is a cause why it is malformed, but where
the number of houses is infinite. Without a schema what is malformed is reported by one error at
the root; there is no report of an infinite number of houses. -/
theorem unreadable_reported (d : Json) (aliases : Aliases) (fields : List (String × Json)) :
    (((∃ p, Puzzle.ofJson d = .ok p) ↔ ∃ fields, d = .obj fields ∧ Json.HoldsPuzzle fields) ∧
      ∀ e, Puzzle.ofJson d = .error e →
        (e = .infiniteHouses ↔ d.HasInfiniteHouses) ∧
        (e ≠ .infiniteHouses → ∃ cause, e = .malformed cause ∧ cause ≠ .shape .infiniteToInt)) ∧
    ((Json.obj fields).HasInfiniteHouses →
      ofFields none aliases fields = .error .infiniteHouses) ∧
    (¬ (Json.obj fields).HasInfiniteHouses →
      ¬ Json.HoldsPuzzle (Normalization.puzzle aliases fields) →
      ∃ defect, ofFields none aliases fields = .ok ⟨none, ⟨[defect], []⟩⟩ ∧
        defect.code = "E_SCHEMA_VIOLATION" ∧ defect.path = "/" ∧
        ∃ cause, Puzzle.ofJson (.obj (Normalization.puzzle aliases fields)) =
            .error (.malformed cause) ∧
          defect.message = "Nieprawidłowe dane łamigłówki: " ++ cause.message) := by
  refine ⟨⟨Puzzle.exists_ofJson_iff, fun e he => ⟨Puzzle.eq_infiniteHouses_iff he, fun hne => ?_⟩⟩,
    ofFields_of_hasInfiniteHouses aliases, fun hfinite hunheld => ?_⟩
  · exact (Puzzle.cases_of_ofJson_eq_error he).resolve_left fun h => hne h.1
  · obtain ⟨cause, hread, hreport⟩ := ofFields_of_not_holdsPuzzle hfinite hunheld
    exact ⟨_, hreport, rfl, rfl, cause, hread, rfl⟩

end Checked

/-- A number of houses that is too great to be finite. -/
def endlessRow : Json :=
  .obj [("houses", .float (.infinite false))]

theorem Puzzle.not_malformed_endlessRow :
    ¬ ∀ d : Json, (∃ p, Puzzle.ofJson d = .ok p) ∨
      ∃ cause, Puzzle.ofJson d = .error (.malformed cause) := by
  intro h
  have hread : Puzzle.ofJson endlessRow = .error .infiniteHouses :=
    Puzzle.ofJson_of_hasInfiniteHouses ⟨false, rfl⟩
  rcases h endlessRow with ⟨p, hp⟩ | ⟨cause, hcause⟩
  · rw [hread] at hp
    cases hp
  · rw [hread] at hcause
    cases hcause

end HousePuzzle
