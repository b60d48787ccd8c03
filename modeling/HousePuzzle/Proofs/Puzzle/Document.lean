import HousePuzzle.Proofs.Json.Text
import HousePuzzle.Proofs.Registry
import HousePuzzle.Proofs.Schema
import HousePuzzle.Proofs.Traversal
import HousePuzzle.Puzzle.Document
import Mathlib.Data.Set.List

/-!
What a document gives when a puzzle is read from it, and that the document of a puzzle is accepted
by the schema, read as that puzzle, and read back from its own text.
-/

namespace HousePuzzle

variable {d : Json} {r : Rule} {p : Puzzle}

theorem Json.field_eq_ok_iff {name : String} {fields : List (String × Json)} {v : Json} :
    (Json.obj fields).field name = .ok v ↔ Assoc.get? name fields = some v := by
  cases h : Assoc.get? name fields <;> simp [Json.field, h]

/-- Categories with their values as a document has them. -/
def Domains.toJson (ds : Domains) : Json :=
  .obj (ds.map fun e => (e.1, .arr (e.2.map .str)))

theorem Domains.keys_fields (ds : Domains) :
    Assoc.keys (ds.map fun e => (e.1, Json.arr (e.2.map .str))) = Assoc.keys ds :=
  List.map_map

theorem Registry.toJson_eq (d : Registry) : d.toJson = Domains.toJson d.domains := rfl

theorem Json.texts_strings (vs : List String) : (Json.arr (vs.map .str)).texts = .ok vs := by
  have hmap : (vs.map Json.str).map Json.plainText = vs := by
    rw [List.map_map]
    exact List.map_id'' plainText_str vs
  exact congrArg Except.ok hmap

@[simp] theorem Json.domainPairs_toJson (ds : Domains) : (Domains.toJson ds).domainPairs = .ok ds := by
  refine mapM_eq_ok_iff.2 ?_
  rw [List.forall₂_map_left_iff, List.forall₂_same]
  intro e _
  rw [Json.texts_strings]
  rfl

namespace Side

/-- The field of a rule that holds the category of a side. -/
def categoryField (side : Side) : String :=
  side.name ++ "Category"

def valueField (side : Side) : String :=
  side.name ++ "Value"

end Side

theorem Json.textField_eq_ok_iff {name text : String} :
    d.textField name = .ok text ↔ ∃ v, d.field name = .ok v ∧ v.plainText = text := by
  unfold Json.textField
  cases d.field name <;> simp

theorem Rule.ofJson_eq_ok_iff :
    Rule.ofJson d = .ok r ↔
      (∀ side : Side, d.textField side.categoryField = .ok (r.operand side).category ∧
        d.textField side.valueField = .ok (r.operand side).value) ∧
      ∃ text, d.textField "operator" = .ok text ∧
        Operator.read (Text.lower text) = .ok r.operator := by
  unfold Rule.ofJson
  simp only [Except.bind_eq_ok_iff]
  constructor
  · rintro ⟨lc, hlc, lv, hlv, text, htext, o, ho, rc, hrc, rv, hrv, h⟩
    obtain rfl := Except.ok.inj h
    exact ⟨fun side => by cases side; exacts [⟨hlc, hlv⟩, ⟨hrc, hrv⟩], text, htext, ho⟩
  · rintro ⟨hsides, text, htext, ho⟩
    exact ⟨_, (hsides .left).1, _, (hsides .left).2, text, htext, _, ho, _, (hsides .right).1, _,
      (hsides .right).2, rfl⟩

theorem Puzzle.ofJson_eq_ok_iff :
    Puzzle.ofJson d = .ok p ↔ ∃ houses ds pairs rs items,
      (d.field "houses" = .ok houses ∧ houses.toInt = .ok p.houses) ∧
      (d.fieldD "domains" (.obj []) = .ok ds ∧ ds.domainPairs = .ok pairs ∧
        p.domains = .ofPairs pairs) ∧
      (d.fieldD "rules" (.arr []) = .ok rs ∧ rs.members = .ok items ∧
        items.mapM Rule.ofJson = .ok p.rules) := by
  unfold Puzzle.ofJson Puzzle.ofJson.shape
  simp only [Except.bind_eq_ok_iff, Except.mapError_eq_ok_iff]
  constructor
  · rintro ⟨_, ⟨houses, hhouses, n, hn, ds, hds, pairs, hpairs, rs, hrs, items, hitems, hshape⟩,
      rules, hrules, h⟩
    obtain rfl := Except.ok.inj hshape
    obtain rfl := Except.ok.inj h
    exact ⟨houses, ds, pairs, rs, items, ⟨hhouses, hn⟩, ⟨hds, hpairs, rfl⟩, hrs, hitems, hrules⟩
  · rintro ⟨houses, ds, pairs, rs, items, ⟨hhouses, hn⟩, ⟨hds, hpairs, hdomains⟩, hrs, hitems, hrules⟩
    obtain ⟨n, domains, rules⟩ := p
    obtain rfl : domains = .ofPairs pairs := hdomains
    exact ⟨_, ⟨houses, hhouses, n, hn, ds, hds, pairs, hpairs, rs, hrs, items, hitems, rfl⟩, rules,
      hrules, rfl⟩

@[simp] theorem Operator.lower_name (o : Operator) : Text.lower o.name = o.name := by
  cases o <;> decide +kernel

theorem Rule.ofJson_toJson (r : Rule) : Rule.ofJson r.toJson = .ok r := by
  refine ofJson_eq_ok_iff.2 ⟨fun side => ?_, r.operator.name, rfl, ?_⟩
  · cases side <;> exact ⟨rfl, rfl⟩
  · rw [Operator.lower_name, Operator.read, Operator.ofName?_name]

/-- The fields of the document of a puzzle. -/
def Puzzle.fields (p : Puzzle) : List (String × Json) :=
  [("houses", .int p.houses), ("domains", p.domains.toJson),
    ("rules", .arr (p.rules.map Rule.toJson))]

theorem Puzzle.toJson_eq (p : Puzzle) : p.toJson = .obj p.fields := rfl

theorem Puzzle.ofJson_toJson (p : Puzzle) : Puzzle.ofJson p.toJson = .ok p := by
  refine ofJson_eq_ok_iff.2 ⟨.int p.houses, p.domains.toJson, p.domains.domains,
    .arr (p.rules.map Rule.toJson), p.rules.map Rule.toJson, ⟨rfl, rfl⟩, ⟨rfl, ?_, ?_⟩, rfl, rfl, ?_⟩
  · rw [Registry.toJson_eq, Json.domainPairs_toJson]
  · rw [Registry.ofPairs_domains]
  · rw [mapM_eq_ok_iff, List.forall₂_map_left_iff, List.forall₂_same]
    exact fun r _ => r.ofJson_toJson

theorem Json.writable_strings (vs : List String) : Json.Writable (.arr (vs.map .str)) := by
  refine .arr fun v hv => ?_
  obtain ⟨s, _, rfl⟩ := List.mem_map.1 hv
  exact .str s

theorem Registry.writable_toJson (d : Registry) : d.toJson.Writable := by
  refine .obj (d.domains.keys_fields ▸ d.distinct.1) fun f hf => ?_
  obtain ⟨e, _, rfl⟩ := List.mem_map.1 hf
  exact Json.writable_strings e.2

theorem Rule.writable_toJson (r : Rule) : r.toJson.Writable := by
  refine .obj (by simp) ?_
  simp only [List.forall_mem_cons, List.not_mem_nil, false_imp_iff, implies_true, and_true]
  exact ⟨.str _, .str _, .str _, .str _, .str _⟩

/-- The number of houses is the only one in the document. -/
theorem Puzzle.writable_toJson (h : Json.digitCount p.houses ≤ Numeral.digitLimit) :
    p.toJson.Writable := by
  have hrules : Json.Writable (.arr (p.rules.map Rule.toJson)) := by
    refine .arr fun v hv => ?_
    obtain ⟨r, _, rfl⟩ := List.mem_map.1 hv
    exact r.writable_toJson
  refine .obj (by simp) ?_
  simp only [List.forall_mem_cons, List.not_mem_nil, false_imp_iff, implies_true, and_true]
  exact ⟨.int h, p.domains.writable_toJson, hrules⟩

namespace Schema

variable {v : Json}

theorem accepts_texts_iff :
    Accepts (.list (.forms [.string])) v ↔ ∃ vs : List String, v = .arr (vs.map .str) := by
  constructor
  · intro h
    cases h with
    | list hall =>
      have hrange : ∀ w ∈ _, w ∈ Set.range Json.str := fun w hw => by
        cases hall w hw with
        | form hf hw =>
          obtain rfl := List.mem_singleton.1 hf
          obtain ⟨s, rfl⟩ := Form.has_string_iff.1 hw
          exact ⟨s, rfl⟩
      obtain ⟨vs, rfl⟩ := (Set.range_list_map Json.str).ge hrange
      exact ⟨vs, rfl⟩
  · rintro ⟨vs, rfl⟩
    refine .list fun w hw => ?_
    obtain ⟨s, _, rfl⟩ := List.mem_map.1 hw
    exact .form (List.mem_singleton.2 rfl) rfl

theorem accepts_domains_iff :
    Accepts (.map (.list (.forms [.string]))) v ↔ ∃ ds, v = Domains.toJson ds := by
  constructor
  · intro h
    cases h with
    | map hall =>
      have hrange : ∀ f ∈ _, f ∈ Set.range fun e : String × List String =>
          (e.1, Json.arr (e.2.map .str)) := fun f hf => by
        obtain ⟨vs, hvs⟩ := accepts_texts_iff.1 (hall f hf)
        exact ⟨(f.1, vs), Prod.ext rfl hvs.symm⟩
      obtain ⟨ds, rfl⟩ := (Set.range_list_map _).ge hrange
      exact ⟨ds, rfl⟩
  · rintro ⟨ds, rfl⟩
    refine .map fun f hf => ?_
    obtain ⟨e, _, rfl⟩ := List.mem_map.1 hf
    exact accepts_texts_iff.2 ⟨e.2, rfl⟩

theorem Accepts.of_some {s : Schema} (h : Accepts s v) : ∀ w, some v = some w → Accepts s w := by
  rintro w ⟨⟩
  exact h

theorem accepts_rule (r : Rule) : Accepts rule r.toJson := by
  have htext (s : String) {allowed : List Form} (h : .string ∈ allowed) :
      Accepts (.forms allowed) (.str s) := .form h rfl
  have hoperator : Accepts (.choice (Operator.all.map (·.name))) (.str r.operator.name) :=
    .choice (by cases r.operator <;> decide)
  refine .record (by simp) (fun _ h => h) ?_
  simp only [List.forall_mem_cons, List.not_mem_nil, false_imp_iff, implies_true, and_true]
  exact ⟨(htext r.left.category (by simp)).of_some, (htext r.left.value (by simp)).of_some,
    hoperator.of_some, (htext r.right.category (by simp)).of_some,
    (htext r.right.value (by simp)).of_some⟩

section Fields

variable {fields : List (String × Json)}

theorem Accepts.exists_domains (h : Accepts puzzle (.obj fields)) :
    ∃ ds, Assoc.get? "domains" fields = some (Domains.toJson ds) := by
  have hdomains : ∃ v, Assoc.get? "domains" fields = some v ∧
      Accepts (.map (.list (.forms [.string]))) v := h.exists_get? (by simp) (by simp)
  obtain ⟨v, hv, haccepted⟩ := hdomains
  obtain ⟨ds, rfl⟩ := accepts_domains_iff.1 haccepted
  exact ⟨ds, hv⟩

theorem Accepts.exists_rules (h : Accepts puzzle (.obj fields))
    (hv : Assoc.get? "rules" fields = some v) :
    ∃ items, v = .arr items ∧ ∀ w ∈ items, Accepts rule w := by
  have hlist : Accepts (.list rule) v := h.of_get? (by simp) hv
  cases hlist with
  | list hall => exact ⟨_, rfl, hall⟩

theorem Accepts.of_categoryField (h : Accepts rule (.obj fields)) {side : Side}
    (hv : Assoc.get? side.categoryField fields = some v) : Accepts (.forms [.string]) v := by
  refine h.of_get? ?_ hv
  cases side <;> simp [Side.categoryField, Side.name]

theorem Accepts.of_valueField (h : Accepts rule (.obj fields)) {side : Side}
    (hv : Assoc.get? side.valueField fields = some v) : Accepts (.forms [.string, .integer]) v := by
  refine h.of_get? ?_ hv
  cases side <;> simp [Side.valueField, Side.name]

end Fields

/-- The document of a puzzle has the shape that documents must have. -/
theorem accepts_puzzle (p : Puzzle) : Accepts puzzle p.toJson := by
  have hhouses : Accepts (.forms [.integer]) (.int p.houses) :=
    .form (List.mem_singleton_self Form.integer) rfl
  have hdomains : Accepts (.map (.list (.forms [.string]))) p.domains.toJson :=
    accepts_domains_iff.2 ⟨p.domains.domains, rfl⟩
  have hrules : Accepts (.list rule) (.arr (p.rules.map Rule.toJson)) := by
    refine .list fun w hw => ?_
    obtain ⟨r, _, rfl⟩ := List.mem_map.1 hw
    exact accepts_rule r
  refine .record (by simp) (fun _ h => h) ?_
  simp only [List.forall_mem_cons, List.not_mem_nil, false_imp_iff, implies_true, and_true]
  exact ⟨hhouses.of_some, hdomains.of_some, hrules.of_some⟩

end Schema

end HousePuzzle
