import HousePuzzle.Proofs.Registry
import HousePuzzle.Schema

/-!
What a schema accepts, said without its violations: a value has none exactly when the schema
accepts it. Each violation is reported at a place in the value, and quotes what stands there.
-/

namespace HousePuzzle.Schema

inductive Accepts : Schema → Json → Prop
  | form {allowed : List Form} {f : Form} {v : Json} :
      f ∈ allowed → f.has v = true → Accepts (.forms allowed) v
  | choice {names : List String} {s : String} : s ∈ names → Accepts (.choice names) (.str s)
  | list {items : Schema} {vs : List Json} :
      (∀ w ∈ vs, Accepts items w) → Accepts (.list items) (.arr vs)
  | map {values : Schema} {fields : List (String × Json)} :
      (∀ f ∈ fields, Accepts values f.2) → Accepts (.map values) (.obj fields)
  | record {required : List String} {known : List (String × Schema)}
      {fields : List (String × Json)} :
      (∀ name ∈ required, name ∈ Assoc.keys fields) →
      (∀ name ∈ Assoc.keys fields, name ∈ Assoc.keys known) →
      (∀ e ∈ known, ∀ v, Assoc.get? e.1 fields = some v → Accepts e.2 v) →
      Accepts (.record required known) (.obj fields)

variable {path : List Step} {v : Json} {fields : List (String × Json)}

theorem Form.has_string_iff : Form.string.has v = true ↔ ∃ s, v = .str s := by
  cases v <;> simp [Form.has]

theorem Form.has_array_iff : Form.array.has v = true ↔ ∃ vs, v = .arr vs := by
  cases v <;> simp [Form.has]

theorem Form.has_object_iff : Form.object.has v = true ↔ ∃ fields, v = .obj fields := by
  cases v <;> simp [Form.has]

theorem checkForms_eq_nil_iff {allowed : List Form} :
    checkForms allowed path v = [] ↔ Accepts (.forms allowed) v := by
  unfold checkForms
  constructor
  · intro h
    split at h
    · next hany =>
      obtain ⟨f, hf, hv⟩ := List.any_eq_true.1 hany
      exact .form hf hv
    · cases h
  · intro h
    cases h with
    | form hf hv => rw [if_pos (List.any_eq_true.2 ⟨_, hf, hv⟩)]

theorem checkForms_singleton_eq_nil_iff {f : Form} :
    checkForms [f] path v = [] ↔ f.has v = true := by
  simp [checkForms]

theorem checkChoice_eq_nil_iff {names : List String} :
    checkChoice names path v = [] ↔ Accepts (.choice names) v := by
  constructor
  · intro h
    unfold checkChoice at h
    split at h
    · split at h
      · next hs => exact .choice (List.contains_iff_mem.1 hs)
      · cases h
    · cases h
  · intro h
    cases h with
    | choice hs => rw [checkChoice, if_pos (List.contains_iff_mem.2 hs)]

theorem checkRequired_eq_nil_iff {required : List String} :
    checkRequired required path fields = [] ↔ ∀ name ∈ required, name ∈ Assoc.keys fields := by
  simp [checkRequired, Assoc.get?_eq_none_iff]

theorem checkClosed_eq_nil_iff {known : List String} :
    checkClosed known path fields = [] ↔ ∀ name ∈ Assoc.keys fields, name ∈ known := by
  unfold checkClosed
  split
  · next h => simpa using h
  · next h => simpa using h

mutual

theorem violations_eq_nil_iff {path : List Step} {v : Json} :
    (s : Schema) → (violations path v s = [] ↔ Accepts s v)
  | .forms allowed => by
    rw [violations]
    exact checkForms_eq_nil_iff
  | .choice names => by
    rw [violations]
    exact checkChoice_eq_nil_iff
  | .list items => by
    constructor
    · intro h
      unfold violations at h
      split at h
      · next vs =>
        refine .list fun w hw => ?_
        obtain ⟨i, hi⟩ := List.mem_iff_getElem?.1 hw
        have hmem : (w, i) ∈ vs.zipIdx := List.mk_mem_zipIdx_iff_getElem?.2 hi
        exact (violations_eq_nil_iff items).1 (List.flatMap_eq_nil_iff.1 h _ hmem)
      · next hv =>
        obtain ⟨vs, rfl⟩ := Form.has_array_iff.1 (checkForms_singleton_eq_nil_iff.1 h)
        exact absurd rfl (hv vs)
    · intro h
      cases h with
      | list hall =>
        rw [violations]
        refine List.flatMap_eq_nil_iff.2 fun e he => ?_
        exact (violations_eq_nil_iff items).2 (hall _ (List.fst_mem_of_mem_zipIdx he))
  | .map values => by
    constructor
    · intro h
      unfold violations at h
      split at h
      · next fields =>
        refine .map fun f hf => ?_
        exact (violations_eq_nil_iff values).1 (List.flatMap_eq_nil_iff.1 h _ hf)
      · next hv =>
        obtain ⟨fields, rfl⟩ := Form.has_object_iff.1 (checkForms_singleton_eq_nil_iff.1 h)
        exact absurd rfl (hv fields)
    · intro h
      cases h with
      | map hall =>
        rw [violations]
        refine List.flatMap_eq_nil_iff.2 fun f hf => ?_
        exact (violations_eq_nil_iff values).2 (hall f hf)
  | .record required known => by
    constructor
    · intro h
      unfold violations at h
      split at h
      · obtain ⟨hhead, hfields⟩ := List.append_eq_nil_iff.1 h
        obtain ⟨hrequired, hclosed⟩ := List.append_eq_nil_iff.1 hhead
        exact .record (checkRequired_eq_nil_iff.1 hrequired) (checkClosed_eq_nil_iff.1 hclosed)
          ((fieldViolations_eq_nil_iff known).1 hfields)
      · next hv =>
        obtain ⟨fields, rfl⟩ := Form.has_object_iff.1 (checkForms_singleton_eq_nil_iff.1 h)
        exact absurd rfl (hv fields)
    · intro h
      cases h with
      | record hrequired hclosed hfields =>
        rw [violations, checkRequired_eq_nil_iff.2 hrequired, checkClosed_eq_nil_iff.2 hclosed,
          (fieldViolations_eq_nil_iff known).2 hfields]
        rfl

theorem fieldViolations_eq_nil_iff {path : List Step} {fields : List (String × Json)} :
    (known : List (String × Schema)) → (fieldViolations path fields known = [] ↔
      ∀ e ∈ known, ∀ v, Assoc.get? e.1 fields = some v → Accepts e.2 v)
  | [] => by simp [fieldViolations]
  | (name, s) :: rest => by
    rw [fieldViolations, List.append_eq_nil_iff, fieldViolations_eq_nil_iff rest,
      List.forall_mem_cons]
    refine and_congr_left fun _ => ?_
    cases Assoc.get? name fields with
    | none => simp
    | some v => simp [violations_eq_nil_iff s]

end

/-- The values of the document that the message quotes. -/
def Fault.quoted : Fault → List Json
  | .form v _ | .noChoice v _ => [v]
  | .missing _ | .unexpected _ => []

/-- The value itself at its place, and the values below it at theirs. -/
inductive Reaches (start : List Step) (d : Json) : List Step → Json → Prop
  | start : Reaches start d start d
  | item {path : List Step} {vs : List Json} {w : Json} {i : Nat} :
      Reaches start d path (.arr vs) → (w, i) ∈ vs.zipIdx → Reaches start d (path ++ [.item i]) w
  | field {path : List Step} {fields : List (String × Json)} {name : String} {w : Json} :
      Reaches start d path (.obj fields) → (name, w) ∈ fields →
        Reaches start d (path ++ [.field name]) w

section Places

variable {start : List Step} {d : Json} {x : Violation}

theorem Reaches.prefix_path (h : Reaches start d path v) : start <+: path := by
  induction h with
  | start => exact List.prefix_rfl
  | item _ _ ih => exact ih.trans (List.prefix_append _ _)
  | field _ _ ih => exact ih.trans (List.prefix_append _ _)

theorem eq_of_mem_checkForms {allowed : List Form} (h : x ∈ checkForms allowed path v) :
    x = ⟨path, .form v allowed⟩ := by
  unfold checkForms at h
  split at h
  · cases h
  · exact List.mem_singleton.1 h

theorem eq_of_mem_checkChoice {names : List String} (h : x ∈ checkChoice names path v) :
    x = ⟨path, .noChoice v names⟩ := by
  unfold checkChoice at h
  split at h
  · split at h
    · cases h
    · exact List.mem_singleton.1 h
  · exact List.mem_singleton.1 h

theorem exists_eq_of_mem_checkRequired {required : List String}
    (h : x ∈ checkRequired required path fields) : ∃ name, x = ⟨path, .missing name⟩ := by
  obtain ⟨name, _, rfl⟩ := List.mem_map.1 h
  exact ⟨name, rfl⟩

theorem exists_eq_of_mem_checkClosed {known : List String} (h : x ∈ checkClosed known path fields) :
    ∃ names, x = ⟨path, .unexpected names⟩ := by
  unfold checkClosed at h
  split at h
  · cases h
  · exact ⟨_, List.mem_singleton.1 h⟩

theorem reaches_of_mem_checkForms {allowed : List Form} (h : Reaches start d path v)
    (hx : x ∈ checkForms allowed path v) :
    ∃ w, Reaches start d x.path w ∧ ∀ u ∈ x.fault.quoted, u = w := by
  obtain rfl := eq_of_mem_checkForms hx
  exact ⟨v, h, fun u hu => List.mem_singleton.1 hu⟩

end Places

mutual

/-- A violation is reported at the value itself or at one below it, and quotes no other. -/
theorem reaches_of_mem_violations {start path : List Step} {d v : Json} {x : Violation}
    (h : Reaches start d path v) : (s : Schema) → x ∈ violations path v s →
      ∃ w, Reaches start d x.path w ∧ ∀ u ∈ x.fault.quoted, u = w
  | .forms allowed, hx => by
    rw [violations] at hx
    exact reaches_of_mem_checkForms h hx
  | .choice names, hx => by
    rw [violations] at hx
    obtain rfl := eq_of_mem_checkChoice hx
    exact ⟨v, h, fun u hu => List.mem_singleton.1 hu⟩
  | .list items, hx => by
    unfold violations at hx
    split at hx
    · obtain ⟨e, he, hx⟩ := List.mem_flatMap.1 hx
      exact reaches_of_mem_violations (h.item he) items hx
    · exact reaches_of_mem_checkForms h hx
  | .map values, hx => by
    unfold violations at hx
    split at hx
    · obtain ⟨f, hf, hx⟩ := List.mem_flatMap.1 hx
      exact reaches_of_mem_violations (h.field hf) values hx
    · exact reaches_of_mem_checkForms h hx
  | .record required known, hx => by
    unfold violations at hx
    split at hx
    · rcases List.mem_append.1 hx with hx | hx
      · rcases List.mem_append.1 hx with hx | hx
        · obtain ⟨name, rfl⟩ := exists_eq_of_mem_checkRequired hx
          exact ⟨_, h, fun u hu => absurd hu List.not_mem_nil⟩
        · obtain ⟨names, rfl⟩ := exists_eq_of_mem_checkClosed hx
          exact ⟨_, h, fun u hu => absurd hu List.not_mem_nil⟩
      · exact reaches_of_mem_fieldViolations h known hx
    · exact reaches_of_mem_checkForms h hx

theorem reaches_of_mem_fieldViolations {start path : List Step} {d : Json}
    {fields : List (String × Json)} {x : Violation} (h : Reaches start d path (.obj fields)) :
    (known : List (String × Schema)) → x ∈ fieldViolations path fields known →
      ∃ w, Reaches start d x.path w ∧ ∀ u ∈ x.fault.quoted, u = w
  | [], hx => by cases hx
  | (name, s) :: rest, hx => by
    rw [fieldViolations] at hx
    rcases List.mem_append.1 hx with hx | hx
    · split at hx
      · next hget => exact reaches_of_mem_violations (h.field (Assoc.mem_of_get?_eq_some hget)) s hx
      · cases hx
    · exact reaches_of_mem_fieldViolations h rest hx

end

theorem prefix_of_mem_violations {x : Violation} {s : Schema} (h : x ∈ violations path v s) :
    path <+: x.path := by
  obtain ⟨w, hw, _⟩ := reaches_of_mem_violations .start s h
  exact hw.prefix_path

section Record

variable {required : List String} {known : List (String × Schema)} {name : String} {s : Schema}
  {x : Violation}

theorem exists_of_mem_fieldViolations (h : x ∈ fieldViolations path fields known) :
    ∃ e ∈ known, ∃ v, Assoc.get? e.1 fields = some v ∧
      x ∈ violations (path ++ [.field e.1]) v e.2 := by
  induction known with
  | nil => cases h
  | cons e known ih =>
    obtain ⟨name, s⟩ := e
    rw [fieldViolations] at h
    rcases List.mem_append.1 h with h | h
    · split at h
      · next v hv => exact ⟨(name, s), List.mem_cons_self, v, hv, h⟩
      · cases h
    · obtain ⟨e, he, hx⟩ := ih h
      exact ⟨e, List.mem_cons_of_mem _ he, hx⟩

/-- Of an object either its own fields are wrong, or what is in one of them. -/
theorem cases_of_mem_violations (h : x ∈ violations path (.obj fields) (.record required known)) :
    x.path = path ∨ ∃ e ∈ known, ∃ v, Assoc.get? e.1 fields = some v ∧
      x ∈ violations (path ++ [.field e.1]) v e.2 := by
  rw [violations] at h
  rcases List.mem_append.1 h with h | h
  · rcases List.mem_append.1 h with h | h
    · obtain ⟨name, rfl⟩ := exists_eq_of_mem_checkRequired h
      exact .inl rfl
    · obtain ⟨names, rfl⟩ := exists_eq_of_mem_checkClosed h
      exact .inl rfl
  · exact .inr (exists_of_mem_fieldViolations h)

theorem Accepts.fields_eq (h : Accepts (.record required known) v) : ∃ fields, v = .obj fields := by
  cases h
  exact ⟨_, rfl⟩

theorem Accepts.of_get? (h : Accepts (.record required known) (.obj fields))
    (hs : (name, s) ∈ known) (hv : Assoc.get? name fields = some v) : Accepts s v := by
  cases h with
  | record _ _ hfields => exact hfields _ hs v hv

theorem Accepts.exists_get? (h : Accepts (.record required known) (.obj fields))
    (hname : name ∈ required) (hs : (name, s) ∈ known) :
    ∃ v, Assoc.get? name fields = some v ∧ Accepts s v := by
  cases hv : Assoc.get? name fields with
  | some v => exact ⟨v, rfl, h.of_get? hs hv⟩
  | none =>
    cases h with
    | record hrequired => exact absurd (hrequired name hname) (Assoc.get?_eq_none_iff.1 hv)

/-- A field that an object has may get any other value that is accepted there. -/
theorem Accepts.insert (h : Accepts (.record required known) (.obj fields))
    (hname : name ∈ Assoc.keys fields) (hv : ∀ s, (name, s) ∈ known → Accepts s v) :
    Accepts (.record required known) (.obj (Assoc.insert name v fields)) := by
  cases h with
  | record hrequired hclosed hfields =>
    refine .record ?_ ?_ fun e he w hw => ?_
    · rwa [Assoc.keys_insert_of_mem hname]
    · rwa [Assoc.keys_insert_of_mem hname]
    · obtain ⟨k, s⟩ := e
      by_cases hk : k = name
      · subst hk
        rw [Assoc.get?_insert_self] at hw
        obtain rfl := Option.some.inj hw
        exact hv s he
      · rw [Assoc.get?_insert_of_ne hk] at hw
        exact hfields _ he w hw

end Record

end HousePuzzle.Schema
