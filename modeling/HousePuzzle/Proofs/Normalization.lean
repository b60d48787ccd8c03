import HousePuzzle.Normalization
import HousePuzzle.Proofs.Aliases
import HousePuzzle.Proofs.Binary64
import HousePuzzle.Proofs.Puzzle.Document

/-!
Documents in canonical spelling: what is in them when they are normalised, and that normalising the
document of a puzzle that is spelled so changes nothing.
-/

namespace HousePuzzle

def Operand.Normal (aliases : Aliases) (o : Operand) : Prop :=
  (∃ name, o.category = aliases.rename name) ∧ Text.trim o.value = o.value

/-- A puzzle in canonical spelling: categories by the names that aliases lead to, values without
blanks around them. -/
structure Puzzle.Normal (aliases : Aliases) (p : Puzzle) : Prop where
  categories : ∀ e ∈ p.domains.domains, ∃ name, e.1 = aliases.rename name
  values : ∀ e ∈ p.domains.domains, ∀ v ∈ e.2, Text.trim v = v
  operands : ∀ r ∈ p.rules, ∀ side, (r.operand side).Normal aliases

namespace Normalization

variable {aliases : Aliases} {fields : List (String × Json)} {bucket : List Json} {w : Json}

@[simp] theorem trimText_trimText (v : Json) : trimText (trimText v) = trimText v := by
  cases v <;> simp [trimText]

theorem mem_foldl_addValue {vs : List Json} (h : w ∈ vs.foldl addValue bucket) :
    w ∈ bucket ∨ w ∈ vs := by
  induction vs generalizing bucket with
  | nil => exact .inl h
  | cons v vs ih =>
    rcases ih h with h | h
    · unfold addValue at h
      split at h
      · exact .inl h
      · rcases List.mem_append.1 h with h | h
        · exact .inl h
        · exact .inr (List.mem_cons.2 (.inl (List.mem_singleton.1 h)))
    · exact .inr (List.mem_cons_of_mem _ h)

theorem mem_addValues {v : Json} (h : w ∈ addValues bucket v) :
    w ∈ bucket ∨ ∃ items, v = .arr items ∧ ∃ x ∈ items, trimText x = w := by
  unfold addValues at h
  split at h
  · next items =>
    rcases mem_foldl_addValue h with h | h
    · exact .inl h
    · exact .inr ⟨items, rfl, List.mem_map.1 h⟩
  · exact .inl h

theorem tidy_of_mem_domains {e : String × List Json} (h : e ∈ domains aliases fields) :
    (∃ name, e.1 = aliases.rename name) ∧ ∀ w ∈ e.2, trimText w = w := by
  refine Assoc.forall_mem_foldl_alter (m := [])
    (f := fun (f : String × Json) old => addValues (old.getD []) f.2)
    (P := fun e => (∃ name, e.1 = aliases.rename name) ∧ ∀ w ∈ e.2, trimText w = w)
    (fun _ hd => absurd hd List.not_mem_nil)
    (fun f _ old hold => ⟨⟨f.1, rfl⟩, fun w hw => ?_⟩) e h
  rcases mem_addValues hw with hw | ⟨_, _, x, _, rfl⟩
  · cases old with
    | none => cases hw
    | some b => exact (hold b rfl).2 w hw
  · exact trimText_trimText x

@[simp] theorem fst_ruleField (f : String × Json) : (ruleField aliases f).1 = f.1 := by
  unfold ruleField
  split
  · rfl
  · split
    · rfl
    · split <;> rfl

@[simp] theorem fst_puzzleField (f : String × Json) : (puzzleField aliases f).1 = f.1 := by
  unfold puzzleField
  split <;> rfl

theorem get?_puzzle (name : String) :
    Assoc.get? name (puzzle aliases fields) =
      (Assoc.get? name fields).map fun v => (puzzleField aliases (name, v)).2 :=
  Assoc.get?_map fst_puzzleField

theorem get?_category (side : Side) :
    Assoc.get? side.categoryField (fields.map (ruleField aliases)) =
      (Assoc.get? side.categoryField fields).map (category aliases) := by
  rw [Assoc.get?_map fst_ruleField]
  cases side <;> rfl

theorem get?_value (side : Side) :
    Assoc.get? side.valueField (fields.map (ruleField aliases)) =
      (Assoc.get? side.valueField fields).map value := by
  rw [Assoc.get?_map fst_ruleField]
  cases side <;> rfl

section Accepted

open Schema (Accepts)

theorem exists_rename_of_accepts {v : Json} (h : Accepts (.forms [.string]) (category aliases v)) :
    ∃ name, (category aliases v).plainText = aliases.rename name := by
  cases v with
  | str s => exact ⟨s, rfl⟩
  | _ =>
    cases h with
    | form hf hv =>
      obtain rfl := List.mem_singleton.1 hf
      cases hv

theorem trim_plainText_value {v : Json} (h : Accepts (.forms [.string, .integer]) (value v)) :
    Text.trim (value v).plainText = (value v).plainText := by
  cases v with
  | str s => exact Text.trim_trim s
  | int n => exact Text.trim_eq_self (Numeral.noBlank_write n)
  | float x => exact Text.trim_eq_self (Binary64.noBlank_write x)
  | _ =>
    cases h with
    | form hf hv => rcases List.mem_pair.1 hf with rfl | rfl <;> cases hv

/-- A rule that is read from a normalised document. -/
theorem normal_of_accepts_rule {v : Json} {r : Rule} (h : Accepts Schema.rule (rule aliases v))
    (hr : Rule.ofJson (rule aliases v) = .ok r) (side : Side) : (r.operand side).Normal aliases := by
  cases v with
  | obj fields =>
    obtain ⟨hcategory, hvalue⟩ := (Rule.ofJson_eq_ok_iff.1 hr).1 side
    obtain ⟨c, hc, hcategory⟩ := Json.textField_eq_ok_iff.1 hcategory
    obtain ⟨v, hv, hvalue⟩ := Json.textField_eq_ok_iff.1 hvalue
    rw [rule] at h hc hv
    rw [Json.field_eq_ok_iff] at hc hv
    have haccepted := And.intro (h.of_categoryField hc) (h.of_valueField hv)
    rw [get?_category] at hc
    rw [get?_value] at hv
    obtain ⟨c, _, rfl⟩ := Option.map_eq_some_iff.1 hc
    obtain ⟨v, _, rfl⟩ := Option.map_eq_some_iff.1 hv
    rw [Operand.Normal, ← hcategory, ← hvalue]
    exact ⟨exists_rename_of_accepts haccepted.1, trim_plainText_value haccepted.2⟩
  | _ =>
    obtain ⟨fields, hfields⟩ := h.fields_eq
    cases hfields

/-- The domains of a normalised document are normalised ones. -/
theorem exists_domains_eq {ds : Domains}
    (h : Assoc.get? "domains" (puzzle aliases fields) = some (Domains.toJson ds)) :
    ∃ given, domains aliases given = ds.map fun e => (e.1, e.2.map .str) := by
  rw [get?_puzzle] at h
  obtain ⟨v, _, hv⟩ := Option.map_eq_some_iff.1 h
  cases v with
  | obj given =>
    have hfields : (domains aliases given).map (fun e => (e.1, Json.arr e.2)) =
        (ds.map fun e => (e.1, e.2.map .str)).map fun e => (e.1, .arr e.2) := by
      rw [List.map_map]
      exact Json.obj.inj hv
    have hinjective : Function.Injective fun e : String × List Json => (e.1, Json.arr e.2) := by
      rintro ⟨c, vs⟩ ⟨c', vs'⟩ heq
      obtain ⟨hc, hvs⟩ := Prod.mk.inj heq
      exact Prod.ext hc (Json.arr.inj hvs)
    exact ⟨given, List.map_injective_iff.2 hinjective hfields⟩
  | _ => cases hv

theorem tidy_of_get?_domains {ds : Domains} {e : String × List String}
    (h : Assoc.get? "domains" (puzzle aliases fields) = some (Domains.toJson ds)) (he : e ∈ ds) :
    (∃ name, e.1 = aliases.rename name) ∧ ∀ v ∈ e.2, Text.trim v = v := by
  obtain ⟨given, hgiven⟩ := exists_domains_eq h
  have hmem : (e.1, e.2.map Json.str) ∈ domains aliases given := by
    rw [hgiven]
    exact List.mem_map_of_mem he
  obtain ⟨hname, htidy⟩ := tidy_of_mem_domains hmem
  exact ⟨hname, fun v hv => Json.str.inj (htidy _ (List.mem_map_of_mem hv))⟩

theorem exists_rule_of_mem {rs item : Json} {items : List Json}
    (h : Accepts Schema.puzzle (.obj (puzzle aliases fields)))
    (hrs : (Json.obj (puzzle aliases fields)).fieldD "rules" (.arr []) = .ok rs)
    (hitems : rs.members = .ok items) (hitem : item ∈ items) :
    ∃ v, item = rule aliases v ∧ Accepts Schema.rule item := by
  rw [Json.fieldD] at hrs
  obtain rfl := Except.ok.inj hrs
  cases hget : Assoc.get? "rules" (puzzle aliases fields) with
  | none =>
    rw [hget] at hitems
    obtain rfl := Except.ok.inj hitems
    cases hitem
  | some v =>
    obtain ⟨ws, rfl, haccepted⟩ := h.exists_rules hget
    rw [hget] at hitems
    obtain rfl := Except.ok.inj hitems
    rw [get?_puzzle] at hget
    obtain ⟨given, _, hgiven⟩ := Option.map_eq_some_iff.1 hget
    cases given with
    | arr given =>
      obtain rfl := Json.arr.inj hgiven
      obtain ⟨v, _, rfl⟩ := List.mem_map.1 hitem
      exact ⟨v, rfl, haccepted _ hitem⟩
    | _ => cases hgiven

/-- What is read from a normalised document is in canonical spelling. -/
theorem normal_of_accepts {p : Puzzle} (h : Accepts Schema.puzzle (.obj (puzzle aliases fields)))
    (hp : Puzzle.ofJson (.obj (puzzle aliases fields)) = .ok p) : p.Normal aliases := by
  obtain ⟨_, _, pairs, rs, items, _, ⟨hds, hpairs, hdomains⟩, hrs, hitems, hrules⟩ :=
    Puzzle.ofJson_eq_ok_iff.1 hp
  obtain ⟨ds, hget⟩ := h.exists_domains
  rw [Json.fieldD, hget] at hds
  obtain rfl := Except.ok.inj hds
  rw [Option.getD_some, Json.domainPairs_toJson] at hpairs
  obtain rfl := Except.ok.inj hpairs
  have hentry : ∀ e ∈ p.domains.domains,
      (∃ name, e.1 = aliases.rename name) ∧ ∀ v ∈ e.2, Text.trim v = v := by
    rintro ⟨c, vs⟩ he
    rw [hdomains] at he
    obtain ⟨⟨d, hd, rfl⟩, hvs⟩ := Registry.exists_of_mem_ofPairs he
    refine ⟨(tidy_of_get?_domains hget hd).1, fun v hv => ?_⟩
    obtain ⟨d, hd, _, hv⟩ := hvs v hv
    exact (tidy_of_get?_domains hget hd).2 v hv
  refine ⟨fun e he => (hentry e he).1, fun e he => (hentry e he).2, fun r hr => ?_⟩
  obtain ⟨item, hitem, hread⟩ := exists_of_mem_mapM hrules hr
  obtain ⟨v, rfl, haccepted⟩ := exists_rule_of_mem h hrs hitems hitem
  exact normal_of_accepts_rule haccepted hread

end Accepted

section Merged

/-- One more value is dropped or put at the end, as if all had been looked through again. -/
theorem addValue_string (us : List String) (v : String) :
    addValue ((distinct us).map .str) (.str v) = (distinct (us ++ [v])).map .str := by
  have hsame : ((distinct us).map Json.str).any (Json.same · (.str v)) = decide (v ∈ us) := by
    rw [List.any_map, ← List.elem_eq_mem, Bool.eq_iff_iff, List.any_eq_true, List.elem_iff]
    simp [Json.same, Json.sameScalar]
  rw [addValue, hsame, distinct_concat]
  by_cases hv : v ∈ us <;> simp [hv]

theorem foldl_addValue_strings (us vs : List String) :
    (vs.map Json.str).foldl addValue ((distinct us).map .str) =
      (distinct (us ++ vs)).map .str := by
  induction vs generalizing us with
  | nil => rw [List.append_nil]; rfl
  | cons v vs ih => rw [List.map_cons, List.foldl_cons, addValue_string, ih, ← List.append_cons]

theorem addValues_strings {us : List String} (h : us.Nodup) (vs : List String) :
    addValues (us.map .str) (.arr (vs.map .str)) =
      (distinct (us ++ vs.map Text.trim)).map .str := by
  have hmap : (vs.map Json.str).map trimText = (vs.map Text.trim).map .str := by
    rw [List.map_map, List.map_map]
    rfl
  rw [addValues, hmap, ← foldl_addValue_strings, distinct_of_nodup h]

/-- What a document adds to a category is what is added to it in a registry. -/
theorem alter_strings (r : Registry) (c : String) (vs : List String) :
    Assoc.alter c (fun old => addValues (old.getD []) (.arr (vs.map .str)))
        (r.domains.map fun e => (e.1, e.2.map .str)) =
      (r.withValues c (vs.map Text.trim)).domains.map fun e => (e.1, e.2.map .str) := by
  refine Assoc.alter_map_snd (List.map Json.str) ?_
  cases h : Assoc.get? c r.domains with
  | none => exact addValues_strings List.nodup_nil vs
  | some us => exact addValues_strings (r.distinct.2 _ (Assoc.mem_of_get?_eq_some h)) vs

/-- Categories in canonical spelling with their values, none of them merged. -/
def respelled (aliases : Aliases) (ds : Domains) : Domains :=
  ds.map fun e => (aliases.rename e.1, e.2.map Text.trim)

/-- Categories of a document are merged as those of a registry are. -/
theorem domains_strings (ds : Domains) :
    domains aliases (ds.map fun e => (e.1, .arr (e.2.map .str))) =
      (Registry.ofPairs (respelled aliases ds)).domains.map fun e => (e.1, e.2.map .str) := by
  -- Both are merged into what is there already, whatever that is.
  have hfold : ∀ r : Registry,
      ds.foldl (fun merged e => Assoc.alter (aliases.rename e.1)
          (fun old => addValues (old.getD []) (.arr (e.2.map .str))) merged)
        (r.domains.map fun e => (e.1, e.2.map .str)) =
      (ds.foldl (fun r e => r.withValues (aliases.rename e.1) (e.2.map Text.trim)) r).domains.map
        fun e => (e.1, e.2.map .str) := by
    induction ds with
    | nil => exact fun r => rfl
    | cons e ds ih =>
      intro r
      rw [List.foldl_cons, List.foldl_cons, alter_strings, ih]
  rw [domains, List.foldl_map, Registry.ofPairs, respelled, List.foldl_map]
  exact hfold .empty

end Merged

section Fixed

variable {p : Puzzle}

theorem domains_toJson (ha : aliases.Settled) (hp : p.Normal aliases) :
    domains aliases (p.domains.domains.map fun e => (e.1, .arr (e.2.map .str))) =
      p.domains.domains.map fun e => (e.1, e.2.map .str) := by
  have hrespelled : respelled aliases p.domains.domains = p.domains.domains := by
    refine (List.map_congr_left fun e he => ?_).trans (List.map_id _)
    obtain ⟨name, hname⟩ := hp.categories e he
    refine Prod.ext ?_ ?_
    · rw [hname, ha.rename_rename, ← hname, id]
    · exact (List.map_congr_left (hp.values e he)).trans (List.map_id _)
  rw [domains_strings, hrespelled, Registry.ofPairs_domains]

variable {o : Operand} {r : Rule}

theorem category_operand (ha : aliases.Settled) (ho : o.Normal aliases) :
    category aliases (.str o.category) = .str o.category := by
  obtain ⟨name, hname⟩ := ho.1
  rw [category, hname, ha.rename_rename]

theorem value_operand (ho : o.Normal aliases) : value (.str o.value) = .str o.value := by
  rw [value, ho.2]

theorem canonical_operator (o : Operator) : Aliases.canonical o.name = o.name := by
  have htrim : Text.trim o.name = o.name := by cases o <;> decide
  rw [Aliases.canonical, htrim, Operator.lower_name]

theorem rule_toJson (ha : aliases.Settled) (hr : ∀ side, (r.operand side).Normal aliases) :
    rule aliases r.toJson = r.toJson := by
  have hleft : r.left.Normal aliases := hr .left
  have hright : r.right.Normal aliases := hr .right
  have hoperator : operator (.str r.operator.name) = .str r.operator.name := by
    rw [operator, canonical_operator]
  calc rule aliases r.toJson
      = .obj [("leftCategory", category aliases (.str r.left.category)),
          ("leftValue", value (.str r.left.value)), ("operator", operator (.str r.operator.name)),
          ("rightCategory", category aliases (.str r.right.category)),
          ("rightValue", value (.str r.right.value))] := rfl
    _ = r.toJson := by
        rw [category_operand ha hleft, category_operand ha hright, value_operand hleft,
          value_operand hright, hoperator]
        rfl

theorem puzzle_fields (ha : aliases.Settled) (hp : p.Normal aliases) :
    puzzle aliases p.fields = p.fields := by
  have hrules : (p.rules.map Rule.toJson).map (rule aliases) = p.rules.map Rule.toJson := by
    rw [List.map_map]
    exact List.map_congr_left fun r hr => rule_toJson ha (hp.operands r hr)
  calc puzzle aliases p.fields
      = [("houses", .int p.houses),
          ("domains", .obj ((domains aliases
            (p.domains.domains.map fun e => (e.1, .arr (e.2.map .str)))).map fun e => (e.1, .arr e.2))),
          ("rules", .arr ((p.rules.map Rule.toJson).map (rule aliases)))] := rfl
    _ = p.fields := by
        rw [hrules, domains_toJson ha hp, List.map_map]
        rfl

end Fixed

section Lists

/-- A value that is no list is taken for an empty one. -/
def asList : Json → Json
  | .arr items => .arr items
  | _ => .arr []

/-- A document in which every category has a list. -/
def withLists (f : String × Json) : String × Json :=
  match f with
  | ("domains", .obj fields) => ("domains", .obj (fields.map fun e => (e.1, asList e.2)))
  | f => f

@[simp] theorem addValues_asList (v : Json) : addValues bucket (asList v) = addValues bucket v := by
  cases v <;> rfl

theorem domains_asList :
    domains aliases (fields.map fun e => (e.1, asList e.2)) = domains aliases fields := by
  simp only [domains, List.foldl_map, addValues_asList]

theorem puzzleField_withLists (f : String × Json) :
    puzzleField aliases (withLists f) = puzzleField aliases f := by
  unfold withLists
  split
  · simp only [puzzleField, domains_asList]
  · rfl

theorem puzzle_withLists : puzzle aliases (fields.map withLists) = puzzle aliases fields := by
  rw [puzzle, List.map_map]
  exact List.map_congr_left fun f _ => puzzleField_withLists f

open Schema (violations)

/-- What is wrong with the values of categories that have lists is wrong inside the lists. -/
theorem lt_length_of_mem_violations {path : List Schema.Step} {items : Schema}
    {es : List (String × List Json)} {x : Schema.Violation}
    (h : x ∈ violations path (.obj (es.map fun e => (e.1, .arr e.2))) (.map (.list items))) :
    path.length + 1 < x.path.length := by
  rw [violations] at h
  obtain ⟨f, hf, hx⟩ := List.mem_flatMap.1 h
  obtain ⟨e, _, rfl⟩ := List.mem_map.1 hf
  change x ∈ violations (path ++ [.field e.1]) (.arr e.2) (.list items) at hx
  rw [violations] at hx
  obtain ⟨i, _, hx⟩ := List.mem_flatMap.1 hx
  have hlength := (Schema.prefix_of_mem_violations hx).length_le
  simp only [List.length_append, List.length_singleton] at hlength
  omega

/-- No violation stands at a category. -/
theorem path_ne_of_mem_violations {x : Schema.Violation}
    (h : x ∈ violations [] (.obj (puzzle aliases fields)) .puzzle) (name : String) :
    x.path ≠ [.field "domains", .field name] := by
  intro hpath
  rcases Schema.cases_of_mem_violations h with hnil | ⟨e, he, v, hv, hx⟩
  · simp [hnil] at hpath
  · have hprefix := Schema.prefix_of_mem_violations hx
    rw [hpath] at hprefix
    simp only [List.mem_cons, List.not_mem_nil, or_false] at he
    rcases he with rfl | rfl | rfl
    · simp at hprefix
    · rw [get?_puzzle] at hv
      obtain ⟨given, _, rfl⟩ := Option.map_eq_some_iff.1 hv
      cases given with
      | obj given =>
        have hlength := lt_length_of_mem_violations hx
        simp [hpath] at hlength
      | _ =>
        obtain rfl := Schema.eq_of_mem_checkForms hx
        simp at hpath
    · simp at hprefix

end Lists

end Normalization

end HousePuzzle
