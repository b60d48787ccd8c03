import HousePuzzle.Proofs.Checking
import HousePuzzle.Proofs.Session

/-!
Numbers as values of rules. One that is spelled as a whole number is what its digits are; one with
a point or an exponent keeps its own text, though it may have no fraction, and then it is neither a
position nor a value. The number of houses goes by its value alone.
-/

namespace HousePuzzle

/-- No such text has the form of a value, let alone that of a position. -/
theorem Name.Fits.not_isMarked {s : String} (h : Fits ValueForm s) :
    ¬ Binary64.IsMarked s.toList := by
  have hword : ∀ c ∈ s.toList, isWordChar c = true ∨ c = '\n' := by
    obtain ⟨cs, ⟨_, hcs⟩, hs | hs⟩ := h
    · rw [hs]
      exact fun c hc => .inl (hcs c hc)
    · rw [hs, List.forall_mem_append]
      exact ⟨fun c hc => .inl (hcs c hc), fun c hc => .inr (List.mem_singleton.1 hc)⟩
  have hnone {c : Char} (hc : isWordChar c = false) (hline : c ≠ '\n') : c ∉ s.toList := by
    intro hmem
    rcases hword c hmem with hmem | hmem
    · rw [hc] at hmem
      cases hmem
    · exact hline hmem
  rintro (h | ⟨_, h | h⟩)
  · exact hnone (by decide) (by decide) h
  · exact hnone (by decide) (by decide) h
  · exact hnone (by decide) (by decide) h

theorem Puzzle.WellFormed.not_isMarked {p : Puzzle} {r : Rule} (h : p.WellFormed) (hr : r ∈ p.rules)
    (side : Side) : ¬ Binary64.IsMarked (r.operand side).value.toList := by
  rcases h.rules r hr side with ⟨_, ds, hds, hs⟩ | ⟨vs, hmem, hv⟩
  · exact Name.Fits.not_isMarked ⟨ds, hds.1.valueForm, hs⟩
  · exact (h.values _ hmem _ hv).1.not_isMarked

theorem Puzzle.refused_of_isMarked {p : Puzzle} {r : Rule} (hr : r ∈ p.rules) (side : Side)
    (h : Binary64.IsMarked (r.operand side).value.toList) :
    (∀ report, p.validate = .ok report → report.isValid = false) ∧
      ∀ prepared, p.prepare ≠ .ok prepared := by
  have hinvalid : ∀ report, p.validate = .ok report → report.isValid = false := by
    refine fun report hreport => Bool.eq_false_iff.2 fun hvalid => ?_
    exact (wellFormed_of_validate hreport hvalid).1.not_isMarked hr side h
  refine ⟨hinvalid, fun prepared hprepared => ?_⟩
  obtain ⟨hreport, hvalid, _⟩ := Session.prepare_eq_ok_iff.1 hprepared
  rw [hinvalid _ hreport] at hvalid
  cases hvalid

namespace Rule

def withValue (r : Rule) : Side → String → Rule
  | .left, s => { r with left := { r.left with value := s } }
  | .right, s => { r with right := { r.right with value := s } }

theorem withValue_eq_self_iff {r : Rule} {side : Side} {s : String} :
    r.withValue side s = r ↔ (r.operand side).value = s := by
  obtain ⟨⟨lc, lv⟩, o, ⟨rc, rv⟩⟩ := r
  cases side <;> simp [withValue, operand, eq_comm]

/-- Another value in the document of a rule is another value of the rule. -/
theorem ofJson_insert_value {fields : List (String × Json)} {r : Rule}
    (h : Rule.ofJson (.obj fields) = .ok r) (side : Side) (w : Json) :
    Rule.ofJson (.obj (Assoc.insert side.valueField w fields)) =
      .ok (r.withValue side w.plainText) := by
  obtain ⟨hsides, text, htext, ho⟩ := ofJson_eq_ok_iff.1 h
  have hkept {name text : String} (hname : name ≠ side.valueField)
      (hget : (Json.obj fields).textField name = .ok text) :
      (Json.obj (Assoc.insert side.valueField w fields)).textField name = .ok text := by
    rw [Json.textField, Json.field] at hget ⊢
    rwa [Assoc.get?_insert_of_ne hname]
  have hput : (Json.obj (Assoc.insert side.valueField w fields)).textField side.valueField =
      .ok w.plainText :=
    Json.textField_eq_ok_iff.2 ⟨w, Json.field_eq_ok_iff.2 (Assoc.get?_insert_self ..), rfl⟩
  refine ofJson_eq_ok_iff.2 ⟨fun side' => ?_, text, hkept (by cases side <;> decide) htext, ?_⟩
  · cases side <;> cases side'
    · exact ⟨hkept (by decide) (hsides .left).1, hput⟩
    · exact ⟨hkept (by decide) (hsides .right).1, hkept (by decide) (hsides .right).2⟩
    · exact ⟨hkept (by decide) (hsides .left).1, hkept (by decide) (hsides .left).2⟩
    · exact ⟨hkept (by decide) (hsides .right).1, hput⟩
  · cases side <;> exact ho

end Rule

/-- A puzzle with another rule in the place of one. -/
def Puzzle.withRule (p : Puzzle) (i : Nat) (r : Rule) : Puzzle :=
  { p with rules := p.rules.set i r }

theorem Puzzle.withRule_eq_self_iff {p : Puzzle} {i : Nat} {r r' : Rule}
    (hr : p.rules[i]? = some r) : p.withRule i r' = p ↔ r' = r := by
  obtain ⟨hi, rfl⟩ := List.getElem?_eq_some_iff.1 hr
  constructor
  · intro h
    have hrules : p.rules.set i r' = p.rules := congrArg Puzzle.rules h
    have hself : (p.rules.set i r')[i]? = some r' := List.getElem?_set_self hi
    rw [hrules, hr] at hself
    exact (Option.some.inj hself).symm
  · rintro rfl
    rw [withRule, List.set_getElem_self]

namespace Normalization

open Schema (Accepts)

variable {aliases : Aliases} {fields : List (String × Json)} {v : Json}

theorem accepts_category (h : Accepts (.forms [.string]) v) :
    Accepts (.forms [.string]) (category aliases v) := by
  obtain ⟨s, rfl⟩ := h.exists_text
  exact .form (List.mem_singleton_self Schema.Form.string) rfl

theorem accepts_value (h : Accepts (.forms [.string, .integer]) v) :
    Accepts (.forms [.string, .integer]) (value v) := by
  cases v with
  | str s => exact .form (f := .string) (by simp) rfl
  | int n => exact .form (f := .string) (by simp) rfl
  | _ => exact h

theorem accepts_operator (h : Accepts (.choice (Operator.all.map (·.name))) v) :
    Accepts (.choice (Operator.all.map (·.name))) (operator v) := by
  obtain ⟨o, rfl⟩ := h.exists_operator
  rwa [operator, canonical_operator]

/-- An object keeps its form when what is in its fields keeps its own. -/
theorem accepts_map {required : List String} {known : List (String × Schema)}
    {g : String × Json → String × Json} (hg : ∀ f, (g f).1 = f.1)
    (h : Accepts (.record required known) (.obj fields))
    (hkept : ∀ e ∈ known, ∀ v, Accepts e.2 v → Accepts e.2 (g (e.1, v)).2) :
    Accepts (.record required known) (.obj (fields.map g)) := by
  have hkeys : Assoc.keys (fields.map g) = Assoc.keys fields := by
    rw [Assoc.keys, List.map_map]
    exact List.map_congr_left fun f _ => hg f
  cases h with
  | record hrequired hclosed hfields =>
    refine .record (by rwa [hkeys]) (by rwa [hkeys]) fun e he w hw => ?_
    rw [Assoc.get?_map hg] at hw
    obtain ⟨v, hv, rfl⟩ := Option.map_eq_some_iff.1 hw
    exact hkept e he v (hfields e he v hv)

theorem accepts_rule (h : Accepts Schema.rule v) : Accepts Schema.rule (rule aliases v) := by
  obtain ⟨fields, rfl⟩ := h.fields_eq
  refine accepts_map fst_ruleField h ?_
  simp only [List.forall_mem_cons, List.not_mem_nil, false_imp_iff, implies_true, and_true]
  exact ⟨fun v hv => accepts_category hv, fun v hv => accepts_value hv,
    fun v hv => accepts_operator hv, fun v hv => accepts_category hv,
    fun v hv => accepts_value hv⟩

/-- What is accepted as it stands is accepted in canonical spelling. -/
theorem accepts_puzzle (aliases : Aliases) (h : Accepts Schema.puzzle (.obj fields)) :
    Accepts Schema.puzzle (.obj (puzzle aliases fields)) := by
  refine accepts_map fst_puzzleField h ?_
  simp only [List.forall_mem_cons, List.not_mem_nil, false_imp_iff, implies_true, and_true]
  refine ⟨fun v hv => hv, fun v hv => ?_, fun v hv => ?_⟩
  · obtain ⟨ds, rfl⟩ := Schema.accepts_domains_iff.1 hv
    refine Schema.accepts_domains_iff.2 ⟨(Registry.ofPairs (respelled aliases ds)).domains, ?_⟩
    rw [Domains.toJson, puzzleField, domains_strings, List.map_map]
    rfl
  · cases hv with
    | list hall =>
      refine .list fun w hw => ?_
      obtain ⟨item, hitem, rfl⟩ := List.mem_map.1 hw
      exact accepts_rule (hall item hitem)

end Normalization

namespace Json

variable {fields : List (String × Json)} {w : Json}

/-- A value of a rule, with its place in the document. -/
structure RuleValue (fields : List (String × Json)) where
  rules : List Json
  index : Nat
  rule : List (String × Json)
  side : Side
  value : Json
  hasRules : Assoc.get? "rules" fields = some (.arr rules)
  hasRule : rules[index]? = some (.obj rule)
  hasValue : Assoc.get? side.valueField rule = some value

namespace RuleValue

/-- The document with another value in that place. -/
def put (x : RuleValue fields) (w : Json) : List (String × Json) :=
  Assoc.insert "rules"
    (.arr (x.rules.set x.index (.obj (Assoc.insert x.side.valueField w x.rule)))) fields

/-- The same place after normalisation. -/
def normal (aliases : Aliases) (x : RuleValue fields) :
    RuleValue (Normalization.puzzle aliases fields) where
  rules := x.rules.map (Normalization.rule aliases)
  index := x.index
  rule := x.rule.map (Normalization.ruleField aliases)
  side := x.side
  value := Normalization.value x.value
  hasRules := by rw [Normalization.get?_puzzle, x.hasRules]; rfl
  hasRule := by rw [List.getElem?_map, x.hasRule]; rfl
  hasValue := by rw [Normalization.get?_value, x.hasValue]; rfl

theorem puzzle_put (aliases : Aliases) (x : RuleValue fields) (w : Json) :
    Normalization.puzzle aliases (x.put w) =
      (x.normal aliases).put (Normalization.value w) := by
  have hvalue : (Normalization.ruleField aliases (x.side.valueField, w)).2 =
      Normalization.value w := by
    cases x.side <;> rfl
  rw [put, put, Normalization.puzzle, Assoc.map_insert Normalization.fst_puzzleField]
  simp only [Normalization.puzzleField, List.map_set, Normalization.rule,
    Assoc.map_insert Normalization.fst_ruleField, hvalue]
  rfl

/-- A value that is accepted in one document is accepted in the place of another. -/
theorem accepts_put (x : RuleValue fields) (h : Schema.puzzle.Accepts (.obj fields))
    (hw : Schema.Accepts (.forms [.string, .integer]) w) :
    Schema.puzzle.Accepts (.obj (x.put w)) := by
  obtain ⟨_, heq, hall⟩ := h.exists_rules x.hasRules
  obtain rfl := Json.arr.inj heq
  have hkey {name : String} {m : List (String × Json)} {v : Json}
      (hget : Assoc.get? name m = some v) : name ∈ Assoc.keys m :=
    Assoc.mem_keys_of_mem (Assoc.mem_of_get?_eq_some hget)
  have hrule : Schema.rule.Accepts (.obj (Assoc.insert x.side.valueField w x.rule)) := by
    refine (hall _ (List.mem_of_getElem? x.hasRule)).insert (hkey x.hasValue) fun s hs => ?_
    have hform : s = .forms [.string, .integer] := by
      cases hside : x.side <;> simpa [hside, Side.valueField, Side.name] using hs
    exact hform ▸ hw
  refine h.insert (hkey x.hasRules) fun s hs => ?_
  obtain rfl : s = .list Schema.rule := by simpa using hs
  refine .list fun v hv => ?_
  rcases List.mem_or_eq_of_mem_set hv with hv | rfl
  · exact hall v hv
  · exact hrule

/-- The rule of a value, and what is read with another one in its place. -/
theorem exists_rule_put {p : Puzzle} (x : RuleValue fields)
    (hp : Puzzle.ofJson (.obj fields) = .ok p) :
    ∃ r, p.rules[x.index]? = some r ∧ (r.operand x.side).value = x.value.plainText ∧
      ∀ w, Puzzle.ofJson (.obj (x.put w)) =
        .ok (p.withRule x.index (r.withValue x.side w.plainText)) := by
  obtain ⟨houses, ds, pairs, rs, items, ⟨hhouses, hn⟩, ⟨hds, hpairs, hdomains⟩, hrs, hitems,
    hrules⟩ := Puzzle.ofJson_eq_ok_iff.1 hp
  obtain rfl : .arr x.rules = rs := by
    rw [fieldD, x.hasRules] at hrs
    exact Except.ok.inj hrs
  obtain rfl : x.rules = items := Except.ok.inj hitems
  obtain ⟨r, hr, hread⟩ := exists_getElem?_of_mapM hrules x.hasRule
  refine ⟨r, hr, ?_, fun w => ?_⟩
  · obtain ⟨v, hv, htext⟩ := textField_eq_ok_iff.1 ((Rule.ofJson_eq_ok_iff.1 hread).1 x.side).2
    rw [field_eq_ok_iff, x.hasValue] at hv
    obtain rfl := Option.some.inj hv
    exact htext.symm
  · have hother {name : String} (hname : name ≠ "rules") :
        Assoc.get? name (x.put w) = Assoc.get? name fields := Assoc.get?_insert_of_ne hname ..
    have hput : (Json.obj (x.put w)).fieldD "rules" (.arr []) = .ok (.arr
        (x.rules.set x.index (.obj (Assoc.insert x.side.valueField w x.rule)))) := by
      rw [fieldD, put, Assoc.get?_insert_self, Option.getD_some]
    refine Puzzle.ofJson_eq_ok_iff.2 ⟨houses, ds, pairs, _, _, ⟨?_, hn⟩, ⟨?_, hpairs, hdomains⟩,
      hput, rfl, mapM_set hrules x.index (Rule.ofJson_insert_value hread x.side w)⟩
    · rwa [field_eq_ok_iff, hother (by decide), ← field_eq_ok_iff]
    · rwa [fieldD, hother (by decide)]

end RuleValue

/-- A number that is whole is spelled so, or is a binary one. -/
theorem cases_of_number? {v : Json} {n : Int} (h : v.number? = some (n : ℚ)) :
    v = .int n ∨ ∃ negative m q, v = .float (.finite negative m q) := by
  cases v with
  | int k => exact .inl (congrArg Json.int (Int.cast_injective (Option.some.inj h)))
  | float x =>
    cases x with
    | finite negative m q => exact .inr ⟨negative, m, q, rfl⟩
    | _ => cases h
  | _ => cases h

end Json

namespace Checked

variable {aliases : Aliases} {fields : List (String × Json)} {p : Puzzle} {n : Int}

/-- A document that is accepted, with the puzzle in it. -/
structure Reads (aliases : Aliases) (fields : List (String × Json)) (p : Puzzle) : Prop where
  read : Puzzle.ofJson (.obj (Normalization.puzzle aliases fields)) = .ok p
  checked : ofFields (some .puzzle) aliases fields = p.validate.map (⟨some p, ·⟩)

theorem Reads.of_accepts
    (h : Schema.puzzle.Accepts (.obj (Normalization.puzzle aliases fields)))
    (hp : Puzzle.ofJson (.obj (Normalization.puzzle aliases fields)) = .ok p) :
    Reads aliases fields p :=
  ⟨hp, by rw [ofFields_of_accepts h, build, hp]⟩

/-- The value that is read from a whole number, spelled as one or with a mark. -/
theorem value_eq_write_iff {v : Json} (h : v.number? = some (n : ℚ)) :
    (Normalization.value v).plainText = Numeral.write n ↔ v = .int n := by
  rcases Json.cases_of_number? h with rfl | ⟨negative, m, q, rfl⟩
  · exact iff_of_true rfl rfl
  · refine iff_of_false (fun heq => ?_) (by simp)
    have hmarked := Binary64.isMarked_write negative m q
    rw [show (Binary64.finite negative m q).write = Numeral.write n from heq] at hmarked
    exact Binary64.not_isMarked_numeral n hmarked

/-- The rule of a value, and what is read with the digits of a whole number in its place. -/
theorem exists_rule_of_accepts (x : Json.RuleValue fields)
    (h : Schema.puzzle.Accepts (.obj (Normalization.puzzle aliases fields))) :
    ∃ p r, Reads aliases fields p ∧ p.rules[x.index]? = some r ∧
      (r.operand x.side).value = (Normalization.value x.value).plainText ∧
      ∀ (n : Int), ∀ w ∈ [.int n, .str (Numeral.write n)],
        Reads aliases (x.put w) (p.withRule x.index (r.withValue x.side (Numeral.write n))) := by
  obtain ⟨p, hp, _⟩ := Normalization.exists_puzzle_of_accepts h
  obtain ⟨r, hr, hvalue, hput⟩ := (x.normal aliases).exists_rule_put hp
  refine ⟨p, r, .of_accepts h hp, hr, hvalue, fun n w hw => ?_⟩
  have hdigits : Normalization.value w = .str (Numeral.write n) := by
    rcases List.mem_pair.1 hw with rfl | rfl
    · rfl
    · exact congrArg Json.str (Text.trim_eq_self (Numeral.noBlank_write n))
  have hplace := x.puzzle_put aliases w
  rw [hdigits] at hplace
  refine .of_accepts ?_ ?_
  · rw [hplace]
    exact (x.normal aliases).accepts_put h (.form (f := .string) (by simp) rfl)
  · rw [hplace]
    exact hput _

/-- The number of houses goes by its value. -/
theorem reads_houses {v : Json} {m : Int}
    (h : Schema.puzzle.Accepts (.obj (Normalization.puzzle aliases fields)))
    (hp : Puzzle.ofJson (.obj (Normalization.puzzle aliases fields)) = .ok p)
    (hv : Assoc.get? "houses" fields = some v) (hm : v.number? = some (m : ℚ)) :
    p.houses = m ∧ Reads aliases (Assoc.insert "houses" (.int m) fields) p := by
  have hkept : Assoc.get? "houses" (Normalization.puzzle aliases fields) = some v := by
    rw [Normalization.get?_puzzle, hv]
    rfl
  have hhouses : p.houses = m := by
    obtain ⟨q, hq, hmatches⟩ := Normalization.exists_puzzle_of_accepts h
    obtain rfl := Except.ok.inj (hp.symm.trans hq)
    obtain ⟨w, hw, hnumber⟩ := hmatches.houses
    obtain rfl := Option.some.inj (hkept.symm.trans hw)
    exact Int.cast_injective (Option.some.inj (hnumber.symm.trans hm))
  have hput : Normalization.puzzle aliases (Assoc.insert "houses" (.int m) fields) =
      Assoc.insert "houses" (.int m) (Normalization.puzzle aliases fields) :=
    Assoc.map_insert Normalization.fst_puzzleField
  refine ⟨hhouses, .of_accepts ?_ ?_⟩
  · rw [hput]
    refine h.insert (Assoc.mem_keys_of_mem (Assoc.mem_of_get?_eq_some hkept)) fun s hs => ?_
    obtain rfl : s = .forms [.integer] := by simpa using hs
    exact .form (List.mem_singleton_self Schema.Form.integer) rfl
  · obtain ⟨_, ds, pairs, rs, items, _, ⟨hds, hpairs, hdomains⟩, hrs, hrules⟩ :=
      Puzzle.ofJson_eq_ok_iff.1 hp
    rw [hput]
    refine Puzzle.ofJson_eq_ok_iff.2 ⟨.int m, ds, pairs, rs, items, ⟨?_, ?_⟩,
      ⟨?_, hpairs, hdomains⟩, ?_, hrules⟩
    · rw [Json.field_eq_ok_iff, Assoc.get?_insert_self]
    · rw [hhouses]
      rfl
    · rwa [Json.fieldD, Assoc.get?_insert_of_ne (by decide)]
    · rwa [Json.fieldD, Assoc.get?_insert_of_ne (by decide)]

/-- A whole number for the value of a side is read as its digits just where it is spelled as one,
and its digits as a text then give the same puzzle. With a point or an exponent it is read as it is
written: its digits give another puzzle, and this one is not valid and has no program. The number
of houses may be spelled either way. -/
theorem wholeNumber_spelling (aliases : Aliases) {x : Json.RuleValue fields}
    (h : Schema.puzzle.Accepts (.obj fields) ∨
      Schema.puzzle.Accepts (.obj (Normalization.puzzle aliases fields)))
    (hn : x.value.number? = some (n : ℚ)) :
    ∃ p r, Reads aliases fields p ∧ p.rules[x.index]? = some r ∧
      ((r.operand x.side).value = Numeral.write n ↔ x.value = .int n) ∧
      (∀ w ∈ [.int n, .str (Numeral.write n)],
        Reads aliases (x.put w) (p.withRule x.index (r.withValue x.side (Numeral.write n)))) ∧
      (p.withRule x.index (r.withValue x.side (Numeral.write n)) = p ↔ x.value = .int n) ∧
      (x.value ≠ .int n →
        (∃ y, x.value = .float y ∧ (r.operand x.side).value = y.write) ∧
        (∀ report, p.validate = .ok report → report.isValid = false) ∧
        ∀ prepared, p.prepare ≠ .ok prepared) ∧
      ∀ v m, Assoc.get? "houses" fields = some v → v.number? = some ((m : Int) : ℚ) →
        p.houses = m ∧ Reads aliases (Assoc.insert "houses" (.int m) fields) p := by
  have haccepts := h.elim (Normalization.accepts_puzzle aliases) id
  obtain ⟨p, r, hreads, hr, hvalue, hput⟩ := exists_rule_of_accepts x haccepts
  have hspelled : (r.operand x.side).value = Numeral.write n ↔ x.value = .int n := by
    rw [hvalue, value_eq_write_iff hn]
  refine ⟨p, r, hreads, hr, hspelled, hput n, ?_, fun hne => ?_,
    fun v m hv hm => reads_houses haccepts hreads.read hv hm⟩
  · rw [Puzzle.withRule_eq_self_iff hr, Rule.withValue_eq_self_iff, hspelled]
  · obtain ⟨negative, m, q, hfloat⟩ := (Json.cases_of_number? hn).resolve_left hne
    have hwritten : (r.operand x.side).value = (Binary64.finite negative m q).write := by
      rw [hvalue, hfloat]
      rfl
    refine ⟨⟨_, hfloat, hwritten⟩, Puzzle.refused_of_isMarked (List.mem_of_getElem? hr) x.side ?_⟩
    rw [hwritten]
    exact Binary64.isMarked_write negative m q

/-- A rule on the first house, with a point in its number. -/
def pointedPosition : List (String × Json) :=
  [("houses", .int 1), ("domains", .obj [("color", .arr [.str "red"])]),
    ("rules", .arr [.obj [("leftCategory", .str "color"), ("leftValue", .str "red"),
      ("operator", .str "same"), ("rightCategory", .str "position"),
      ("rightValue", .float (.finite false (2 ^ 52) (-52)))]])]

def pointedValue : Json.RuleValue pointedPosition where
  rules := _
  index := 0
  rule := _
  side := .right
  value := .float (.finite false (2 ^ 52) (-52))
  hasRules := rfl
  hasRule := rfl
  hasValue := rfl

theorem accepts_pointedPosition : Schema.puzzle.Accepts (.obj pointedPosition) := by
  have hnil : Schema.violations [] (.obj pointedPosition) .puzzle = [] := by decide +kernel
  exact (Schema.violations_eq_nil_iff _).1 hnil

theorem number?_pointedValue : pointedValue.value.number? = some ((1 : Int) : ℚ) := by
  change some _ = some _
  norm_num [Numeral.signed]

theorem wholeNumber_spelling_pointedPosition :
    Schema.puzzle.Accepts (.obj pointedPosition) ∧
    pointedValue.value.number? = some ((1 : Int) : ℚ) ∧
    ∃ p r, Reads .standard pointedPosition p ∧ p.rules[0]? = some r ∧ r.right.value = "1.0" ∧
      Reads .standard (pointedValue.put (.int 1)) (p.withRule 0 (r.withValue .right "1")) ∧
      ∀ prepared, p.prepare ≠ .ok prepared := by
  obtain ⟨p, r, hreads, hr, _, hput, _, hpointed, _⟩ :=
    wholeNumber_spelling .standard (.inl accepts_pointedPosition) number?_pointedValue
  obtain ⟨⟨y, hy, hwritten⟩, _, hprepare⟩ := hpointed Json.noConfusion
  obtain rfl := Json.float.inj hy
  refine ⟨accepts_pointedPosition, number?_pointedValue, p, r, hreads, hr, ?_,
    hput _ List.mem_cons_self, hprepare⟩
  rw [show r.right.value = _ from hwritten]
  decide +kernel

theorem not_numeral_pointedPosition :
    ¬ ∀ (aliases : Aliases) (fields : List (String × Json)) (x : Json.RuleValue fields) (n : Int),
      Schema.puzzle.Accepts (.obj fields) → x.value.number? = some (n : ℚ) →
        ∀ p, Reads aliases fields p →
          ∃ r, p.rules[x.index]? = some r ∧ (r.operand x.side).value = Numeral.write n := by
  intro h
  obtain ⟨p, r, hreads, hr, hvalue, _⟩ := exists_rule_of_accepts pointedValue
    (Normalization.accepts_puzzle .standard accepts_pointedPosition)
  obtain ⟨r', hr', hdigits⟩ := h .standard _ pointedValue 1 accepts_pointedPosition
    number?_pointedValue p hreads
  obtain rfl := Option.some.inj (hr'.symm.trans hr)
  have hspelled : pointedValue.value = .int 1 :=
    (value_eq_write_iff number?_pointedValue).1 (hvalue.symm.trans hdigits)
  cases hspelled

end Checked

end HousePuzzle
