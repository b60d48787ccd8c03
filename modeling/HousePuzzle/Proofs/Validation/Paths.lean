import HousePuzzle.Proofs.Json.Pointer
import HousePuzzle.Proofs.Puzzle.Document
import HousePuzzle.Proofs.Validation.Findings
import HousePuzzle.Proofs.Validation.Stages

/-!
Where findings are. Each is about a part of the puzzle, and its path is a pointer to that part in
the document of the puzzle. The paths hold names as they stand, so that the pointer to a category
goes wrong whose name would have to be escaped in it; such a name is itself reported.
-/

namespace HousePuzzle

open Schema (Step)

/-- A part of a puzzle, as far as findings are about it. -/
inductive Part
  | houses
  | category (name : String)
  | value (place : ValuePlace)
  | rule (index : Nat)
  | sideCategory (place : RulePlace)
  | sideValue (place : RulePlace)

namespace Part

/-- Where the part is in the document of the puzzle. -/
def place : Part → List Step
  | houses => [.field "houses"]
  | category c => [.field "domains", .field c]
  | value p => [.field "domains", .field p.category, .item p.index]
  | rule i => [.field "rules", .item i]
  | sideCategory p => [.field "rules", .item p.index, .field (p.side.name ++ "Category")]
  | sideValue p => [.field "rules", .item p.index, .field (p.side.name ++ "Value")]

/-- What the puzzle has in the part. -/
inductive Holds (p : Puzzle) : Part → Json → Prop
  | houses : Holds p .houses (.int p.houses)
  | category {c : String} {vs : List String} :
      (c, vs) ∈ p.domains.domains → Holds p (.category c) (.arr (vs.map .str))
  | value {q : ValuePlace} : q.IsIn p.domains → Holds p (.value q) (.str q.value)
  | rule {i : Nat} {r : Rule} : p.rules[i]? = some r → Holds p (.rule i) r.toJson
  | sideCategory {q : RulePlace} :
      q.IsIn p.rules → Holds p (.sideCategory q) (.str q.operand.category)
  | sideValue {q : RulePlace} : q.IsIn p.rules → Holds p (.sideValue q) (.str q.operand.value)

/-- No step to the part has to be escaped. -/
def IsPlain (part : Part) : Prop :=
  ∀ step ∈ part.place, Pointer.IsPlain step.text

end Part

/-- A malformed document is no puzzle. -/
def Defect.part? : Defect → Option Part
  | schema _ | unreadable _ => none
  | houseCount _ => some .houses
  | reservedCategory c | categoryName c | emptyDomain c _ => some (.category c)
  | valueName p | valueIsCategory p | ambiguousValue p _ => some (.value p)
  | unknownCategory p _ => some (.sideCategory p)
  | positionRange p _ | foreignValue p _ => some (.sideValue p)

def Warning.part : Warning → Part
  | sizeMismatch c _ _ => .category c
  | voidRule i _ => .rule i

variable {p : Puzzle} {part : Part} {v : Json} {e : Defect} {w : Warning} {c : String}
  {vs : List String}

section Places

theorem Puzzle.at?_category (place : List Step) (h : (c, vs) ∈ p.domains.domains) :
    p.toJson.at? (.field "domains" :: .field c :: place) =
      Json.at? place (.arr (vs.map .str)) := by
  have hget : Assoc.get? c (p.domains.domains.map fun e => (e.1, Json.arr (e.2.map .str))) =
      some (.arr (vs.map .str)) := by
    rw [Assoc.get?_map_snd fun vs : List String => Json.arr (vs.map .str),
      (Assoc.get?_eq_some_iff p.domains.distinct.1).2 h, Option.map_some]
  exact congrArg (Option.bind · (Json.at? place)) hget

theorem Puzzle.at?_rule {i : Nat} {r : Rule} (place : List Step) (h : p.rules[i]? = some r) :
    p.toJson.at? (.field "rules" :: .item i :: place) = Json.at? place r.toJson := by
  have hget : (p.rules.map Rule.toJson)[i]? = some r.toJson := by
    rw [List.getElem?_map, h, Option.map_some]
  exact congrArg (Option.bind · (Json.at? place)) hget

/-- What the puzzle has in a part is in its document at the place of the part. -/
theorem Part.Holds.at? (h : part.Holds p v) : p.toJson.at? part.place = some v := by
  cases h with
  | houses => rfl
  | category hc => exact Puzzle.at?_category [] hc
  | @value q hq =>
    obtain ⟨vs, hc, hv⟩ := hq
    have hget : (vs.map Json.str)[q.index]? = some (.str q.value) := by
      rw [List.getElem?_map, hv, Option.map_some]
    exact (Puzzle.at?_category [.item q.index] hc).trans (congrArg (Option.bind · (Json.at? [])) hget)
  | rule hr => exact Puzzle.at?_rule [] hr
  | @sideCategory q hq =>
    obtain ⟨r, hr, hoperand⟩ := hq
    rw [hoperand]
    refine (Puzzle.at?_rule [.field (q.side.name ++ "Category")] hr).trans ?_
    cases q.side <;> rfl
  | @sideValue q hq =>
    obtain ⟨r, hr, hoperand⟩ := hq
    rw [hoperand]
    refine (Puzzle.at?_rule [.field (q.side.name ++ "Value")] hr).trans ?_
    cases q.side <;> rfl

theorem Defect.toList_path (h : e.part? = some part) :
    e.path.toList = Pointer.written (part.place.map Step.text) := by
  cases e with
  | schema _ | unreadable _ => cases h
  | _ =>
    obtain rfl := Option.some.inj h
    simp [Defect.path, Part.place, Pointer.written, Step.text, domainPath, ValuePlace.path,
      RulePlace.categoryPath, RulePlace.valuePath, rulePath]

theorem Warning.toList_path (w : Warning) :
    w.path.toList = Pointer.written (w.part.place.map Step.text) := by
  cases w <;> simp [Warning.path, Warning.part, Part.place, Pointer.written, Step.text, domainPath,
    rulePath]

/-- A finding is about something that the puzzle has. -/
theorem Defect.Concerns.exists_part (h : e.Concerns (.int p.houses) p.domains p.rules) :
    ∃ part v, e.part? = some part ∧ part.Holds p v := by
  cases h with
  | houseCount => exact ⟨_, _, rfl, .houses⟩
  | reservedCategory hc | categoryName hc | emptyDomain hc =>
    obtain ⟨⟨c, vs⟩, hmem, rfl⟩ := List.mem_map.1 hc
    exact ⟨_, _, rfl, .category hmem⟩
  | valueName hq | valueIsCategory hq | ambiguousValue hq _ => exact ⟨_, _, rfl, .value hq⟩
  | unknownCategory hq => exact ⟨_, _, rfl, .sideCategory hq⟩
  | positionRange hq | foreignValue hq _ => exact ⟨_, _, rfl, .sideValue hq⟩

theorem Warning.Concerns.exists_holds (h : w.Concerns (.int p.houses) p.domains p.rules) :
    ∃ v, w.part.Holds p v := by
  cases h with
  | sizeMismatch hc => exact ⟨_, .category hc⟩
  | voidRule hr _ => exact ⟨_, .rule hr⟩

end Places

section Plain

theorem isPlain_writeNat (n : Nat) : Pointer.IsPlain (Numeral.writeNat n) := by
  have hdigits := (Numeral.digitsForm_toDigits n).2
  rw [Pointer.IsPlain, Numeral.toList_writeNat]
  exact ⟨fun h => absurd (hdigits _ h) (by decide), fun h => absurd (hdigits _ h) (by decide)⟩

theorem isPlain_of_isPredicate (h : Name.isPredicate c = true) : Pointer.IsPlain c := by
  obtain ⟨⟨cs, hcs, heq⟩, _⟩ := Name.isPredicate_iff.1 h
  have hword : ∀ x ∈ c.toList, Name.isWordChar x = true ∨ x = '\n' := by
    intro x hx
    rcases heq with heq | heq
    · exact .inl (hcs.valueForm.2 x (heq ▸ hx))
    · rw [heq, List.mem_append, List.mem_singleton] at hx
      exact hx.imp_left (hcs.valueForm.2 x)
  exact ⟨fun hx => absurd (hword _ hx) (by decide), fun hx => absurd (hword _ hx) (by decide)⟩

theorem isPlain_of_mem_reserved (h : c ∈ Name.reserved) : Pointer.IsPlain c := by
  revert c
  decide

theorem Part.IsPlain.houses : Part.houses.IsPlain := by
  simp only [IsPlain, place, List.forall_mem_cons, Step.text]
  exact ⟨by decide, by simp⟩

theorem Part.IsPlain.category (h : Pointer.IsPlain c) : (Part.category c).IsPlain := by
  simp only [IsPlain, place, List.forall_mem_cons, Step.text]
  exact ⟨by decide, h, by simp⟩

theorem Part.IsPlain.value {q : ValuePlace} (h : Pointer.IsPlain q.category) :
    (Part.value q).IsPlain := by
  simp only [IsPlain, place, List.forall_mem_cons, Step.text]
  exact ⟨by decide, h, isPlain_writeNat _, by simp⟩

theorem Part.IsPlain.rule (i : Nat) : (Part.rule i).IsPlain := by
  simp only [IsPlain, place, List.forall_mem_cons, Step.text]
  exact ⟨by decide, isPlain_writeNat _, by simp⟩

theorem Part.IsPlain.sideCategory (q : RulePlace) : (Part.sideCategory q).IsPlain := by
  simp only [IsPlain, place, List.forall_mem_cons, Step.text]
  exact ⟨by decide, isPlain_writeNat _, by cases q.side <;> decide, by simp⟩

theorem Part.IsPlain.sideValue (q : RulePlace) : (Part.sideValue q).IsPlain := by
  simp only [IsPlain, place, List.forall_mem_cons, Step.text]
  exact ⟨by decide, isPlain_writeNat _, by cases q.side <;> decide, by simp⟩

/-- Only the name that is no predicate can be one that has to be escaped. -/
theorem isPlain_of_categoryDefect? {houses : Json}
    (h : Validation.categoryDefect? houses c vs = some e) (hpart : e.part? = some part)
    (hname : ∀ c, e = .categoryName c → Pointer.IsPlain c) : part.IsPlain := by
  rcases Validation.cases_of_categoryDefect? h with
    ⟨hreserved, rfl⟩ | ⟨_, rfl⟩ | ⟨hpredicate, _, rfl⟩ <;> obtain rfl := Option.some.inj hpart
  · exact .category (isPlain_of_mem_reserved hreserved)
  · exact .category (hname _ rfl)
  · exact .category (isPlain_of_isPredicate hpredicate)

theorem Part.value_of_valueFault? {d : Registry} {q : ValuePlace}
    (h : Validation.valueFault? d q = some e) (hpart : e.part? = some part) : part = .value q := by
  rcases Validation.cases_of_valueFault? h with rfl | rfl | ⟨owner, _, rfl⟩ <;>
    exact (Option.some.inj hpart).symm

theorem isPlain_of_mem_faults {houses : Json} {d : Registry} {entry : String × List String}
    (h : e ∈ Validation.faults houses d entry) (hpart : e.part? = some part)
    (hname : ∀ c, e = .categoryName c → Pointer.IsPlain c) : part.IsPlain := by
  rcases Validation.mem_faults_iff.1 h with hc | ⟨hc, i, v, _, hv⟩
  · exact isPlain_of_categoryDefect? hc hpart hname
  · have hpredicate := Name.isPredicate_iff.2 (Validation.categoryDefect?_eq_none_iff.1 hc).2.1
    rw [Part.value_of_valueFault? hv hpart]
    exact .value (isPlain_of_isPredicate hpredicate)

variable {report : Report}

theorem isPlain_of_mem_errors (h : p.validate = .ok report) (he : e ∈ report.errors)
    (hpart : e.part? = some part) (hname : ∀ c, e = .categoryName c → Pointer.IsPlain c) :
    part.IsPlain := by
  obtain ⟨late, herrors, hlate⟩ := Validation.exists_errors_eq h
  rw [herrors, Validation.earlyDefects, List.append_assoc] at he
  rcases List.mem_append.1 he with he | he
  · have hstage := Validation.stage_of_mem_houseDefects he
    cases e with
    | houseCount given =>
      obtain rfl := Option.some.inj hpart
      exact .houses
    | _ => cases hstage
  · rcases List.mem_append.1 he with he | he
    · rw [Validation.domainFindings_registry] at he
      obtain ⟨entry, _, he⟩ := List.mem_flatMap.1 he
      exact isPlain_of_mem_faults he hpart hname
    · have hstage := hlate e he
      cases e with
      | unknownCategory q known =>
        obtain rfl := Option.some.inj hpart
        exact .sideCategory q
      | positionRange q houses | foreignValue q domain =>
        obtain rfl := Option.some.inj hpart
        exact .sideValue q
      | _ => cases hstage

theorem isPlain_of_mem_warnings (h : p.validate = .ok report) (hw : w ∈ report.warnings) :
    w.part.IsPlain := by
  obtain ⟨late, hwarnings, hlate⟩ := Validation.exists_warnings_eq h
  rw [hwarnings] at hw
  rcases List.mem_append.1 hw with hw | hw
  · rw [Validation.domainFindings_registry,
      Validation.flatMap_mismatches] at hw
    obtain ⟨entry, hentry, rfl⟩ := List.mem_map.1 hw
    have hpredicate : Name.isPredicate entry.1 = true := by
      have hmismatched := (List.mem_filter.1 hentry).2
      simp only [Registry.isMismatched, Bool.and_eq_true] at hmismatched
      exact hmismatched.1.1.2
    exact .category (isPlain_of_isPredicate hpredicate)
  · obtain ⟨i, r, rfl⟩ := hlate w hw
    exact .rule i

end Plain

/-- The pointer to a category with a name that would have to be escaped does not lead there. -/
theorem isPlain_of_resolve? (h : Pointer.resolve? (Defect.categoryName c).path p.toJson =
    some ((Part.category c).place, v)) : Pointer.IsPlain c := by
  have htext := Defect.toList_path (e := .categoryName c) rfl
  exact Pointer.isPlain_of_tokens? htext (by decide) (Pointer.tokens?_of_resolve? h)

/-- The path of a finding is a pointer to the part that the finding is about, in the document of the
puzzle. Only a category whose name is no predicate, and would have to be escaped in a pointer, is not
where the path of its error leads. -/
theorem Puzzle.paths_resolve (p : Puzzle)
    (hlen : ∀ r ∈ p.rules, ∀ side, (r.operand side).isPosition = true →
      (r.operand side).value.toList.length ≤ Numeral.digitLimit) :
    ∃ report, p.validate = .ok report ∧
      (∀ e ∈ report.errors, ∃ part v, e.part? = some part ∧ part.Holds p v ∧
        (Pointer.resolve? e.path p.toJson = some (part.place, v) ↔
          ∀ c, e = .categoryName c → '/' ∉ c.toList ∧ '~' ∉ c.toList)) ∧
      ∀ w ∈ report.warnings, ∃ v, w.part.Holds p v ∧
        Pointer.resolve? w.path p.toJson = some (w.part.place, v) := by
  have hhouses : (Json.int p.houses).asInt? = some p.houses := rfl
  obtain ⟨report, h⟩ := Validation.validate_total (d := p.domains) hhouses hlen
  obtain ⟨herrors, hwarnings⟩ := Validation.concerns_of_validate h
  refine ⟨report, h, fun e he => ?_, fun w hw => ?_⟩
  · obtain ⟨part, v, hpart, hholds⟩ := (herrors e he).exists_part
    refine ⟨part, v, hpart, hholds, fun hresolve c hc => ?_, fun hname => ?_⟩
    · subst hc
      obtain rfl := Option.some.inj hpart
      exact isPlain_of_resolve? hresolve
    · exact Pointer.resolve?_of_at? (Defect.toList_path hpart)
        (isPlain_of_mem_errors h he hpart hname) hholds.at?
  · obtain ⟨v, hholds⟩ := (hwarnings w hw).exists_holds
    exact ⟨v, hholds, Pointer.resolve?_of_at? w.toList_path (isPlain_of_mem_warnings h hw) hholds.at?⟩

/-- One name that a pointer would have to escape, and one that is merely no predicate. -/
def slashedName : Puzzle where
  houses := 1
  domains := .ofPairs [("a/b", ["x"]), ("B", ["y"]), ("color", ["red", "blue"])]
  rules := [⟨⟨"position", "1"⟩, .same, ⟨"color", "red"⟩⟩]

theorem length_position_slashedName : ∀ r ∈ slashedName.rules, ∀ side,
    (r.operand side).isPosition = true →
      (r.operand side).value.toList.length ≤ Numeral.digitLimit := by
  intro r hr side _
  obtain rfl := List.mem_singleton.1 hr
  cases side <;> decide

theorem validate_slashedName : slashedName.validate =
    .ok ⟨[.categoryName "a/b", .categoryName "B"], [.sizeMismatch "color" 2 (.int 1)]⟩ := by
  rfl

theorem Puzzle.paths_resolve_slashedName :
    (∀ r ∈ slashedName.rules, ∀ side, (r.operand side).isPosition = true →
      (r.operand side).value.toList.length ≤ Numeral.digitLimit) ∧
    Pointer.resolve? "/domains/B" slashedName.toJson =
      some ([.field "domains", .field "B"], .arr [.str "y"]) ∧
    Pointer.resolve? "/domains/color" slashedName.toJson =
      some ([.field "domains", .field "color"], .arr [.str "red", .str "blue"]) := by
  obtain ⟨report, h, herrors, hwarnings⟩ :=
    paths_resolve slashedName length_position_slashedName
  obtain rfl := Except.ok.inj (h.symm.trans validate_slashedName)
  have hvalues : ∀ {c : String} {vs : List String}, (c, vs) ∈ slashedName.domains.domains →
      slashedName.domains.values? c = some vs :=
    (Assoc.get?_eq_some_iff slashedName.domains.distinct.1).2
  refine ⟨length_position_slashedName, ?_, ?_⟩
  · obtain ⟨part, v, hpart, hholds, hiff⟩ := herrors (.categoryName "B") (by simp)
    obtain rfl := Option.some.inj hpart
    cases hholds with
    | category hc =>
      obtain rfl := Option.some.inj (hvalues hc)
      exact hiff.2 fun c hc => by cases hc; decide
  · obtain ⟨v, hholds, hresolve⟩ := hwarnings _ (List.mem_singleton.2 rfl)
    cases hholds with
    | category hc =>
      obtain rfl := Option.some.inj (hvalues hc)
      exact hresolve

/-- Not every path of a finding leads to what the finding is about. -/
theorem Puzzle.not_resolved_slashedName :
    ¬ ∀ p : Puzzle, (∀ r ∈ p.rules, ∀ side, (r.operand side).isPosition = true →
        (r.operand side).value.toList.length ≤ Numeral.digitLimit) →
      ∃ report, p.validate = .ok report ∧
        (∀ e ∈ report.errors, ∃ part v, e.part? = some part ∧ part.Holds p v ∧
          Pointer.resolve? e.path p.toJson = some (part.place, v)) ∧
        ∀ w ∈ report.warnings, ∃ v, w.part.Holds p v ∧
          Pointer.resolve? w.path p.toJson = some (w.part.place, v) := by
  intro hall
  obtain ⟨report, h, herrors, _⟩ := hall slashedName length_position_slashedName
  obtain rfl := Except.ok.inj (h.symm.trans validate_slashedName)
  obtain ⟨part, v, hpart, _, hresolve⟩ := herrors (.categoryName "a/b") (by simp)
  obtain rfl := Option.some.inj hpart
  exact absurd (isPlain_of_resolve? hresolve) (by decide)

end HousePuzzle
