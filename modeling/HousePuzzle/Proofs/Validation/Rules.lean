import HousePuzzle.Proofs.Validation.Findings
import HousePuzzle.Proofs.Validation.HouseCount

/-!
The search through the rules. It ends at the first side that speaks of no house and of no value;
that side is reported, and the rules before it are looked through for ones that say nothing.
-/

namespace HousePuzzle

/-- What a side of a rule has to be: the number of a house, or a value of a category. -/
def Operand.Denotes (n : Int) (d : Registry) (o : Operand) : Prop :=
  if o.isPosition then Name.Fits (IsHouseNumeral n) o.value
  else ∃ vs, (o.category, vs) ∈ d.domains ∧ o.value ∈ vs

namespace RulePlace

/-- A side of one of the rules that denotes nothing. -/
structure IsOffence (n : Int) (d : Registry) (rs : List Rule) (p : RulePlace) : Prop where
  place : p.IsIn rs
  bad : ¬ p.operand.Denotes n d

/-- In the order of the rules, and of one rule the left side first. -/
def Precedes (q p : RulePlace) : Prop :=
  q.index < p.index ∨ (q.index = p.index ∧ q.side = .left ∧ p.side = .right)

structure IsFirstOffence (n : Int) (d : Registry) (rs : List Rule) (p : RulePlace) : Prop
    extends p.IsOffence n d rs where
  first : ∀ q : RulePlace, q.IsOffence n d rs → ¬ q.Precedes p

end RulePlace

/-- What an error tells of the side of a rule that it is about. -/
structure Defect.Reports (d : Registry) (p : RulePlace) (e : Defect) : Prop where
  details : e.details = .obj [("rule_index", .int p.index), ("side", .str p.side.name),
    ("category", .str p.operand.category), ("value", .str p.operand.value)]
  category : p.operand.category ≠ Name.position → p.operand.category ∉ Assoc.keys d.domains →
    e.code = "E_RULE_CATEGORY_UNKNOWN" ∧
      e.path = "/rules/" ++ Numeral.writeNat p.index ++ "/" ++ p.side.name ++ "Category"
  value : p.operand.category = Name.position ∨ p.operand.category ∈ Assoc.keys d.domains →
    e.code = "E_RULE_VALUE_NOT_IN_DOMAIN" ∧
      e.path = "/rules/" ++ Numeral.writeNat p.index ++ "/" ++ p.side.name ++ "Value"

namespace Report

/-- The errors by whose codes they are about rules. -/
def ruleErrors (r : Report) : List Defect :=
  r.errors.filter fun e =>
    e.code = "E_RULE_CATEGORY_UNKNOWN" ∨ e.code = "E_RULE_VALUE_NOT_IN_DOMAIN"

def voidWarnings (r : Report) : List Warning :=
  r.warnings.filter (·.code = "W_POSITION_SAME_NOOP")

end Report

namespace Validation

variable {houses : Json} {n : Int} {d : Registry} {o : Operand} {rs before behind : List Rule}
  {r : Rule} {p : RulePlace} {i : Nat} {owners : Owners}

section Sides

theorem not_breaks {f : Failure} (hn : houses.asInt? = some n)
    (hlen : o.isPosition = true → o.value.toList.length ≤ Numeral.digitLimit) :
    ¬ Breaks houses f o := by
  rintro ⟨hp, hbreaks⟩
  obtain ⟨b, hb⟩ := exists_isPositionOf hn (hlen hp)
  rw [hb] at hbreaks
  cases hbreaks

theorem passes_iff_denotes (hn : houses.asInt? = some n)
    (hlen : o.isPosition = true → o.value.toList.length ≤ Numeral.digitLimit) :
    Passes houses d o ↔ o.Denotes n d := by
  rw [passes_iff_sideFits hn]
  unfold SideFits Operand.Denotes
  by_cases hp : o.isPosition = true
  · rw [if_pos hp, if_pos hp]
    refine exists_congr fun ds => and_congr_left fun hs => and_iff_left_of_imp fun _ => ?_
    exact (Name.length_le_of_fits hs).trans (hlen hp)
  · rw [if_neg hp, if_neg hp]

/-- What is said of a side that does not pass. -/
def offence (houses : Json) (d : Registry) (p : RulePlace) : Defect :=
  if p.operand.isPosition then .positionRange p houses
  else match d.values? p.operand.category with
    | none => .unknownCategory p (d.categories ++ [Name.position])
    | some domain => .foreignValue p domain

theorem reports_offence (houses : Json) (d : Registry) (p : RulePlace) :
    (offence houses d p).Reports d p := by
  unfold offence
  split
  · next hp =>
    have hposition : p.operand.category = Name.position := of_decide_eq_true hp
    exact ⟨rfl, fun hne => absurd hposition hne, fun _ => ⟨rfl, rfl⟩⟩
  · next hp =>
    have hposition : p.operand.category ≠ Name.position := fun heq => hp (decide_eq_true heq)
    split
    · next hnone =>
      have hunknown : p.operand.category ∉ Assoc.keys d.domains := Assoc.get?_eq_none_iff.1 hnone
      exact ⟨rfl, fun _ _ => ⟨rfl, rfl⟩, fun h => absurd h (by simp [hposition, hunknown])⟩
    · next domain hdomain =>
      have hmem : p.operand.category ∈ Assoc.keys d.domains :=
        Assoc.mem_keys_of_mem (Registry.values?_eq_some_iff.1 hdomain)
      exact ⟨rfl, fun _ hunknown => absurd hmem hunknown, fun _ => ⟨rfl, rfl⟩⟩

theorem sideDefect?_eq_offence (hbreaks : ∀ f, ¬ Breaks houses f p.operand)
    (hpasses : ¬ Passes houses d p.operand) :
    sideDefect? houses d p = .ok (some (offence houses d p)) := by
  rw [← sideDefect?_eq_none_iff] at hpasses
  unfold sideDefect? offence at *
  by_cases hp : p.operand.isPosition = true
  · rw [if_pos hp] at hpasses ⊢
    cases hfits : isPositionOf houses p.operand.value with
    | error f => exact absurd ⟨hp, hfits⟩ (hbreaks f)
    | ok fits => cases fits <;> simp_all [Except.map]
  · rw [if_neg hp] at hpasses ⊢
    cases hvalues : d.values? p.operand.category with
    | none => simp [hp]
    | some domain => simp_all

/-- The left side is looked at first. -/
theorem exists_ruleDefect? (hbreaks : ∀ side f, ¬ Breaks houses f (r.operand side))
    (hbad : ¬ (Passes houses d r.left ∧ Passes houses d r.right)) (i : Nat) :
    ∃ side, ruleDefect? houses d i r = .ok (some (offence houses d ⟨i, side, r.operand side⟩)) ∧
      ¬ Passes houses d (r.operand side) ∧ (side = .right → Passes houses d r.left) := by
  unfold ruleDefect?
  by_cases hleft : Passes houses d r.left
  · have hright : ¬ Passes houses d r.right := fun h => hbad ⟨hleft, h⟩
    have hnone : sideDefect? houses d ⟨i, .left, r.left⟩ = .ok none :=
      sideDefect?_eq_none_iff.2 hleft
    refine ⟨.right, ?_, hright, fun _ => hleft⟩
    rw [hnone]
    exact sideDefect?_eq_offence (hbreaks .right) hright
  · have hsome := sideDefect?_eq_offence (p := ⟨i, .left, r.left⟩) (hbreaks .left) hleft
    refine ⟨.left, ?_, hleft, by simp⟩
    rw [hsome]
    rfl

end Sides

section Search

/-- The rules between numbers of houses that say nothing, by their places. -/
def voidRules (i : Nat) (rs : List Rule) : List Warning :=
  ((rs.zipIdx i).filter (·.1.isVoid)).map fun e => .voidRule e.2 e.1

theorem voidRules_cons (i : Nat) (r : Rule) (rs : List Rule) :
    voidRules i (r :: rs) = Validation.voidWarnings i r ++ voidRules (i + 1) rs := by
  unfold voidRules Validation.voidWarnings
  rw [List.zipIdx_cons, List.filter_cons]
  split <;> rfl

theorem code_of_mem_voidRules {w : Warning} (h : w ∈ voidRules i rs) :
    w.code = "W_POSITION_SAME_NOOP" := by
  obtain ⟨e, _, rfl⟩ := List.mem_map.1 h
  rfl

/-- Rules that pass are only looked through for ones that say nothing. -/
theorem ruleFindings_append (h : ∀ r ∈ before, Passes houses d r.left ∧ Passes houses d r.right)
    (i : Nat) (behind : List Rule) :
    ruleFindings houses d i (before ++ behind) =
      (ruleFindings houses d (i + before.length) behind).map fun found =>
        (found.1, voidRules i before ++ found.2) := by
  induction before generalizing i with
  | nil => cases hfound : ruleFindings houses d i behind <;> simp [Except.map, voidRules, hfound]
  | cons r before ih =>
    obtain ⟨hr, hbefore⟩ := List.forall_mem_cons.1 h
    have hnext : i + 1 + before.length = i + (before.length + 1) := by omega
    rw [List.cons_append, ruleFindings, ruleDefect?_eq_none_iff.2 hr, ih hbefore, hnext,
      List.length_cons, voidRules_cons]
    cases ruleFindings houses d (i + (before.length + 1)) behind <;>
      simp [Except.map, bind, Except.bind, pure, Except.pure]

theorem ruleFindings_of_passes (h : ∀ r ∈ rs, Passes houses d r.left ∧ Passes houses d r.right) :
    ruleFindings houses d 0 rs = .ok ([], voidRules 0 rs) := by
  have hfound := ruleFindings_append h 0 []
  rw [List.append_nil, ruleFindings] at hfound
  simpa [Except.map] using hfound

/-- The first rule that does not pass ends the search. -/
theorem ruleFindings_eq_offence {e : Defect}
    (h : ∀ r ∈ before, Passes houses d r.left ∧ Passes houses d r.right)
    (hr : ruleDefect? houses d before.length r = .ok (some e)) :
    ruleFindings houses d 0 (before ++ r :: behind) = .ok ([e], voidRules 0 before) := by
  rw [ruleFindings_append h, Nat.zero_add, ruleFindings, hr]
  simp [Except.map, bind, Except.bind, pure, Except.pure]

end Search

section First

/-- Rules that are not all alike have a first one that differs. -/
theorem exists_first {P : Rule → Prop} (h : ¬ ∀ r ∈ rs, P r) :
    ∃ before r behind, rs = before ++ r :: behind ∧ (∀ q ∈ before, P q) ∧ ¬ P r := by
  induction rs with
  | nil => exact absurd (by simp) h
  | cons r rs ih =>
    by_cases hr : P r
    · obtain ⟨before, q, behind, rfl, hbefore, hq⟩ :=
        ih fun hrs => h (List.forall_mem_cons.2 ⟨hr, hrs⟩)
      exact ⟨r :: before, q, behind, rfl, List.forall_mem_cons.2 ⟨hr, hbefore⟩, hq⟩
    · exact ⟨[], r, rs, rfl, by simp, hr⟩

theorem isFirstOffence {side : Side}
    (hbefore : ∀ q ∈ before, ∀ side, (q.operand side).Denotes n d)
    (hbad : ¬ (r.operand side).Denotes n d) (hleft : side = .right → r.left.Denotes n d) :
    RulePlace.IsFirstOffence n d (before ++ r :: behind)
      ⟨before.length, side, r.operand side⟩ := by
  refine ⟨⟨⟨r, by simp, rfl⟩, hbad⟩, fun q ⟨⟨r', hr', hoperand⟩, hq⟩ hprecedes => ?_⟩
  rw [hoperand] at hq
  rcases hprecedes with hlt | ⟨heq, hqside, hside⟩
  · have hmem : r' ∈ before := by
      rw [List.getElem?_append_left hlt] at hr'
      exact List.mem_of_getElem? hr'
    exact hq (hbefore r' hmem q.side)
  · have hr : r' = r := by
      rw [heq] at hr'
      simpa [eq_comm] using hr'
    rw [hqside, hr] at hq
    exact hq (hleft hside)

/-- Either all sides denote something and nothing is found, or the first one that does not is. -/
theorem ruleFindings_cases (hn : houses.asInt? = some n)
    (hlen : ∀ r ∈ rs, ∀ side, (r.operand side).isPosition = true →
      (r.operand side).value.toList.length ≤ Numeral.digitLimit) :
    ((∀ r ∈ rs, ∀ side, (r.operand side).Denotes n d) ∧
      ruleFindings houses d 0 rs = .ok ([], voidRules 0 rs)) ∨
    ∃ p, RulePlace.IsFirstOffence n d rs p ∧
      ruleFindings houses d 0 rs = .ok ([offence houses d p], voidRules 0 (rs.take p.index)) := by
  have hpasses (r : Rule) (hr : r ∈ rs) (side : Side) :
      Passes houses d (r.operand side) ↔ (r.operand side).Denotes n d :=
    passes_iff_denotes hn (hlen r hr side)
  have hdenotes (r : Rule) (hr : r ∈ rs) (h : Passes houses d r.left ∧ Passes houses d r.right)
      (side : Side) : (r.operand side).Denotes n d :=
    (hpasses r hr side).1 (by cases side; exacts [h.1, h.2])
  by_cases hall : ∀ r ∈ rs, Passes houses d r.left ∧ Passes houses d r.right
  · exact .inl ⟨fun r hr => hdenotes r hr (hall r hr), ruleFindings_of_passes hall⟩
  · obtain ⟨before, r, behind, rfl, hbefore, hr⟩ := exists_first hall
    have hmem : r ∈ before ++ r :: behind := List.mem_append_right _ List.mem_cons_self
    obtain ⟨side, hdefect, hbad, hleft⟩ :=
      exists_ruleDefect? (fun side _ => not_breaks hn (hlen r hmem side)) hr before.length
    refine .inr ⟨⟨before.length, side, r.operand side⟩, isFirstOffence (fun q hq => ?_)
      (fun h => hbad ((hpasses r hmem side).2 h)) fun h => (hpasses r hmem .left).1 (hleft h), ?_⟩
    · exact hdenotes q (List.mem_append_left _ hq) (hbefore q hq)
    · rw [ruleFindings_eq_offence hbefore hdefect, List.take_left]

end First

section Reported

variable {ws : List Warning} {late : List Defect}

theorem stage_offence (houses : Json) (d : Registry) (p : RulePlace) :
    (offence houses d p).stage = .rules := by
  unfold offence
  split
  · rfl
  · split <;> rfl

theorem ruleErrors_eq (hlate : ∀ e ∈ late, e.stage = .rules) :
    Report.ruleErrors ⟨earlyDefects houses d ++ late, ws⟩ = late := by
  have hearly : ∀ e ∈ earlyDefects houses d, e.stage ≠ .rules := by
    intro e he
    rcases List.mem_append.1 he with he | he
    · simp [stage_of_mem_houseDefects he]
    · simp [stage_of_mem_domainFindings he]
  simp only [Report.ruleErrors, Defect.code_eq_rule_iff, List.filter_append]
  rw [List.filter_eq_nil_iff.2 (by simpa using hearly), List.filter_eq_self.2 (by simpa using hlate)]
  rfl

theorem voidWarnings_eq (errors : List Defect) (rs : List Rule) :
    Report.voidWarnings ⟨errors, (domainFindings houses [] d.domains).2 ++ voidRules 0 rs⟩ =
      voidRules 0 rs := by
  have hdomains : ∀ w ∈ (domainFindings houses [] d.domains).2, w.code ≠ "W_POSITION_SAME_NOOP" := by
    intro w hw
    rw [code_of_mem_domainFindings hw]
    decide
  simp only [Report.voidWarnings, List.filter_append]
  rw [List.filter_eq_nil_iff.2 (by simpa using hdomains),
    List.filter_eq_self.2 fun w hw => decide_eq_true (code_of_mem_voidRules hw)]
  rfl

theorem validate_of_limit (rs : List Rule) (h : errorLimit ≤ (earlyDefects houses d).length) :
    ∃ report, validate houses d rs = .ok report ∧ report.ruleErrors = [] ∧
      report.voidWarnings = [] := by
  let ws : List Warning := (domainFindings houses [] d.domains).2 ++ voidRules 0 []
  have herrors : Report.ruleErrors ⟨earlyDefects houses d ++ [], ws⟩ = [] :=
    ruleErrors_eq (by simp)
  have hwarnings : Report.voidWarnings ⟨earlyDefects houses d ++ [], ws⟩ = [] :=
    voidWarnings_eq _ []
  simp only [ws, voidRules, List.zipIdx_nil, List.filter_nil, List.map_nil,
    List.append_nil] at herrors hwarnings
  exact ⟨_, (validate_eq houses d rs).trans (if_pos h), herrors, hwarnings⟩

/-- Of rules at most one side is reported, the first one that denotes nothing, unless there are too
many errors before it; and of the rules before it those between houses that say nothing. -/
theorem firstOffence_reported (houses : Json) (n : Int) (d : Registry) (rules : List Rule)
    (hn : houses.asInt? = some n)
    (hlen : ∀ r ∈ rules, ∀ side, (r.operand side).isPosition = true →
      (r.operand side).value.toList.length ≤ Numeral.digitLimit) :
    ∃ report, validate houses d rules = .ok report ∧
      (20 ≤ (earlyDefects houses d).length →
        report.ruleErrors = [] ∧ report.voidWarnings = []) ∧
      ((earlyDefects houses d).length < 20 →
        (report.ruleErrors ≠ [] ↔ ∃ r ∈ rules, ∃ side, ¬ (r.operand side).Denotes n d) ∧
        (report.ruleErrors = [] → report.voidWarnings = voidRules 0 rules) ∧
        (report.ruleErrors ≠ [] → ∃ p e, RulePlace.IsFirstOffence n d rules p ∧
          report.ruleErrors = [e] ∧ report.errors.getLast? = some e ∧ e.Reports d p ∧
          report.voidWarnings = voidRules 0 (rules.take p.index))) := by
  by_cases hlimit : errorLimit ≤ (earlyDefects houses d).length
  · obtain ⟨report, hreport, hnone⟩ := validate_of_limit rules hlimit
    exact ⟨report, hreport, fun _ => hnone, fun hlt => absurd hlimit (Nat.not_le.2 hlt)⟩
  · have hvalidate := (validate_eq houses d rules).trans (if_neg hlimit)
    rcases ruleFindings_cases (d := d) hn hlen with ⟨hall, hfound⟩ | ⟨p, hfirst, hfound⟩
    · rw [hfound] at hvalidate
      refine ⟨_, hvalidate, fun h => absurd h hlimit, fun _ => ?_⟩
      rw [ruleErrors_eq (by simp), voidWarnings_eq]
      refine ⟨iff_of_false (by simp) ?_, fun _ => rfl, fun h => absurd rfl h⟩
      rintro ⟨r, hr, side, hbad⟩
      exact hbad (hall r hr side)
    · rw [hfound] at hvalidate
      refine ⟨_, hvalidate, fun h => absurd h hlimit, fun _ => ?_⟩
      rw [ruleErrors_eq (List.forall_mem_singleton.2 (stage_offence houses d p)), voidWarnings_eq]
      obtain ⟨r, hr, hoperand⟩ := hfirst.place
      have hbad : ¬ (r.operand p.side).Denotes n d := hoperand ▸ hfirst.bad
      exact ⟨iff_of_true (by simp) ⟨r, List.mem_of_getElem? hr, p.side, hbad⟩,
        fun h => absurd h (by simp), fun _ => ⟨p, _, hfirst, rfl, by simp,
          reports_offence houses d p, rfl⟩⟩

/-- Of the first rule nothing is asked, the second one is about a house that is not there, and the
third one about a category that is not. -/
def offendingRules : List Rule :=
  [⟨⟨"position", "1"⟩, .same, ⟨"position", "1"⟩⟩, ⟨⟨"color", "red"⟩, .same, ⟨"position", "2"⟩⟩,
    ⟨⟨"pet", "cat"⟩, .next, ⟨"color", "red"⟩⟩]

theorem firstOffence_reported_offendingRules :
    ((Json.int 1).asInt? = some 1 ∧ ∀ r ∈ offendingRules, ∀ side,
      (r.operand side).isPosition = true →
        (r.operand side).value.toList.length ≤ Numeral.digitLimit) ∧
    ∃ report, validate (.int 1) oneColour offendingRules = .ok report ∧
      ∃ p e, RulePlace.IsFirstOffence 1 oneColour offendingRules p ∧
        report.ruleErrors = [e] ∧ report.errors.getLast? = some e ∧ e.Reports oneColour p ∧
        report.voidWarnings = voidRules 0 (offendingRules.take p.index) := by
  have hlen : ∀ r ∈ offendingRules, ∀ side, (r.operand side).isPosition = true →
      (r.operand side).value.toList.length ≤ Numeral.digitLimit := by
    intro r hr side _
    simp only [offendingRules, List.mem_cons, List.not_mem_nil, or_false] at hr
    rcases hr with rfl | rfl | rfl <;> cases side <;> decide
  have hbad : ¬ Operand.Denotes 1 oneColour ⟨"pet", "cat"⟩ := by
    rintro ⟨vs, hmem, _⟩
    have hkeys : "pet" ∉ Assoc.keys oneColour.domains := by decide
    exact hkeys (Assoc.mem_keys_of_mem hmem)
  obtain ⟨report, hreport, _, hrules⟩ :=
    firstOffence_reported (.int 1) 1 oneColour offendingRules rfl hlen
  obtain ⟨hiff, _, hfirst⟩ := hrules (by decide)
  have hrule : ⟨⟨"pet", "cat"⟩, .next, ⟨"color", "red"⟩⟩ ∈ offendingRules := by decide
  exact ⟨⟨rfl, hlen⟩, report, hreport, hfirst (hiff.2 ⟨_, hrule, .left, hbad⟩)⟩

end Reported

end Validation

end HousePuzzle
