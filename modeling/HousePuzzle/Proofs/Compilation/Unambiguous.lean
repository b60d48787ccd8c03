import HousePuzzle.Proofs.Compilation.Program

/-!
The text of a program determines what it was made from: the houses, the categories with their
values, and the constraints; and a constraint determines its rule, but for the spelling of numbers
and for the order of a value and its house.
-/

namespace HousePuzzle

variable {p q : Puzzle} {cs ds : List Constraint} {c c' : Constraint} {x y : String} {t u : Term}
  {l m l' m' : Place}

section Literals

@[simp] theorem Term.assignment_inj : t.assignment x = u.assignment y ↔ t = u ∧ x = y := by
  simp [assignment, expr, symbol_injective.eq_iff]

namespace Place

theorem length_literals (hexpr : l.expr x = m.expr x) :
    (l.literals x).length = (m.literals x).length := by
  cases l <;> cases m <;> simp [expr, literals] at hexpr ⊢

/-- A place is known by its expression and by the literal that binds its variable. -/
theorem eq_of_literals (hexpr : l.expr x = m.expr x) (h : l.literals x = m.literals x) : l = m := by
  cases l <;> cases m <;> simp_all [expr, literals]

end Place

namespace Relation

variable {r r' : Relation} {a b a' b' : Asp.Expr}

theorem violationLiteral_inj :
    r.violationLiteral a b = r'.violationLiteral a' b' ↔ r = r' ∧ a = a' ∧ b = b' := by
  cases r <;> cases r' <;> simp [violationLiteral]

theorem violationLiteral_ne_variable :
    r.violationLiteral a b ≠ .compare .differ a' (.variable x) := by
  cases r <;> simp [violationLiteral]

theorem violationLiteral_ne_symbol {s : Asp.Symbol} :
    r.violationLiteral a b ≠ .compare .differ a' (.symbol s) := by
  cases r <;> simp [violationLiteral]

end Relation

namespace Constraint

/-- The literal that tells what is wrong; those before it only bind the variables in it. -/
def lastLiteral : Constraint → Asp.Literal
  | .together _ _ => .compare .differ (.variable "H1") (.variable "H2")
  | .at _ n => .compare .differ (.variable "H") (.symbol (.number n))
  | .related relation l r => relation.violationLiteral (l.expr "H1") (r.expr "H2")

theorem getLast?_literals (c : Constraint) : c.literals.getLast? = some c.lastLiteral := by
  cases c with
  | related relation l r => exact List.getLast?_concat
  | _ => rfl

theorem literals_injective : Function.Injective literals := by
  intro c c' h
  have hlast : c.lastLiteral = c'.lastLiteral := by
    have hlast := congrArg List.getLast? h
    rwa [getLast?_literals, getLast?_literals, Option.some.injEq] at hlast
  cases c with
  | together l r =>
    cases c' with
    | together l' r' => simpa [literals] using h
    | «at» t n => simp [lastLiteral] at hlast
    | related relation l' r' => exact absurd hlast.symm Relation.violationLiteral_ne_variable
  | «at» t n =>
    cases c' with
    | together l' r' => simp [lastLiteral] at hlast
    | «at» u n' => simpa [literals] using h
    | related relation l' r' => exact absurd hlast.symm Relation.violationLiteral_ne_symbol
  | related relation l r =>
    cases c' with
    | together l' r' => exact absurd hlast Relation.violationLiteral_ne_variable
    | «at» u n' => exact absurd hlast Relation.violationLiteral_ne_symbol
    | related relation' l' r' =>
      obtain ⟨rfl, hl, hr⟩ := Relation.violationLiteral_inj.1 hlast
      have hbindings := (List.append_inj' h rfl).1
      obtain ⟨hleft, hright⟩ := List.append_inj hbindings (Place.length_literals hl)
      rw [Place.eq_of_literals hl hleft, Place.eq_of_literals hr hright]

/-- Constraints that can be read are known by their texts. -/
theorem render_inj (hc : c.Readable) (hc' : c'.Readable) : c.render = c'.render ↔ c = c' := by
  refine ⟨fun h => ?_, fun h => by rw [h]⟩
  have hread {c : Constraint} (hc : c.Readable) :
      Asp.read (c.render ++ "\n") = some [.rule ⟨.none, c.literals⟩] := by
    have hprogram : Program.Readable [.constraint c] := by
      intro s hs
      rw [List.mem_singleton.1 hs]
      exact hc
    have htext : Program.render [.constraint c] = c.render ++ "\n" := by
      rw [Program.render, List.map_singleton, String.join_cons, String.join_nil,
        String.append_empty]
      rfl
    rw [← htext, Program.read_render hprogram]
    rfl
  have hliterals : [Asp.Statement.rule ⟨.none, c.literals⟩] = [.rule ⟨.none, c'.literals⟩] := by
    rw [← Option.some.injEq, ← hread hc, ← hread hc', h]
  simp only [List.cons.injEq, Asp.Statement.rule.injEq, Asp.Rule.mk.injEq, and_true,
    true_and] at hliterals
  exact literals_injective hliterals

theorem map_render_inj (hcs : ∀ c ∈ cs, c.Readable) (hds : ∀ c ∈ ds, c.Readable) :
    cs.map render = ds.map render ↔ cs = ds := by
  induction cs generalizing ds with
  | nil => simp [eq_comm]
  | cons c cs ih =>
    cases ds with
    | nil => simp
    | cons c' ds =>
      obtain ⟨hc, hcs⟩ := List.forall_mem_cons.1 hcs
      obtain ⟨hc', hds⟩ := List.forall_mem_cons.1 hds
      rw [List.map_cons, List.map_cons, List.cons.injEq, List.cons.injEq, render_inj hc hc',
        ih hcs hds]

end Constraint

end Literals

section Texts

/-- A fact with its alternatives. -/
def Asp.Statement.pool? : Asp.Statement → Option (String × List Asp.Alternative)
  | .rule ⟨.pool name alternatives, _⟩ => some (name, alternatives)
  | _ => none

/-- A category as a fact. -/
def poolOf (e : String × List String) : String × List Asp.Alternative :=
  (e.1, (e.2.map Term.ofValue).map fun t => .single t.expr)

theorem poolOf_injective : Function.Injective poolOf := by
  intro e f h
  obtain ⟨hname, hvalues⟩ := Prod.mk.inj h
  have hinjective : Function.Injective fun t : Term => Asp.Alternative.single t.expr := by
    intro t u htu
    simpa [Term.expr, Term.symbol_injective.eq_iff] using htu
  exact Prod.ext hname (Term.ofValue_injective.list_map (hinjective.list_map hvalues))

namespace Puzzle

theorem meaning_programOf (p : Puzzle) (cs : List Constraint) :
    (p.programOf cs).meaning = Program.meaning p.preamble ++
      cs.map (fun c => .rule ⟨.none, c.literals⟩) ++ [.display "assign" 2] := by
  have hconstraints : (cs.map Statement.constraint).filterMap Statement.meaning? =
      cs.map fun c => .rule ⟨.none, c.literals⟩ := by
    rw [List.filterMap_map]
    exact congrFun List.filterMap_eq_map' cs
  rw [programOf, Program.meaning, List.filterMap_append, List.filterMap_append, hconstraints]
  rfl

/-- The facts of a program are the houses and the categories. -/
theorem WellFormed.filterMap_pool? (hw : p.WellFormed) :
    (p.programOf cs).meaning.filterMap Asp.Statement.pool? =
      ("house", [.range (.symbol (.number 1)) (.symbol (.number p.houses))]) ::
        p.domains.domains.map poolOf := by
  have hpools : (p.domains.domains.map fun e => Statement.pool e.1 (e.2.map .ofValue)).filterMap
      (fun s => s.meaning?.bind Asp.Statement.pool?) = p.domains.domains.map poolOf := by
    rw [List.filterMap_map]
    exact congrFun List.filterMap_eq_map' _
  have hnone (f : String × List String → Statement)
      (hf : ∀ e, (f e).meaning?.bind Asp.Statement.pool? = none) :
      (p.domains.domains.map f).filterMap (fun s => s.meaning?.bind Asp.Statement.pool?) = [] := by
    rw [List.filterMap_eq_nil_iff]
    exact List.forall_mem_map.2 fun e _ => hf e
  have hconstraints : (cs.map Statement.constraint).filterMap
      (fun s => s.meaning?.bind Asp.Statement.pool?) = [] := by
    rw [List.filterMap_eq_nil_iff]
    exact List.forall_mem_map.2 fun c _ => rfl
  rw [Program.meaning, List.filterMap_filterMap, programOf, preamble, hw.placed_eq]
  simp only [List.filterMap_append, hpools, hnone (fun e => .placeEach e.1) fun _ => rfl,
    hnone (fun e => .fillEach e.1) fun _ => rfl, hconstraints]
  simp [Statement.meaning?, Statement.rule?, Statement.neighbourRule, Asp.Statement.pool?]

theorem WellFormed.preamble_congr (hw : p.WellFormed) (hw' : q.WellFormed)
    (hhouses : p.houses = q.houses) (hdomains : p.domains.domains = q.domains.domains) :
    p.preamble = q.preamble := by
  rw [preamble, preamble, hw.placed_eq, hw'.placed_eq, hhouses, hdomains]

/-- What a program means determines the puzzle but for its rules, and their constraints. -/
theorem meaning_programOf_inj (hw : p.WellFormed) (hw' : q.WellFormed) :
    (p.programOf cs).meaning = (q.programOf ds).meaning ↔
      p.houses = q.houses ∧ p.domains.domains = q.domains.domains ∧ cs = ds := by
  constructor
  · intro h
    have hpools := congrArg (List.filterMap Asp.Statement.pool?) h
    rw [hw.filterMap_pool?, hw'.filterMap_pool?] at hpools
    obtain ⟨hfirst, hdomains⟩ := List.cons.inj hpools
    have hhouses : p.houses = q.houses := by simpa using hfirst
    have hdomains := poolOf_injective.list_map hdomains
    rw [meaning_programOf, meaning_programOf, hw.preamble_congr hw' hhouses hdomains,
      List.append_assoc, List.append_assoc, List.append_cancel_left_eq,
      List.append_cancel_right_eq] at h
    have hinjective : Function.Injective fun c : Constraint =>
        Asp.Statement.rule ⟨.none, c.literals⟩ := by
      intro c c' hcc'
      simpa [Constraint.literals_injective.eq_iff] using hcc'
    exact ⟨hhouses, hdomains, hinjective.list_map h⟩
  · rintro ⟨hhouses, hdomains, rfl⟩
    rw [programOf, programOf, hw.preamble_congr hw' hhouses hdomains]

theorem render_programOf_inj (hw : p.WellFormed) (hw' : q.WellFormed)
    (hp : (p.programOf cs).Readable) (hq : (q.programOf ds).Readable) :
    (p.programOf cs).render = (q.programOf ds).render ↔
      p.houses = q.houses ∧ p.domains.domains = q.domains.domains ∧ cs = ds := by
  rw [← meaning_programOf_inj hw hw']
  constructor
  · intro h
    have hread := (Program.read_render hp).symm.trans ((congrArg Asp.read h).trans
      (Program.read_render hq))
    exact Option.some.inj hread
  · intro h
    obtain ⟨hhouses, hdomains, rfl⟩ := (meaning_programOf_inj hw hw').1 h
    rw [programOf, programOf, hw.preamble_congr hw' hhouses hdomains]

end Puzzle

end Texts

section Rules

variable {o o' : Operand} {r r' : Rule} {n : Int} {e f : Operator} {relation relation' : Relation}

/-- The same value of the same category, or the same house. -/
inductive Operand.Coincides : Operand → Operand → Prop
  | value (o : Operand) (ho : o.isPosition = false) : Coincides o o
  | house {o o' : Operand} (k : Int) (ho : o.isPosition = true) (ho' : o'.isPosition = true)
    (hk : Numeral.read o.value = .ok k) (hk' : Numeral.read o'.value = .ok k) : Coincides o o'

/-- Rules that demand the same of the same two operands, in the same order; but when a value is to
be in a given house, either side may name the house. -/
def Rule.SameDemand (r r' : Rule) : Prop :=
  r.operator = r'.operator ∧
    (r.left.Coincides r'.left ∧ r.right.Coincides r'.right ∨
      r.operator = .same ∧ r.left.isPosition ≠ r.right.isPosition ∧
        r.left.Coincides r'.right ∧ r.right.Coincides r'.left)

def Place.isHouse : Place → Bool
  | .ofTerm _ => false
  | .house _ => true

namespace Operand

theorem isHouse_place (hl : o.place = .ok l) : l.isHouse = o.isPosition := by
  unfold place at hl
  cases hp : o.isPosition with
  | true =>
    cases hread : Numeral.read o.value with
    | error e => simp [hp, hread, Except.map] at hl
    | ok k =>
      obtain rfl : Place.house k = l := by simpa [hp, hread, Except.map] using hl
      rfl
  | false =>
    obtain rfl : Place.ofTerm (.ofValue o.value) = l := by simpa [hp] using hl
    rfl

theorem place_eq_house_iff (hp : o.isPosition = true) :
    o.place = .ok (.house n) ↔ Numeral.read o.value = .ok n := by
  cases hread : Numeral.read o.value <;> simp [place, hp, hread, Except.map]

theorem place_eq_ofTerm_iff (hp : o.isPosition = false) :
    o.place = .ok (.ofTerm t) ↔ Term.ofValue o.value = t := by
  simp [place, hp]

/-- Operands of a puzzle have the same place only if they coincide, as no value has two
categories. -/
theorem place_inj (hw : p.WellFormed) (ho : Validation.SideFits p.houses p.domains o)
    (ho' : Validation.SideFits p.houses p.domains o') (hl : o.place = .ok l)
    (hl' : o'.place = .ok l') : l = l' ↔ o.Coincides o' := by
  constructor
  · rintro rfl
    have hp := isHouse_place hl
    have hp' := isHouse_place hl'
    cases l with
    | house k =>
      exact .house k hp.symm hp'.symm ((place_eq_house_iff hp.symm).1 hl)
        ((place_eq_house_iff hp'.symm).1 hl')
    | ofTerm t =>
      have hvalue : o.value = o'.value := Term.ofValue_injective <|
        ((place_eq_ofTerm_iff hp.symm).1 hl).trans ((place_eq_ofTerm_iff hp'.symm).1 hl').symm
      obtain ⟨vs, he, hv⟩ := ho.mem hp.symm
      obtain ⟨ws, he', hv'⟩ := ho'.mem hp'.symm
      have hcategory : o.category = o'.category :=
        congrArg Prod.fst (hw.owners _ he _ he' _ hv (hvalue ▸ hv'))
      obtain rfl : o = o' := by
        cases o
        cases o'
        simp_all
      exact .value o hp.symm
  · intro h
    cases h with
    | value _ => exact Except.ok.inj (hl.symm.trans hl')
    | house k hp hp' hk hk' =>
      rw [(place_eq_house_iff hp).2 hk] at hl
      rw [(place_eq_house_iff hp').2 hk'] at hl'
      exact Except.ok.inj (hl.symm.trans hl')

end Operand

/-- The constraint on two places that an operator demands. Two given houses are either the same or
not, so there is none that says so. -/
def Constraint.between? : Operator → Place → Place → Option Constraint
  | .same, .ofTerm t, .ofTerm u => some (.together t u)
  | .same, .ofTerm t, .house n => some (.at t n)
  | .same, .house n, .ofTerm t => some (.at t n)
  | .same, .house _, .house _ => none
  | .next, l, m => some (.related .adjacent l m)
  | .right, l, m => some (.related .rightOf l m)
  | .left, l, m => some (.related .leftOf l m)

namespace Rule

theorem constraint?_eq_between? (hl : r.left.place = .ok l) (hm : r.right.place = .ok m) :
    r.constraint? = .ok (Constraint.between? r.operator l m) := by
  have hp := Operand.isHouse_place hl
  have hq := Operand.isHouse_place hm
  have hrelated (relation : Relation) : r.related relation = .ok (some (.related relation l m)) := by
    rw [related, hl, hm]
    rfl
  cases hop : r.operator with
  | same =>
    cases l with
    | ofTerm t =>
      obtain rfl := (Operand.place_eq_ofTerm_iff hp.symm).1 hl
      cases m with
      | ofTerm u =>
        obtain rfl := (Operand.place_eq_ofTerm_iff hq.symm).1 hm
        simp [constraint?, hop, ← hp, ← hq, Place.isHouse, Constraint.between?]
      | house k =>
        have hread := (Operand.place_eq_house_iff hq.symm).1 hm
        simp [constraint?, hop, ← hp, ← hq, hread, Except.map, Place.isHouse, Constraint.between?]
    | house n =>
      have hread := (Operand.place_eq_house_iff hp.symm).1 hl
      cases m with
      | ofTerm u =>
        obtain rfl := (Operand.place_eq_ofTerm_iff hq.symm).1 hm
        simp [constraint?, hop, ← hp, ← hq, hread, Except.map, Place.isHouse, Constraint.between?]
      | house k => simp [constraint?, hop, ← hp, ← hq, Place.isHouse, Constraint.between?]
  | next => simpa [constraint?, hop, Constraint.between?] using hrelated .adjacent
  | right => simpa [constraint?, hop, Constraint.between?] using hrelated .rightOf
  | left => simpa [constraint?, hop, Constraint.between?] using hrelated .leftOf

end Rule

namespace Relation

theorem operator_inj : relation.operator = relation'.operator ↔ relation = relation' := by
  cases relation <;> cases relation' <;> decide

theorem operator_ne_same : relation.operator ≠ .same := by
  cases relation <;> decide

end Relation

theorem Operator.cases_relation (e : Operator) :
    e = .same ∨ ∃ relation : Relation, e = relation.operator := by
  cases e with
  | same => exact .inl rfl
  | next => exact .inr ⟨.adjacent, rfl⟩
  | right => exact .inr ⟨.rightOf, rfl⟩
  | left => exact .inr ⟨.leftOf, rfl⟩

namespace Constraint

@[simp] theorem between?_operator :
    between? relation.operator l m = some (.related relation l m) := by
  cases relation <;> rfl

theorem between?_same_ne_related : between? .same l m ≠ some (.related relation l' m') := by
  cases l <;> cases m <;> simp [between?]

/-- A constraint says what was demanded, but not which side named the house. -/
theorem between?_inj (hc : between? e l m = some c) (hc' : between? f l' m' = some c') :
    c = c' ↔ e = f ∧ (l = l' ∧ m = m' ∨
      e = .same ∧ l.isHouse ≠ m.isHouse ∧ l = m' ∧ m = l') := by
  obtain rfl | ⟨relation, rfl⟩ := e.cases_relation <;>
    obtain rfl | ⟨relation', rfl⟩ := f.cases_relation
  · cases l <;> cases m <;> cases l' <;> cases m' <;> cases hc <;> cases hc' <;>
      simp [Place.isHouse, and_comm]
  · rw [between?_operator, Option.some.injEq] at hc'
    subst hc'
    simp only [Relation.operator_ne_same.symm, false_and, iff_false]
    rintro rfl
    exact between?_same_ne_related hc
  · rw [between?_operator, Option.some.injEq] at hc
    subst hc
    simp only [Relation.operator_ne_same, false_and, iff_false]
    rintro rfl
    exact between?_same_ne_related hc'
  · rw [between?_operator, Option.some.injEq] at hc hc'
    subst hc hc'
    simp [Relation.operator_inj, Relation.operator_ne_same]

end Constraint

/-- The constraints of two rules of a puzzle are the same just when their demands are. -/
theorem Rule.constraint?_inj (hw : p.WellFormed)
    (hr : ∀ side, Validation.SideFits p.houses p.domains (r.operand side))
    (hr' : ∀ side, Validation.SideFits p.houses p.domains (r'.operand side))
    (hc : r.constraint? = .ok (some c)) (hc' : r'.constraint? = .ok (some c')) :
    c = c' ↔ r.SameDemand r' := by
  have hleft : Validation.SideFits p.houses p.domains r.left := hr .left
  have hright : Validation.SideFits p.houses p.domains r.right := hr .right
  have hleft' : Validation.SideFits p.houses p.domains r'.left := hr' .left
  have hright' : Validation.SideFits p.houses p.domains r'.right := hr' .right
  obtain ⟨l, hl⟩ := hleft.exists_place
  obtain ⟨m, hm⟩ := hright.exists_place
  obtain ⟨l', hl'⟩ := hleft'.exists_place
  obtain ⟨m', hm'⟩ := hright'.exists_place
  rw [constraint?_eq_between? hl hm, Except.ok.injEq] at hc
  rw [constraint?_eq_between? hl' hm', Except.ok.injEq] at hc'
  rw [Constraint.between?_inj hc hc', SameDemand, Operand.isHouse_place hl,
    Operand.isHouse_place hm, Operand.place_inj hw hleft hleft' hl hl',
    Operand.place_inj hw hright hright' hm hm', Operand.place_inj hw hleft hright' hl hm',
    Operand.place_inj hw hright hleft' hm hl']

end Rules

namespace Puzzle

/-- Valid puzzles have the same text just when they are the same but for what their rules are
written like, and rules have the same text just when their demands are the same. -/
theorem compile_unambiguous {report report' : Report} (hp : p.validate = .ok report)
    (hpvalid : report.isValid = true) (hpline : p.Unbroken) (hq : q.validate = .ok report')
    (hqvalid : report'.isValid = true) (hqline : q.Unbroken) :
    (∃ s t cs ds, p.compile = .ok s ∧ q.compile = .ok t ∧ p.constraints = .ok cs ∧
      q.constraints = .ok ds ∧
      (s = t ↔ p.houses = q.houses ∧ p.domains.domains = q.domains.domains ∧
        cs.map Constraint.render = ds.map Constraint.render)) ∧
    ∀ r ∈ p.rules, ∀ r' ∈ p.rules, ∀ c c', r.constraint? = .ok (some c) →
      r'.constraint? = .ok (some c') → (c.render = c'.render ↔ r.SameDemand r') := by
  obtain ⟨hw, hsides⟩ := wellFormed_of_validate hp hpvalid
  obtain ⟨-, cs, hcs, hcsread⟩ := exists_constrains hp hpvalid hpline
  obtain ⟨hw', ds, hds, hdsread⟩ := exists_constrains hq hqvalid hqline
  have hreadable {r : Rule} (hr : r ∈ p.rules) {c : Constraint}
      (hc : r.constraint? = .ok (some c)) : c.Readable := by
    obtain ⟨c?, hc?⟩ := Rule.exists_constrains hw hpline (hsides r hr)
    exact hc?.readable c (Except.ok.inj (hc?.compiled.symm.trans hc))
  constructor
  · refine ⟨_, _, cs, ds, hcs.compile_eq, hds.compile_eq, hcs.compiled, hds.compiled, ?_⟩
    rw [render_programOf_inj hw hw' hcsread hdsread,
      Constraint.map_render_inj hcs.readable hds.readable]
  · intro r hr r' hr' c c' hc hc'
    rw [Constraint.render_inj (hreadable hr hc) (hreadable hr' hc'),
      Rule.constraint?_inj hw (hsides r hr) (hsides r' hr') hc hc']

/-- The puzzle of `twoHouses`, where the house of the first rule is written without a zero and on
the other side. -/
def twoHousesMirrored : Puzzle :=
  { twoHouses with rules := [⟨⟨"position", "1"⟩, .same, ⟨"color", "red"⟩⟩,
      ⟨⟨"pet", "007"⟩, .right, ⟨"color", "red"⟩⟩] }

theorem compile_unambiguous_twoHouses :
    (∃ report report', twoHouses.validate = .ok report ∧ report.isValid = true ∧
      twoHouses.Unbroken ∧ twoHousesMirrored.validate = .ok report' ∧
      report'.isValid = true ∧ twoHousesMirrored.Unbroken) ∧
    (∃ text, twoHouses.compile = .ok text ∧ twoHousesMirrored.compile = .ok text) ∧
    ∀ r ∈ twoHouses.rules, ∀ r' ∈ twoHouses.rules, ∀ c c', r.constraint? = .ok (some c) →
      r'.constraint? = .ok (some c') → (c.render = c'.render ↔ r.SameDemand r') := by
  obtain ⟨report, hp, hpvalid⟩ : ∃ report, twoHouses.validate = .ok report ∧
      report.isValid = true := ⟨_, rfl, rfl⟩
  obtain ⟨report', hq, hqvalid⟩ : ∃ report, twoHousesMirrored.validate = .ok report ∧
      report.isValid = true := ⟨_, rfl, rfl⟩
  have hpline : twoHouses.Unbroken := by decide
  have hqline : twoHousesMirrored.Unbroken := by decide
  obtain ⟨⟨s, t, cs, ds, hs, ht, hcs, hds, heq⟩, hrules⟩ :=
    compile_unambiguous hp hpvalid hpline hq hqvalid hqline
  have hconstraints : twoHouses.constraints = twoHousesMirrored.constraints := rfl
  obtain rfl : cs = ds := Except.ok.inj (hcs.symm.trans (hconstraints.trans hds))
  obtain rfl : s = t := heq.2 ⟨rfl, rfl, rfl⟩
  exact ⟨⟨report, report', hp, hpvalid, hpline, hq, hqvalid, hqline⟩, ⟨s, hs, ht⟩, hrules⟩

end Puzzle

end HousePuzzle
