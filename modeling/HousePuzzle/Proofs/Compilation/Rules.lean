import HousePuzzle.Compilation
import HousePuzzle.Proofs.Compilation.Statements
import HousePuzzle.Proofs.Compilation.Terms
import HousePuzzle.Proofs.Solution
import HousePuzzle.Proofs.Traversal

/-! The constraint of a rule is violated in a placement of the values just when the rule is. -/

namespace HousePuzzle

open Asp (GroundAtom Symbol Valuation)

variable {X : Set GroundAtom} {σ : Valuation} {p : Puzzle} {s : String → Int} {o : Operand}
  {globals : List String} {x : String}

/-- The atoms about the houses of values and about houses beside each other are those of `s`. -/
structure Puzzle.Represents (p : Puzzle) (s : String → Int) (X : Set GroundAtom) : Prop where
  range : ∀ e ∈ p.domains.domains, ∀ v ∈ e.2, s v ∈ HouseNumbers p.houses
  assigned : ∀ t y, ⟨"assign", [t, y]⟩ ∈ X ↔
    ∃ e ∈ p.domains.domains, ∃ v ∈ e.2, t = (Term.ofValue v).symbol ∧ y = .number (s v)
  neighbours : ∀ x y, ⟨"next_to", [x, y]⟩ ∈ X ↔
    ∃ h ∈ HouseNumbers p.houses, ∃ k ∈ HouseNumbers p.houses, (h - k).natAbs = 1 ∧
      x = .number h ∧ y = .number k

@[simp] theorem Term.assignment_holdsIn {t : Term} :
    (t.assignment x).HoldsIn X σ ↔ ⟨"assign", [t.symbol, σ x]⟩ ∈ X :=
  Asp.Atom.holdsIn_iff rfl

namespace Puzzle.Represents

theorem assigned_value {e : String × List String} {v : String} {y : Symbol}
    (hX : p.Represents s X) (he : e ∈ p.domains.domains) (hv : v ∈ e.2) :
    ⟨"assign", [(Term.ofValue v).symbol, y]⟩ ∈ X ↔ y = .number (s v) := by
  rw [hX.assigned]
  constructor
  · intro h
    obtain ⟨f, _, w, _, hsymbol, hy⟩ := h
    rw [Term.symbol_ofValue_inj.1 hsymbol]
    exact hy
  · intro h
    exact ⟨e, he, v, hv, rfl, h⟩

end Puzzle.Represents

namespace Validation.SideFits

variable {n : Int} {d : Registry}

theorem read (h : SideFits n d o) (hp : o.isPosition = true) :
    ∃ k ∈ HouseNumbers n, Numeral.read o.value = .ok k := by
  rw [SideFits, if_pos hp] at h
  obtain ⟨ds, ⟨⟨hds, hone, hle⟩, hshort⟩, hs⟩ := h
  refine ⟨(Nat.ofDigitChars 10 ds 0 : Nat), ⟨by omega, hle⟩, ?_⟩
  rw [Numeral.read_digits hds hs, if_neg (by omega)]

theorem mem (h : SideFits n d o) (hp : o.isPosition = false) :
    ∃ vs, (o.category, vs) ∈ d.domains ∧ o.value ∈ vs := by
  rw [SideFits, if_neg (by simp [hp])] at h
  exact h

theorem house (h : SideFits n d o)
    (hrange : ∀ e ∈ d.domains, ∀ v ∈ e.2, s v ∈ HouseNumbers n) :
    ∃ k ∈ HouseNumbers n, o.house? s = some k := by
  cases hp : o.isPosition with
  | true =>
    obtain ⟨k, hk, hread⟩ := h.read hp
    exact ⟨k, hk, by simp [Operand.house?, hp, hread, Except.toOption]⟩
  | false =>
    obtain ⟨vs, he, hv⟩ := h.mem hp
    exact ⟨s o.value, hrange _ he _ hv, by simp [Operand.house?, hp]⟩

theorem exists_place (h : SideFits n d o) : ∃ l, o.place = .ok l := by
  cases hp : o.isPosition with
  | true =>
    obtain ⟨k, _, hread⟩ := h.read hp
    exact ⟨.house k, by simp [Operand.place, hp, hread, Except.map]⟩
  | false => exact ⟨.ofTerm (.ofValue o.value), by simp [Operand.place, hp]⟩

end Validation.SideFits

/-- Only a position can keep a rule from being compiled. -/
theorem Rule.exists_constraint? {n : Int} {d : Registry} {r : Rule}
    (h : ∀ side, Validation.SideFits n d (r.operand side)) : ∃ c, r.constraint? = .ok c := by
  have hleft : Validation.SideFits n d r.left := h .left
  have hright : Validation.SideFits n d r.right := h .right
  have hrelated (relation : Relation) : ∃ c, r.related relation = .ok c := by
    obtain ⟨left, hl⟩ := hleft.exists_place
    obtain ⟨right, hr⟩ := hright.exists_place
    exact ⟨some (.related relation left right), by simp [related, hl, hr, bind, Except.bind]; rfl⟩
  unfold constraint?
  split
  · split
    · exact ⟨none, rfl⟩
    · next hp _ =>
      obtain ⟨k, _, hread⟩ := hleft.read hp
      exact ⟨_, by rw [hread]; rfl⟩
    · next _ hp =>
      obtain ⟨k, _, hread⟩ := hright.read hp
      exact ⟨_, by rw [hread]; rfl⟩
    · exact ⟨_, rfl⟩
  · exact hrelated .adjacent
  · exact hrelated .rightOf
  · exact hrelated .leftOf

theorem Puzzle.exists_compile
    (h : ∀ r ∈ p.rules, ∀ side, Validation.SideFits p.houses p.domains (r.operand side)) :
    ∃ text, p.compile = .ok text := by
  obtain ⟨cs, hcs⟩ := exists_forall₂_iff.2 fun r hr => Rule.exists_constraint? (h r hr)
  rw [compile, program, constraints, mapM_eq_ok_iff.2 hcs]
  exact ⟨_, rfl⟩

theorem Puzzle.WellFormed.readable {e : String × List String} {v : String} (h : p.WellFormed)
    (hline : p.Unbroken) (he : e ∈ p.domains.domains) (hv : v ∈ e.2) :
    (Term.ofValue v).Readable := by
  have hend := (hline e he).2 v hv
  exact Term.readable_ofValue ((h.values e he v hv).1.whole hend) hend

theorem Validation.SideFits.place (h : SideFits p.houses p.domains o) (hw : p.WellFormed)
    (hline : p.Unbroken) : ∃ l, o.place = .ok l ∧ l.Readable := by
  cases hp : o.isPosition with
  | true =>
    obtain ⟨k, hk, hread⟩ := h.read hp
    have hpos : 0 ≤ k := by
      have := hk.1
      omega
    exact ⟨.house k, by simp [Operand.place, hp, hread, Except.map], hpos⟩
  | false =>
    obtain ⟨vs, he, hv⟩ := h.mem hp
    exact ⟨.ofTerm (.ofValue o.value), by simp [Operand.place, hp], hw.readable hline he hv⟩

namespace Place

variable {k : Int} {l : Place}

/-- A side is placed by its house or by its value. -/
theorem cases_of_house? (hl : o.place = .ok l) (hk : o.house? s = some k) :
    l = .house k ∨ (o.isPosition = false ∧ l = .ofTerm (.ofValue o.value) ∧ s o.value = k) := by
  unfold Operand.place at hl
  unfold Operand.house? at hk
  cases hp : o.isPosition with
  | true =>
    cases hread : Numeral.read o.value with
    | error e => simp [hp, hread, Except.map] at hl
    | ok n =>
      obtain rfl : Place.house n = l := by simpa [hp, hread, Except.map] using hl
      obtain rfl : n = k := by simpa [hp, hread, Except.toOption] using hk
      exact .inl rfl
  | false =>
    obtain rfl : Place.ofTerm (.ofValue o.value) = l := by simpa [hp] using hl
    exact .inr ⟨rfl, rfl, by simpa [hp] using hk⟩

theorem eval_expr (hl : o.place = .ok l) (hk : o.house? s = some k) (hx : σ x = .number k) :
    (l.expr x).eval σ = some (.number k) := by
  cases cases_of_house? hl hk with
  | inl h =>
    rw [h]
    rfl
  | inr h =>
    rw [h.2.1, ← hx]
    rfl

/-- The literals of a place hold where its expression is the number of its house. -/
theorem literals_hold_iff (hX : p.Represents s X)
    (hfits : Validation.SideFits p.houses p.domains o) (hl : o.place = .ok l)
    (hk : o.house? s = some k) :
    (∀ q ∈ l.literals x, q.Holds X globals σ) ↔ (l.expr x).eval σ = some (.number k) := by
  cases cases_of_house? hl hk with
  | inl h =>
    rw [h]
    simp [literals, expr]
  | inr h =>
    obtain ⟨hp, rfl, rfl⟩ := h
    obtain ⟨vs, he, hv⟩ := hfits.mem hp
    simp [literals, expr, hX.assigned_value he hv]

end Place

/-- The operator that a relation is the demand of. -/
def Relation.operator : Relation → Operator
  | .adjacent => .next
  | .rightOf => .right
  | .leftOf => .left

theorem Relation.violationLiteral_holds_iff {relation : Relation} {l r : Asp.Expr} {h k : Int}
    (hX : p.Represents s X) (hl : l.eval σ = some (.number h)) (hr : r.eval σ = some (.number k))
    (hh : h ∈ HouseNumbers p.houses) (hk : k ∈ HouseNumbers p.houses) :
    (relation.violationLiteral l r).Holds X globals σ ↔ ¬ relation.operator.Relates h k := by
  cases relation with
  | adjacent =>
    have hground : (⟨"next_to", [l, r]⟩ : Asp.Atom).ground σ =
        some ⟨"next_to", [.number h, .number k]⟩ := by
      simp [Asp.Atom.ground, hl, hr]
    have hmem : ⟨"next_to", [.number h, .number k]⟩ ∈ X ↔ (h - k).natAbs = 1 := by
      rw [hX.neighbours]
      constructor
      · intro hn
        obtain ⟨h', _, k', _, hdiff, hh', hk'⟩ := hn
        cases hh'
        cases hk'
        exact hdiff
      · intro hdiff
        exact ⟨h, hh, k, hk, hdiff, rfl, rfl⟩
    simp only [violationLiteral, Asp.Literal.Holds, hground, Option.some.injEq, exists_eq_left',
      hmem]
    rfl
  | rightOf =>
    simp [violationLiteral, Asp.Literal.Holds, Asp.Expr.eval, hl, hr, Asp.Symbol.combine?,
      Asp.Comparison.Relates, operator, Operator.Relates]
  | leftOf =>
    simp [violationLiteral, Asp.Literal.Holds, Asp.Expr.eval, hl, hr, Asp.Symbol.combine?,
      Asp.Comparison.Relates, operator, Operator.Relates]

namespace Constraint

variable {v w : String} {e f : String × List String}

theorem respected_at {n : Int} (hX : p.Represents s X) (he : e ∈ p.domains.domains)
    (hv : v ∈ e.2) :
    (Statement.constraint (.at (.ofValue v) n)).Respected X ↔ s v = n := by
  rw [Statement.respected_constraint]
  simp only [literals, List.forall_mem_cons, List.not_mem_nil, false_imp_iff, implies_true,
    and_true, Asp.Literal.holds_holds, Term.assignment_holdsIn, hX.assigned_value he hv]
  constructor
  · intro h
    by_contra hne
    apply h fun _ => .number (s v)
    simp [Asp.Literal.Holds, Asp.Comparison.Relates, hne]
  · intro h σ hσ
    obtain ⟨hbind, hdiffer⟩ := hσ
    simp [Asp.Literal.Holds, Asp.Comparison.Relates, hbind, h] at hdiffer

theorem respected_together (hX : p.Represents s X) (he : e ∈ p.domains.domains) (hv : v ∈ e.2)
    (hf : f ∈ p.domains.domains) (hw : w ∈ f.2) :
    (Statement.constraint (.together (.ofValue v) (.ofValue w))).Respected X ↔ s v = s w := by
  rw [Statement.respected_constraint]
  simp only [literals, List.forall_mem_cons, List.not_mem_nil, false_imp_iff, implies_true,
    and_true, Asp.Literal.holds_holds, Term.assignment_holdsIn, hX.assigned_value he hv,
    hX.assigned_value hf hw]
  constructor
  · intro h
    by_contra hne
    apply h fun z => if z = "H1" then .number (s v) else .number (s w)
    simp [Asp.Literal.Holds, Asp.Comparison.Relates, hne]
  · intro h σ hσ
    obtain ⟨hleft, hright, hdiffer⟩ := hσ
    simp [Asp.Literal.Holds, Asp.Comparison.Relates, hleft, hright, h] at hdiffer

theorem respected_related {relation : Relation} {l r : Place} {left right : Operand} {h k : Int}
    (hX : p.Represents s X) (hleft : Validation.SideFits p.houses p.domains left)
    (hright : Validation.SideFits p.houses p.domains right) (hl : left.place = .ok l)
    (hr : right.place = .ok r) (hh : left.house? s = some h) (hk : right.house? s = some k)
    (hrange : h ∈ HouseNumbers p.houses ∧ k ∈ HouseNumbers p.houses) :
    (Statement.constraint (.related relation l r)).Respected X ↔
      relation.operator.Relates h k := by
  rw [Statement.respected_constraint]
  simp only [literals, List.forall_mem_append, List.forall_mem_cons, List.not_mem_nil,
    false_imp_iff, implies_true, and_true, Place.literals_hold_iff hX hleft hl hh,
    Place.literals_hold_iff hX hright hr hk]
  constructor
  · intro hnone
    by_contra hnot
    let σ : Valuation := fun z => if z = "H1" then .number h else .number k
    have hlh : (l.expr "H1").eval σ = some (.number h) := Place.eval_expr hl hh rfl
    have hrk : (r.expr "H2").eval σ = some (.number k) := Place.eval_expr hr hk rfl
    exact hnone σ ⟨⟨hlh, hrk⟩,
      (Relation.violationLiteral_holds_iff hX hlh hrk hrange.1 hrange.2).2 hnot⟩
  · intro hrel σ hσ
    obtain ⟨⟨hlh, hrk⟩, hviolated⟩ := hσ
    exact (Relation.violationLiteral_holds_iff hX hlh hrk hrange.1 hrange.2).1 hviolated hrel

end Constraint

namespace Rule

variable {r : Rule} {c : Option Constraint}

/-- What there is to know of the constraint of a rule. -/
structure Constrains (p : Puzzle) (r : Rule) (c : Option Constraint) : Prop where
  compiled : r.constraint? = .ok c
  readable : ∀ q, c = some q → q.Readable
  respected : ∀ s X, p.Represents s X →
    ((∀ q, c = some q → (Statement.constraint q).Respected X) ↔ r.Holds s)

theorem holds_iff {j k : Int} (hvoid : r.isVoid = false) (hj : r.left.house? s = some j)
    (hk : r.right.house? s = some k) : r.Holds s ↔ r.operator.Relates j k := by
  simp [Holds, hvoid, hj, hk]

theorem constrains_related (relation : Relation) (hw : p.WellFormed) (hline : p.Unbroken)
    (hleft : Validation.SideFits p.houses p.domains r.left)
    (hright : Validation.SideFits p.houses p.domains r.right)
    (hop : r.operator = relation.operator) (hc : r.constraint? = r.related relation) :
    ∃ c, r.Constrains p c := by
  obtain ⟨l, hl, hlread⟩ := hleft.place hw hline
  obtain ⟨m, hm, hmread⟩ := hright.place hw hline
  have hvoid : r.isVoid = false := by
    cases relation <;> simp [isVoid, hop, Relation.operator]
  refine ⟨some (.related relation l m), ?_, ?_, ?_⟩
  · rw [hc, related, hl, hm]
    rfl
  · intro q hq
    cases hq
    exact ⟨hlread, hmread⟩
  · intro s X hX
    obtain ⟨j, hjrange, hj⟩ := hleft.house hX.range
    obtain ⟨k, hkrange, hk⟩ := hright.house hX.range
    rw [holds_iff hvoid hj hk, hop,
      ← Constraint.respected_related hX hleft hright hl hm hj hk ⟨hjrange, hkrange⟩]
    simp

theorem constrains_at (hw : p.WellFormed) (hline : p.Unbroken) {o : Operand} {n : Int}
    (hn : 0 ≤ n) (ho : Validation.SideFits p.houses p.domains o) (hp : o.isPosition = false)
    (hholds : ∀ s, r.Holds s ↔ s o.value = n)
    (hc : r.constraint? = .ok (some (.at (.ofValue o.value) n))) :
    ∃ c, r.Constrains p c := by
  obtain ⟨vs, he, hv⟩ := ho.mem hp
  refine ⟨_, hc, ?_, ?_⟩
  · intro q hq
    cases hq
    exact ⟨hw.readable hline he hv, hn⟩
  · intro s X hX
    rw [hholds, ← Constraint.respected_at hX he hv]
    simp

theorem constrains_together (hw : p.WellFormed) (hline : p.Unbroken)
    (hleft : Validation.SideFits p.houses p.domains r.left)
    (hright : Validation.SideFits p.houses p.domains r.right)
    (hop : r.operator = .same) (hl : r.left.isPosition = false)
    (hr : r.right.isPosition = false) : ∃ c, r.Constrains p c := by
  obtain ⟨vs, he, hv⟩ := hleft.mem hl
  obtain ⟨ws, hf, hu⟩ := hright.mem hr
  refine ⟨some (.together (.ofValue r.left.value) (.ofValue r.right.value)), ?_, ?_, ?_⟩
  · simp [constraint?, hop, hl, hr]
  · intro q hq
    cases hq
    exact ⟨hw.readable hline he hv, hw.readable hline hf hu⟩
  · intro s X hX
    have hvoid : r.isVoid = false := by simp [isVoid, hl]
    rw [holds_iff (j := s r.left.value) (k := s r.right.value) hvoid (by simp [Operand.house?, hl])
      (by simp [Operand.house?, hr]), hop]
    change _ ↔ s r.left.value = s r.right.value
    rw [← Constraint.respected_together hX he hv hf hu]
    simp

theorem constrains_void (hop : r.operator = .same) (hl : r.left.isPosition = true)
    (hr : r.right.isPosition = true) : r.Constrains p none := by
  have hvoid : r.isVoid = true := by simp [isVoid, hop, hl, hr]
  refine ⟨by simp [constraint?, hop, hl, hr], by simp, ?_⟩
  intro s X _
  simp [Holds, hvoid]

theorem constrains_same (hw : p.WellFormed) (hline : p.Unbroken)
    (hleft : Validation.SideFits p.houses p.domains r.left)
    (hright : Validation.SideFits p.houses p.domains r.right) (hop : r.operator = .same) :
    ∃ c, r.Constrains p c := by
  cases hl : r.left.isPosition with
  | true =>
    cases hr : r.right.isPosition with
    | true => exact ⟨none, constrains_void hop hl hr⟩
    | false =>
      obtain ⟨n, hn, hread⟩ := hleft.read hl
      have hpos : 0 ≤ n := Int.le_of_lt hn.1
      have hvoid : r.isVoid = false := by simp [isVoid, hr]
      apply constrains_at hw hline hpos hright hr
      · intro s
        rw [holds_iff (j := n) (k := s r.right.value) hvoid
          (by simp [Operand.house?, hl, hread, Except.toOption])
          (by simp [Operand.house?, hr]), hop]
        exact eq_comm
      · simp [constraint?, hop, hl, hr, hread, Except.map]
  | false =>
    cases hr : r.right.isPosition with
    | true =>
      obtain ⟨n, hn, hread⟩ := hright.read hr
      have hpos : 0 ≤ n := Int.le_of_lt hn.1
      have hvoid : r.isVoid = false := by simp [isVoid, hl]
      apply constrains_at hw hline hpos hleft hl
      · intro s
        rw [holds_iff (j := s r.left.value) (k := n) hvoid (by simp [Operand.house?, hl])
          (by simp [Operand.house?, hr, hread, Except.toOption]), hop]
        rfl
      · simp [constraint?, hop, hl, hr, hread, Except.map]
    | false => exact constrains_together hw hline hleft hright hop hl hr

/-- Every rule has a constraint, or none if it is void, that says the same. -/
theorem exists_constrains (hw : p.WellFormed) (hline : p.Unbroken)
    (h : ∀ side, Validation.SideFits p.houses p.domains (r.operand side)) :
    ∃ c, r.Constrains p c := by
  have hleft : Validation.SideFits p.houses p.domains r.left := h .left
  have hright : Validation.SideFits p.houses p.domains r.right := h .right
  cases hop : r.operator with
  | same => exact constrains_same hw hline hleft hright hop
  | next =>
    exact constrains_related .adjacent hw hline hleft hright hop (by simp [constraint?, hop])
  | right =>
    exact constrains_related .rightOf hw hline hleft hright hop (by simp [constraint?, hop])
  | left =>
    exact constrains_related .leftOf hw hline hleft hright hop (by simp [constraint?, hop])

end Rule

end HousePuzzle
