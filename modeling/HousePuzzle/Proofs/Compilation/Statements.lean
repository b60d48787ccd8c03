import HousePuzzle.Proofs.Compilation.Meaning

/-!
What each statement of a program demands of a set of atoms, and which atoms it accounts for.
-/

namespace HousePuzzle

open Asp (GroundAtom Symbol Valuation Founded)

variable {X : Set GroundAtom} {σ : Valuation} {g : GroundAtom} {c x : String}

theorem encard_setOf_eq_one_iff {α : Type} {p : α → Prop} :
    {a | p a}.encard = 1 ↔ ∃! a, p a := by
  rw [Set.encard_eq_one]
  constructor
  · intro h
    cases h with
    | intro a ha =>
      have hmem : ∀ b, p b ↔ b = a := fun b => by
        change b ∈ {a | p a} ↔ b = a
        rw [ha, Set.mem_singleton_iff]
      exact ⟨a, (hmem a).2 rfl, fun b hb => (hmem b).1 hb⟩
  · intro h
    cases h with
    | intro a ha => exact ⟨a, Set.ext fun b => ⟨ha.2 b, fun hb => hb ▸ ha.1⟩⟩

/-- The first number is that of the house beside the second, on the given side of it. -/
def Side.Beside (x y : Symbol) : Side → Prop
  | .right => ∃ n, y = .number n ∧ x = .number (n + 1)
  | .left => ∃ n, y = .number n ∧ x = .number (n - 1)

namespace Statement

def Respected (X : Set GroundAtom) (s : Statement) : Prop :=
  ∀ r, s.rule? = some r → r.Respected X

/-- The atom is in the head of an instance of the statement whose body holds. -/
def Offers (X : Set GroundAtom) (s : Statement) (g : GroundAtom) : Prop :=
  ∃ r σ, s.rule? = some r ∧ r.BodyHolds X σ ∧ r.head.Offers X σ g ∧
    ∀ a ∈ r.premises, a.HoldsIn X σ

theorem respected_houses {n : Int} :
    (houses n).Respected X ↔ ∀ k, 1 ≤ k → k ≤ n → ⟨"house", [.number k]⟩ ∈ X := by
  constructor
  · intro h k hone hle
    exact h _ rfl (fun _ => .number 0) (by intro l hl; cases hl) _
      ⟨_, List.mem_singleton_self _, _, ⟨1, n, k, rfl, rfl, hone, hle, rfl⟩, rfl⟩
  · intro h r hr
    cases hr
    intro σ _ g hg
    obtain ⟨alt, halt, t, hdenotes, rfl⟩ := hg
    cases List.mem_singleton.1 halt
    obtain ⟨_, _, k, hfirst, hlast, hone, hle, rfl⟩ := hdenotes
    cases hfirst
    cases hlast
    exact h k hone hle

theorem respected_pool {terms : List Term} :
    (pool c terms).Respected X ↔ ∀ t ∈ terms, ⟨c, [t.symbol]⟩ ∈ X := by
  constructor
  · intro h t ht
    exact h _ rfl (fun _ => .number 0) (by intro l hl; cases hl) _
      ⟨.single t.expr, List.mem_map.2 ⟨t, ht, rfl⟩, t.symbol, rfl, rfl⟩
  · intro h r hr
    cases hr
    intro σ _ g hg
    obtain ⟨alt, halt, u, hdenotes, rfl⟩ := hg
    obtain ⟨t, ht, rfl⟩ := List.mem_map.1 halt
    cases hdenotes
    exact h t ht

/-- What is taken for a term are the houses that it is assigned to. -/
theorem taken_placeRule :
    (placeRule c).taken X σ = (fun y => ⟨"assign", [σ "A", y]⟩) ''
      {y | ⟨"house", [y]⟩ ∈ X ∧ ⟨"assign", [σ "A", y]⟩ ∈ X} := by
  ext g
  constructor
  · intro hg
    obtain ⟨τ, hagrees, hcondition, hground, hmem⟩ := hg
    have hA : τ "A" = σ "A" := hagrees "A" List.mem_cons_self
    have hhouse := hcondition (houseOf "H") List.mem_cons_self
    obtain rfl : ⟨"assign", [τ "A", τ "H"]⟩ = g := Option.some.inj hground
    rw [hA] at hmem ⊢
    exact ⟨τ "H", ⟨Asp.Atom.holdsIn_variable.1 hhouse, hmem⟩, rfl⟩
  · intro hg
    obtain ⟨y, ⟨hhouse, hassign⟩, rfl⟩ := hg
    refine ⟨fun z => if z = "H" then y else σ z, ?_, ?_, rfl, hassign⟩
    · intro z hz
      cases List.mem_singleton.1 hz
      rfl
    · intro a ha
      cases List.mem_singleton.1 ha
      exact Asp.Atom.holdsIn_variable.2 hhouse

theorem respected_placeEach :
    (placeEach c).Respected X ↔
      ∀ t, ⟨c, [t]⟩ ∈ X → ∃! y, ⟨"house", [y]⟩ ∈ X ∧ ⟨"assign", [t, y]⟩ ∈ X := by
  have hinjective : ∀ t : Symbol,
      Function.Injective fun y => (⟨"assign", [t, y]⟩ : GroundAtom) := by
    intro t y z h
    cases h
    rfl
  have hhead : ∀ σ, (placeRule c).HeadHolds X σ ↔
      ∃! y, ⟨"house", [y]⟩ ∈ X ∧ ⟨"assign", [σ "A", y]⟩ ∈ X := by
    intro σ
    rw [← encard_setOf_eq_one_iff, ← (hinjective (σ "A")).encard_image, ← taken_placeRule (c := c)]
    exact ⟨fun h => le_antisymm h.2 h.1, fun h => ⟨h.ge, h.le⟩⟩
  have hbody : ∀ σ, (placeRule c).BodyHolds X σ ↔ ⟨c, [σ "A"]⟩ ∈ X := by
    intro σ
    simp [Asp.Rule.BodyHolds, placeRule]
  constructor
  · intro h t ht
    exact (hhead fun _ => t).1 (h _ rfl (fun _ => t) ((hbody fun _ => t).2 ht))
  · intro h r hr
    cases hr
    intro σ hσ
    exact (hhead σ).2 (h _ ((hbody σ).1 hσ))

theorem respected_fillEach :
    (fillEach c).Respected X ↔
      ∀ y, ⟨"house", [y]⟩ ∈ X → ∃! t, ⟨"assign", [t, y]⟩ ∈ X ∧ ⟨c, [t]⟩ ∈ X := by
  have hbody : ∀ σ, (fillRule c).BodyHolds X σ ↔ ⟨"house", [σ "H"]⟩ ∈ X ∧
      ¬ ∃! t, ⟨"assign", [t, σ "H"]⟩ ∈ X ∧ ⟨c, [t]⟩ ∈ X := by
    intro σ
    have hcount : {t | ∃ τ, Valuation.Agrees (fillRule c).globals σ τ ∧
        (∀ a ∈ [(⟨"assign", [.variable "X", .variable "H"]⟩ : Asp.Atom), ⟨c, [.variable "X"]⟩],
          a.HoldsIn X τ) ∧ (Asp.Expr.variable "X").eval τ = some t} =
        {t | ⟨"assign", [t, σ "H"]⟩ ∈ X ∧ ⟨c, [t]⟩ ∈ X} := by
      ext t
      constructor
      · intro ht
        obtain ⟨τ, hagrees, hcondition, heval⟩ := ht
        have hH : τ "H" = σ "H" := hagrees "H" List.mem_cons_self
        cases heval
        rw [← hH]
        simpa using hcondition
      · intro ht
        refine ⟨fun z => if z = "X" then t else σ z, ?_, ?_, rfl⟩
        · intro z hz
          cases List.mem_singleton.1 hz
          rfl
        · simpa using ht
    rw [← encard_setOf_eq_one_iff, ← hcount]
    constructor
    · intro h
      exact ⟨Asp.Atom.holdsIn_variable.1 (h _ List.mem_cons_self),
        h _ (List.mem_cons_of_mem _ List.mem_cons_self)⟩
    · intro h l hl
      cases hl with
      | head => exact Asp.Atom.holdsIn_variable.2 h.1
      | tail _ hl =>
        cases List.mem_singleton.1 hl
        exact h.2
  constructor
  · intro h y hy
    by_contra hnot
    exact h _ rfl (fun _ => y) ((hbody fun _ => y).2 ⟨hy, hnot⟩)
  · intro h r hr
    cases hr
    intro σ hσ
    exact ((hbody σ).1 hσ).2 (h _ ((hbody σ).1 hσ).1)

theorem bodyHolds_neighbourRule {e : Asp.Expr} :
    (neighbourRule e).BodyHolds X σ ↔ ⟨"house", [σ "X"]⟩ ∈ X ∧ ⟨"house", [σ "Y"]⟩ ∈ X ∧
      e.eval σ = some (σ "X") := by
  simp [Asp.Rule.BodyHolds, neighbourRule, houseOf, Asp.Literal.Holds, Asp.Comparison.Relates]

theorem neighbour_rule? (side : Side) :
    ∃ e, (neighbour side).rule? = some (neighbourRule e) ∧
      ∀ σ, e.eval σ = some (σ "X") ↔ side.Beside (σ "X") (σ "Y") := by
  cases side with
  | left =>
    refine ⟨_, rfl, fun σ => ?_⟩
    simp [Asp.Expr.eval, Asp.Symbol.combine?_eq_some_iff, Side.Beside]
  | right =>
    refine ⟨_, rfl, fun σ => ?_⟩
    simp [Asp.Expr.eval, Asp.Symbol.combine?_eq_some_iff, Side.Beside]

theorem respected_neighbour {side : Side} :
    (neighbour side).Respected X ↔
      ∀ x y, ⟨"house", [x]⟩ ∈ X → ⟨"house", [y]⟩ ∈ X → side.Beside x y →
        ⟨"next_to", [x, y]⟩ ∈ X := by
  obtain ⟨e, hrule, he⟩ := neighbour_rule? side
  constructor
  · intro h x y hx hy hside
    let σ : Valuation := fun z => if z = "X" then x else y
    exact h _ hrule σ (bodyHolds_neighbourRule.2 ⟨hx, hy, (he σ).2 hside⟩) _ rfl
  · intro h r hr σ hσ
    cases hrule.symm.trans hr
    obtain ⟨hx, hy, heval⟩ := bodyHolds_neighbourRule.1 hσ
    intro g hg
    obtain rfl : ⟨"next_to", [σ "X", σ "Y"]⟩ = g := Option.some.inj hg
    exact h _ _ hx hy ((he σ).1 heval)

theorem respected_constraint {c : Constraint} :
    (constraint c).Respected X ↔ ∀ σ, ¬ ∀ l ∈ c.literals, l.Holds X
      (Asp.Rule.globals ⟨.none, c.literals⟩) σ := by
  constructor
  · intro h
    exact h _ rfl
  · intro h r hr
    cases hr
    exact h

theorem offers_houses {n : Int} (h : (houses n).Offers X g) :
    ∃ k, 1 ≤ k ∧ k ≤ n ∧ g = ⟨"house", [.number k]⟩ := by
  obtain ⟨r, σ, hr, _, hhead, _⟩ := h
  cases hr
  obtain ⟨alt, halt, t, hdenotes, rfl⟩ := hhead
  cases List.mem_singleton.1 halt
  obtain ⟨_, _, k, hfirst, hlast, hone, hle, rfl⟩ := hdenotes
  cases hfirst
  cases hlast
  exact ⟨k, hone, hle, rfl⟩

theorem offers_pool {terms : List Term} (h : (pool c terms).Offers X g) :
    ∃ t ∈ terms, g = ⟨c, [t.symbol]⟩ := by
  obtain ⟨r, σ, hr, _, hhead, _⟩ := h
  cases hr
  obtain ⟨alt, halt, u, hdenotes, rfl⟩ := hhead
  obtain ⟨t, ht, rfl⟩ := List.mem_map.1 halt
  cases hdenotes
  exact ⟨t, ht, rfl⟩

theorem offers_placeEach (h : (placeEach c).Offers X g) :
    ∃ t y, ⟨c, [t]⟩ ∈ X ∧ ⟨"house", [y]⟩ ∈ X ∧ g = ⟨"assign", [t, y]⟩ := by
  obtain ⟨r, σ, hr, hbody, hhead, hpremises⟩ := h
  cases hr
  have hhouse := hpremises (houseOf "H") List.mem_cons_self
  have hterm := hpremises ⟨c, [.variable "A"]⟩ (List.mem_cons_of_mem _ List.mem_cons_self)
  obtain rfl : ⟨"assign", [σ "A", σ "H"]⟩ = g := Option.some.inj hhead.1
  exact ⟨_, _, Asp.Atom.holdsIn_variable.1 hterm, Asp.Atom.holdsIn_variable.1 hhouse, rfl⟩

theorem offers_neighbour {side : Side} (h : (neighbour side).Offers X g) :
    ∃ x y, ⟨"house", [x]⟩ ∈ X ∧ ⟨"house", [y]⟩ ∈ X ∧ side.Beside x y ∧
      g = ⟨"next_to", [x, y]⟩ := by
  obtain ⟨e, hrule, he⟩ := neighbour_rule? side
  obtain ⟨r, σ, hr, hbody, hhead, _⟩ := h
  cases hrule.symm.trans hr
  obtain ⟨hx, hy, heval⟩ := bodyHolds_neighbourRule.1 hbody
  obtain rfl : ⟨"next_to", [σ "X", σ "Y"]⟩ = g := Option.some.inj hhead
  exact ⟨_, _, hx, hy, (he σ).1 heval, rfl⟩

theorem not_offers_fillEach : ¬ (fillEach c).Offers X g := by
  intro h
  obtain ⟨r, σ, hr, _, hhead, _⟩ := h
  cases hr
  exact hhead

theorem not_offers_constraint {c : Constraint} : ¬ (constraint c).Offers X g := by
  intro h
  obtain ⟨r, σ, hr, _, hhead, _⟩ := h
  cases hr
  exact hhead

/-- The premises need no more than to be founded atoms of the set. -/
theorem founded_of_premises {P : List Asp.Rule} {r : Asp.Rule} (σ : Valuation) (hmem : r ∈ P)
    (hbody : r.BodyHolds X σ) (hhead : r.head.Offers X σ g)
    (hpremises : ∀ a ∈ r.premises, ∃ h, a.ground σ = some h ∧ h ∈ X ∧ Founded P X h) :
    Founded P X g := by
  apply Founded.intro r σ g hmem hbody hhead
  · intro a ha
    obtain ⟨h, hground, hX, _⟩ := hpremises a ha
    exact (Asp.Atom.holdsIn_iff hground).2 hX
  · intro a ha h hh
    obtain ⟨k, hground, _, hfounded⟩ := hpremises a ha
    cases hground.symm.trans hh
    exact hfounded

section

variable {P : List Asp.Rule} {r : Asp.Rule}

theorem founded_houses {n k : Int} (hr : (houses n).rule? = some r) (hmem : r ∈ P)
    (hone : 1 ≤ k) (hle : k ≤ n) : Founded P X ⟨"house", [.number k]⟩ := by
  cases hr
  apply founded_of_premises (fun _ => .number 0) hmem
  · intro l hl
    cases hl
  · exact ⟨_, List.mem_singleton_self _, _, ⟨1, n, k, rfl, rfl, hone, hle, rfl⟩, rfl⟩
  · intro a ha
    cases ha

theorem founded_pool {terms : List Term} {t : Term} (hr : (pool c terms).rule? = some r)
    (hmem : r ∈ P) (ht : t ∈ terms) : Founded P X ⟨c, [t.symbol]⟩ := by
  cases hr
  apply founded_of_premises (fun _ => .number 0) hmem
  · intro l hl
    cases hl
  · exact ⟨.single t.expr, List.mem_map.2 ⟨t, ht, rfl⟩, t.symbol, rfl, rfl⟩
  · intro a ha
    cases ha

theorem founded_placeEach {t y : Symbol} (hr : (placeEach c).rule? = some r) (hmem : r ∈ P)
    (ht : ⟨c, [t]⟩ ∈ X) (hy : ⟨"house", [y]⟩ ∈ X) (hassign : ⟨"assign", [t, y]⟩ ∈ X)
    (hterm : Founded P X ⟨c, [t]⟩) (hhouse : Founded P X ⟨"house", [y]⟩) :
    Founded P X ⟨"assign", [t, y]⟩ := by
  cases hr
  let σ : Valuation := fun z => if z = "A" then t else y
  apply founded_of_premises σ hmem
  · intro l hl
    cases List.mem_singleton.1 hl
    exact Asp.Atom.holdsIn_variable.2 ht
  · exact ⟨rfl, hassign⟩
  · intro a ha
    cases ha with
    | head => exact ⟨_, rfl, hy, hhouse⟩
    | tail _ ha =>
      cases List.mem_singleton.1 ha
      exact ⟨_, rfl, ht, hterm⟩

theorem founded_neighbour {side : Side} {x y : Symbol} (hr : (neighbour side).rule? = some r)
    (hmem : r ∈ P) (hx : ⟨"house", [x]⟩ ∈ X) (hy : ⟨"house", [y]⟩ ∈ X) (hside : side.Beside x y)
    (hfx : Founded P X ⟨"house", [x]⟩) (hfy : Founded P X ⟨"house", [y]⟩) :
    Founded P X ⟨"next_to", [x, y]⟩ := by
  obtain ⟨e, hrule, he⟩ := neighbour_rule? side
  cases hrule.symm.trans hr
  let σ : Valuation := fun z => if z = "X" then x else y
  apply founded_of_premises σ hmem
  · exact bodyHolds_neighbourRule.2 ⟨hx, hy, (he σ).2 hside⟩
  · rfl
  · intro a ha
    cases ha with
    | head => exact ⟨_, rfl, hx, hfx⟩
    | tail _ ha =>
      cases List.mem_singleton.1 ha
      exact ⟨_, rfl, hy, hfy⟩

end

end Statement

end HousePuzzle
