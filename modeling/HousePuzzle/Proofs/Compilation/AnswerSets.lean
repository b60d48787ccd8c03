import HousePuzzle.Proofs.Compilation.Program
import HousePuzzle.Proofs.Compilation.Reading

/-!
The answer sets of the program of a puzzle, and that what they show are the solutions of the
puzzle.
-/

namespace HousePuzzle

open Asp (GroundAtom Symbol Founded IsAnswerSet)

variable {X : Set GroundAtom} {p : Puzzle} {cs : List Constraint} {g : GroundAtom}
  {s : String → Int}

/-- The atoms with which the program of a puzzle starts, and the only ones where values are
assigned. -/
structure Puzzle.Frames (p : Puzzle) (X : Set GroundAtom) : Prop where
  houses : ∀ y, ⟨"house", [y]⟩ ∈ X ↔ ∃ k ∈ HouseNumbers p.houses, y = .number k
  values : ∀ e ∈ p.domains.domains, ∀ t, ⟨e.1, [t]⟩ ∈ X ↔ ∃ v ∈ e.2, t = (Term.ofValue v).symbol
  neighbours : ∀ x y, ⟨"next_to", [x, y]⟩ ∈ X ↔
    ∃ h ∈ HouseNumbers p.houses, ∃ k ∈ HouseNumbers p.houses, (h - k).natAbs = 1 ∧
      x = .number h ∧ y = .number k
  assigned : ∀ t y, ⟨"assign", [t, y]⟩ ∈ X →
    ∃ e ∈ p.domains.domains, ∃ v ∈ e.2, ∃ k ∈ HouseNumbers p.houses,
      t = (Term.ofValue v).symbol ∧ y = .number k

theorem Puzzle.isAnswerSet_iff (hw : p.WellFormed) :
    IsAnswerSet (p.programOf cs).rules X ↔
      (∀ t, p.States cs t → t.Respected X) ∧ ∀ g ∈ X, Founded (p.programOf cs).rules X g := by
  constructor
  · intro h
    refine ⟨fun t ht r hr => ?_, h.founded⟩
    exact h.respected r ((mem_rules hw).2 ⟨t, ht, hr⟩)
  · intro h
    refine ⟨fun r hr => ?_, h.2⟩
    obtain ⟨t, ht, hrule⟩ := (mem_rules hw).1 hr
    exact h.1 t ht r hrule

theorem Puzzle.offers_of_founded (hw : p.WellFormed)
    (h : Founded (p.programOf cs).rules X g) : ∃ t, p.States cs t ∧ t.Offers X g := by
  cases h with
  | intro r σ g hr hbody hhead hpremises =>
    obtain ⟨t, ht, hrule⟩ := (mem_rules hw).1 hr
    exact ⟨t, ht, r, σ, hrule, hbody, hhead, hpremises⟩

/-- The atom is in a head of the program whose premises are in the set. -/
def Puzzle.Derives (p : Puzzle) (X : Set GroundAtom) (g : GroundAtom) : Prop :=
  (∃ k ∈ HouseNumbers p.houses, g = ⟨"house", [.number k]⟩) ∨
  (∃ e ∈ p.domains.domains, ∃ v ∈ e.2, g = ⟨e.1, [(Term.ofValue v).symbol]⟩) ∨
  (∃ e ∈ p.domains.domains, ∃ t y, ⟨e.1, [t]⟩ ∈ X ∧ ⟨"house", [y]⟩ ∈ X ∧
    g = ⟨"assign", [t, y]⟩) ∨
  ∃ side : Side, ∃ x y, ⟨"house", [x]⟩ ∈ X ∧ ⟨"house", [y]⟩ ∈ X ∧ side.Beside x y ∧
    g = ⟨"next_to", [x, y]⟩

theorem Puzzle.derives_of_mem (hw : p.WellFormed) (h : IsAnswerSet (p.programOf cs).rules X)
    (hg : g ∈ X) : p.Derives X g := by
  obtain ⟨t, ht, hoffer⟩ := offers_of_founded hw (h.founded g hg)
  cases ht with
  | houses =>
    obtain ⟨k, hone, hle, heq⟩ := Statement.offers_houses hoffer
    exact .inl ⟨k, ⟨hone, hle⟩, heq⟩
  | pool e he =>
    obtain ⟨u, hu, heq⟩ := Statement.offers_pool hoffer
    obtain ⟨v, hv, rfl⟩ := List.mem_map.1 hu
    exact .inr (.inl ⟨e, he, v, hv, heq⟩)
  | placeEach e he => exact .inr (.inr (.inl ⟨e, he, Statement.offers_placeEach hoffer⟩))
  | fillEach e he => exact absurd hoffer Statement.not_offers_fillEach
  | neighbour side => exact .inr (.inr (.inr ⟨side, Statement.offers_neighbour hoffer⟩))
  | constraint c hc => exact absurd hoffer Statement.not_offers_constraint

theorem Side.natAbs_of_beside {side : Side} {h k : Int}
    (hside : side.Beside (.number h) (.number k)) : (h - k).natAbs = 1 := by
  cases side with
  | left =>
    obtain ⟨n, hk, hh⟩ := hside
    cases hk
    cases hh
    omega
  | right =>
    obtain ⟨n, hk, hh⟩ := hside
    cases hk
    cases hh
    omega

theorem Side.exists_beside {h k : Int} (hdiff : (h - k).natAbs = 1) :
    ∃ side : Side, side.Beside (.number h) (.number k) := by
  by_cases hright : h = k + 1
  · exact ⟨.right, k, rfl, by rw [hright]⟩
  · have hleft : h = k - 1 := by omega
    exact ⟨.left, k, rfl, by rw [hleft]⟩

namespace Puzzle.WellFormed

/-- No category is a predicate of the program's own. -/
theorem value_ne {e : String × List String} {c : String} {ts us : List Symbol}
    (hw : p.WellFormed) (he : e ∈ p.domains.domains) (hc : c ∈ Name.reserved) :
    (⟨e.1, ts⟩ : GroundAtom) ≠ ⟨c, us⟩ := by
  intro h
  have hname : e.1 = c := congrArg GroundAtom.predicate h
  exact hw.free e he (hname ▸ hc)

theorem house_mem_iff (hw : p.WellFormed) (hderives : ∀ g ∈ X, p.Derives X g)
    (hhouses : ∀ k ∈ HouseNumbers p.houses, ⟨"house", [.number k]⟩ ∈ X) (y : Symbol) :
    ⟨"house", [y]⟩ ∈ X ↔ ∃ k ∈ HouseNumbers p.houses, y = .number k := by
  constructor
  · intro hy
    rcases hderives _ hy with ⟨k, hk, heq⟩ | ⟨e, he, v, _, heq⟩ | ⟨_, _, _, _, _, _, heq⟩ |
      ⟨_, _, _, _, _, _, heq⟩
    · exact ⟨k, hk, by simpa using heq⟩
    · exact absurd heq.symm (hw.value_ne he (by decide))
    · simp at heq
    · simp at heq
  · intro hy
    obtain ⟨k, hk, rfl⟩ := hy
    exact hhouses k hk

theorem value_mem_iff (hw : p.WellFormed) (hderives : ∀ g ∈ X, p.Derives X g)
    {e : String × List String} (he : e ∈ p.domains.domains)
    (hvalues : ∀ v ∈ e.2, ⟨e.1, [(Term.ofValue v).symbol]⟩ ∈ X) (t : Symbol) :
    ⟨e.1, [t]⟩ ∈ X ↔ ∃ v ∈ e.2, t = (Term.ofValue v).symbol := by
  constructor
  · intro ht
    rcases hderives _ ht with ⟨k, _, heq⟩ | ⟨f, hf, v, hv, heq⟩ | ⟨_, _, _, _, _, _, heq⟩ |
      ⟨_, _, _, _, _, _, heq⟩
    · exact absurd heq (hw.value_ne he (by decide))
    · simp only [GroundAtom.mk.injEq, List.cons.injEq, and_true] at heq
      obtain ⟨c, vs⟩ := e
      obtain ⟨d, ws⟩ := f
      obtain ⟨rfl, rfl⟩ := heq
      exact ⟨v, Registry.eq_of_mem he hf ▸ hv, rfl⟩
    · exact absurd heq (hw.value_ne he (by decide))
    · exact absurd heq (hw.value_ne he (by decide))
  · intro ht
    obtain ⟨v, hv, rfl⟩ := ht
    exact hvalues v hv

theorem frames_of_derives (hw : p.WellFormed) (hderives : ∀ g ∈ X, p.Derives X g)
    (hhouses : ∀ k ∈ HouseNumbers p.houses, ⟨"house", [.number k]⟩ ∈ X)
    (hvalues : ∀ e ∈ p.domains.domains, ∀ v ∈ e.2, ⟨e.1, [(Term.ofValue v).symbol]⟩ ∈ X)
    (hneighbours : ∀ j ∈ HouseNumbers p.houses, ∀ k ∈ HouseNumbers p.houses,
      (j - k).natAbs = 1 → ⟨"next_to", [.number j, .number k]⟩ ∈ X) : p.Frames X where
  houses := hw.house_mem_iff hderives hhouses
  values e he := hw.value_mem_iff hderives he (hvalues e he)
  neighbours := by
    intro x y
    constructor
    · intro hxy
      rcases hderives _ hxy with ⟨_, _, heq⟩ | ⟨e, he, _, _, heq⟩ | ⟨_, _, _, _, _, _, heq⟩ |
        ⟨side, x', y', hx, hy, hside, heq⟩
      · simp at heq
      · exact absurd heq.symm (hw.value_ne he (by decide))
      · simp at heq
      · cases heq
        obtain ⟨j, hj, rfl⟩ := (hw.house_mem_iff hderives hhouses _).1 hx
        obtain ⟨k, hk, rfl⟩ := (hw.house_mem_iff hderives hhouses _).1 hy
        exact ⟨j, hj, k, hk, Side.natAbs_of_beside hside, rfl, rfl⟩
    · intro hxy
      obtain ⟨j, hj, k, hk, hdiff, rfl, rfl⟩ := hxy
      exact hneighbours j hj k hk hdiff
  assigned := by
    intro t y hty
    rcases hderives _ hty with ⟨_, _, heq⟩ | ⟨e, he, _, _, heq⟩ | ⟨e, he, t', y', ht, hy, heq⟩ |
      ⟨_, _, _, _, _, _, heq⟩
    · simp at heq
    · exact absurd heq.symm (hw.value_ne he (by decide))
    · cases heq
      obtain ⟨v, hv, rfl⟩ := (hw.value_mem_iff hderives he (hvalues e he) _).1 ht
      obtain ⟨k, hk, rfl⟩ := (hw.house_mem_iff hderives hhouses _).1 hy
      exact ⟨e, he, v, hv, k, hk, rfl, rfl⟩
    · simp at heq

theorem frames (hw : p.WellFormed) (h : IsAnswerSet (p.programOf cs).rules X) : p.Frames X := by
  have hrespected := ((isAnswerSet_iff hw).1 h).1
  have hhouses : ∀ k ∈ HouseNumbers p.houses, ⟨"house", [.number k]⟩ ∈ X :=
    fun k hk => Statement.respected_houses.1 (hrespected _ .houses) k hk.1 hk.2
  apply hw.frames_of_derives (fun g => derives_of_mem hw h) hhouses
  · intro e he v hv
    exact Statement.respected_pool.1 (hrespected _ (.pool e he)) _ (List.mem_map.2 ⟨v, hv, rfl⟩)
  · intro j hj k hk hdiff
    obtain ⟨side, hside⟩ := Side.exists_beside hdiff
    exact Statement.respected_neighbour.1 (hrespected _ (.neighbour side)) _ _ (hhouses j hj)
      (hhouses k hk) hside

/-- The houses that an answer set assigns to the values. -/
theorem exists_represents (hw : p.WellFormed) (h : IsAnswerSet (p.programOf cs).rules X) :
    ∃ s, p.Represents s X := by
  have hframe := hw.frames h
  have hplace : ∀ e ∈ p.domains.domains, ∀ v ∈ e.2, ∃ k ∈ HouseNumbers p.houses,
      ∀ y, ⟨"assign", [(Term.ofValue v).symbol, y]⟩ ∈ X ↔ y = .number k := by
    intro e he v hv
    have hchoice := Statement.respected_placeEach.1
      (((isAnswerSet_iff hw).1 h).1 _ (.placeEach e he)) _ ((hframe.values e he _).2 ⟨v, hv, rfl⟩)
    obtain ⟨y, ⟨hhouse, hassign⟩, hunique⟩ := hchoice
    obtain ⟨k, hk, rfl⟩ := (hframe.houses y).1 hhouse
    refine ⟨k, hk, fun y => ⟨fun hy => ?_, fun hy => hy ▸ hassign⟩⟩
    obtain ⟨_, _, _, _, j, hj, _, rfl⟩ := hframe.assigned _ _ hy
    exact hunique _ ⟨(hframe.houses _).2 ⟨j, hj, rfl⟩, hy⟩
  have hvalue : ∀ v, ∃ k : Int, ∀ e ∈ p.domains.domains, v ∈ e.2 → k ∈ HouseNumbers p.houses ∧
      ∀ y, ⟨"assign", [(Term.ofValue v).symbol, y]⟩ ∈ X ↔ y = .number k := by
    intro v
    by_cases hv : ∃ e ∈ p.domains.domains, v ∈ e.2
    · obtain ⟨e, he, hv⟩ := hv
      obtain ⟨k, hk, hiff⟩ := hplace e he v hv
      exact ⟨k, fun _ _ _ => ⟨hk, hiff⟩⟩
    · exact ⟨0, fun e he hve => absurd ⟨e, he, hve⟩ hv⟩
  choose s hs using hvalue
  refine ⟨s, fun e he v hv => (hs v e he hv).1, fun t y => ⟨fun hty => ?_, fun hty => ?_⟩,
    hframe.neighbours⟩
  · obtain ⟨e, he, v, hv, k, _, rfl, _⟩ := hframe.assigned _ _ hty
    exact ⟨e, he, v, hv, rfl, ((hs v e he hv).2 y).1 hty⟩
  · obtain ⟨e, he, v, hv, rfl, rfl⟩ := hty
    exact ((hs v e he hv).2 _).2 rfl

theorem bijOn_of_represents (hw : p.WellFormed) (h : IsAnswerSet (p.programOf cs).rules X)
    (hX : p.Represents s X) {e : String × List String} (he : e ∈ p.domains.domains) :
    Set.BijOn s {v | v ∈ e.2} (HouseNumbers p.houses) := by
  have hframe := hw.frames h
  have hfill : ∀ k ∈ HouseNumbers p.houses,
      ∃! t, ⟨"assign", [t, .number k]⟩ ∈ X ∧ ⟨e.1, [t]⟩ ∈ X :=
    fun k hk => Statement.respected_fillEach.1
      (((isAnswerSet_iff hw).1 h).1 _ (.fillEach e he)) _ ((hframe.houses _).2 ⟨k, hk, rfl⟩)
  have hvalue : ∀ v ∈ e.2, ⟨"assign", [(Term.ofValue v).symbol, .number (s v)]⟩ ∈ X ∧
      ⟨e.1, [(Term.ofValue v).symbol]⟩ ∈ X :=
    fun v hv => ⟨(hX.assigned_value he hv).2 rfl, (hframe.values e he _).2 ⟨v, hv, rfl⟩⟩
  refine ⟨hX.range e he, ?_, ?_⟩
  · intro v hv w hw' heq
    have hw'' := hvalue w hw'
    rw [← heq] at hw''
    exact Term.symbol_ofValue_inj.1 ((hfill (s v) (hX.range e he v hv)).unique (hvalue v hv) hw'')
  · intro k hk
    obtain ⟨t, ⟨hassign, hmem⟩, _⟩ := hfill k hk
    obtain ⟨v, hv, rfl⟩ := (hframe.values e he t).1 hmem
    refine ⟨v, hv, ?_⟩
    simpa using ((hX.assigned_value he hv).1 hassign).symm

/-- An answer set gives a solution. -/
theorem solves_of_answerSet (hw : p.WellFormed) (hcs : p.Constrains cs)
    (h : IsAnswerSet (p.programOf cs).rules X) : ∃ s, p.Solves s ∧ p.Represents s X := by
  obtain ⟨s, hX⟩ := hw.exists_represents h
  have hconstraints : ∀ c ∈ cs, (Statement.constraint c).Respected X :=
    fun c hc => ((isAnswerSet_iff hw).1 h).1 _ (.constraint c hc)
  exact ⟨s, ⟨fun e he => hw.bijOn_of_represents h hX he, (hcs.respected s X hX).1 hconstraints⟩, hX⟩

end Puzzle.WellFormed

/-- The atoms of the program in which each value is in its house of a solution. -/
def Puzzle.world (p : Puzzle) (s : String → Int) : Set GroundAtom :=
  {g | (∃ k ∈ HouseNumbers p.houses, g = ⟨"house", [.number k]⟩) ∨
    (∃ e ∈ p.domains.domains, ∃ v ∈ e.2, g = ⟨e.1, [(Term.ofValue v).symbol]⟩) ∨
    (∃ e ∈ p.domains.domains, ∃ v ∈ e.2,
      g = ⟨"assign", [(Term.ofValue v).symbol, .number (s v)]⟩) ∨
    ∃ j ∈ HouseNumbers p.houses, ∃ k ∈ HouseNumbers p.houses, (j - k).natAbs = 1 ∧
      g = ⟨"next_to", [.number j, .number k]⟩}

theorem Puzzle.derives_world
    (hs : ∀ e ∈ p.domains.domains, ∀ v ∈ e.2, s v ∈ HouseNumbers p.houses)
    (hg : g ∈ p.world s) : p.Derives (p.world s) g := by
  rcases hg with hg | hg | ⟨e, he, v, hv, rfl⟩ | ⟨j, hj, k, hk, hdiff, rfl⟩
  · exact .inl hg
  · exact .inr (.inl hg)
  · exact .inr (.inr (.inl ⟨e, he, _, _, .inr (.inl ⟨e, he, v, hv, rfl⟩),
      .inl ⟨s v, hs e he v hv, rfl⟩, rfl⟩))
  · obtain ⟨side, hside⟩ := Side.exists_beside hdiff
    exact .inr (.inr (.inr ⟨side, _, _, .inl ⟨j, hj, rfl⟩, .inl ⟨k, hk, rfl⟩, hside, rfl⟩))

theorem Puzzle.respected_of_solves (hcs : p.Constrains cs) (hs : p.Solves s) (hframe : p.Frames X)
    (hX : p.Represents s X) {t : Statement} (ht : p.States cs t) : t.Respected X := by
  cases ht with
  | houses =>
    apply Statement.respected_houses.2
    intro k hone hle
    exact (hframe.houses _).2 ⟨k, ⟨hone, hle⟩, rfl⟩
  | pool e he =>
    apply Statement.respected_pool.2
    intro t ht
    obtain ⟨v, hv, rfl⟩ := List.mem_map.1 ht
    exact (hframe.values e he _).2 ⟨v, hv, rfl⟩
  | placeEach e he =>
    apply Statement.respected_placeEach.2
    intro t ht
    obtain ⟨v, hv, rfl⟩ := (hframe.values e he t).1 ht
    refine ⟨.number (s v), ⟨(hframe.houses _).2 ⟨s v, hX.range e he v hv, rfl⟩,
      (hX.assigned_value he hv).2 rfl⟩, ?_⟩
    intro y hy
    exact (hX.assigned_value he hv).1 hy.2
  | fillEach e he =>
    apply Statement.respected_fillEach.2
    intro y hy
    obtain ⟨k, hk, rfl⟩ := (hframe.houses y).1 hy
    obtain ⟨v, hv, rfl⟩ := (hs.bijective e he).surjOn hk
    refine ⟨(Term.ofValue v).symbol, ⟨(hX.assigned_value he hv).2 rfl,
      (hframe.values e he _).2 ⟨v, hv, rfl⟩⟩, ?_⟩
    intro t ht
    obtain ⟨w, hw', rfl⟩ := (hframe.values e he t).1 ht.2
    have heq : Symbol.number (s v) = .number (s w) := (hX.assigned_value he hw').1 ht.1
    rw [(hs.bijective e he).injOn hv hw' (Symbol.number.inj heq)]
  | neighbour side =>
    apply Statement.respected_neighbour.2
    intro x y hx hy hside
    obtain ⟨j, hj, rfl⟩ := (hframe.houses x).1 hx
    obtain ⟨k, hk, rfl⟩ := (hframe.houses y).1 hy
    exact (hframe.neighbours _ _).2 ⟨j, hj, k, hk, Side.natAbs_of_beside hside, rfl, rfl⟩
  | constraint c hc => exact (hcs.respected s X hX).2 hs.rules c hc

namespace Puzzle.WellFormed

theorem frames_world (hw : p.WellFormed)
    (hs : ∀ e ∈ p.domains.domains, ∀ v ∈ e.2, s v ∈ HouseNumbers p.houses) :
    p.Frames (p.world s) := by
  apply hw.frames_of_derives fun g => derives_world hs
  · intro k hk
    exact .inl ⟨k, hk, rfl⟩
  · intro e he v hv
    exact .inr (.inl ⟨e, he, v, hv, rfl⟩)
  · intro j hj k hk hdiff
    exact .inr (.inr (.inr ⟨j, hj, k, hk, hdiff, rfl⟩))

theorem represents_world (hw : p.WellFormed)
    (hs : ∀ e ∈ p.domains.domains, ∀ v ∈ e.2, s v ∈ HouseNumbers p.houses) :
    p.Represents s (p.world s) where
  range := hs
  neighbours := (hw.frames_world hs).neighbours
  assigned := by
    intro t y
    constructor
    · intro hty
      rcases hty with ⟨_, _, heq⟩ | ⟨e, he, _, _, heq⟩ | ⟨e, he, v, hv, heq⟩ | ⟨_, _, _, _, _, heq⟩
      · simp at heq
      · exact absurd heq.symm (hw.value_ne he (by decide))
      · cases heq
        exact ⟨e, he, v, hv, rfl, rfl⟩
      · simp at heq
    · intro hty
      obtain ⟨e, he, v, hv, rfl, rfl⟩ := hty
      exact .inr (.inr (.inl ⟨e, he, v, hv, rfl⟩))

theorem founded_world (hw : p.WellFormed)
    (hs : ∀ e ∈ p.domains.domains, ∀ v ∈ e.2, s v ∈ HouseNumbers p.houses)
    (hg : g ∈ p.world s) : Founded (p.programOf cs).rules (p.world s) g := by
  have hhouse : ∀ k ∈ HouseNumbers p.houses,
      Founded (p.programOf cs).rules (p.world s) ⟨"house", [.number k]⟩ :=
    fun k hk => Statement.founded_houses rfl ((mem_rules hw).2 ⟨_, .houses, rfl⟩) hk.1 hk.2
  have hvalue : ∀ e ∈ p.domains.domains, ∀ v ∈ e.2,
      Founded (p.programOf cs).rules (p.world s) ⟨e.1, [(Term.ofValue v).symbol]⟩ :=
    fun e he v hv => Statement.founded_pool rfl ((mem_rules hw).2 ⟨_, .pool e he, rfl⟩)
      (List.mem_map.2 ⟨v, hv, rfl⟩)
  rcases id hg with ⟨k, hk, rfl⟩ | ⟨e, he, v, hv, rfl⟩ | ⟨e, he, v, hv, rfl⟩ |
    ⟨j, hj, k, hk, hdiff, rfl⟩
  · exact hhouse k hk
  · exact hvalue e he v hv
  · exact Statement.founded_placeEach rfl ((mem_rules hw).2 ⟨_, .placeEach e he, rfl⟩)
      (.inr (.inl ⟨e, he, v, hv, rfl⟩)) (.inl ⟨s v, hs e he v hv, rfl⟩) hg (hvalue e he v hv)
      (hhouse _ (hs e he v hv))
  · obtain ⟨side, hside⟩ := Side.exists_beside hdiff
    obtain ⟨e, hrule, _⟩ := Statement.neighbour_rule? side
    exact Statement.founded_neighbour hrule ((mem_rules hw).2 ⟨_, .neighbour side, hrule⟩)
      (.inl ⟨j, hj, rfl⟩) (.inl ⟨k, hk, rfl⟩) hside (hhouse j hj) (hhouse k hk)

/-- A solution gives an answer set. -/
theorem answerSet_of_solves (hw : p.WellFormed) (hcs : p.Constrains cs) (hs : p.Solves s) :
    IsAnswerSet (p.programOf cs).rules (p.world s) ∧ p.Represents s (p.world s) := by
  have hrange : ∀ e ∈ p.domains.domains, ∀ v ∈ e.2, s v ∈ HouseNumbers p.houses :=
    fun e he v hv => (hs.bijective e he).mapsTo hv
  have hX := hw.represents_world hrange
  refine ⟨(isAnswerSet_iff hw).2 ⟨fun t ht => ?_, fun g hg => hw.founded_world hrange hg⟩, hX⟩
  exact Puzzle.respected_of_solves hcs hs (hw.frames_world hrange) hX ht

end Puzzle.WellFormed

/-- The assignments of all values, each by the symbol that its term is read as. -/
def Puzzle.placement (p : Puzzle) (s : String → Int) : Set GroundAtom :=
  {g | ∃ e ∈ p.domains.domains, ∃ v ∈ e.2, ∃ t,
    Asp.tokens (Term.ofValue v).render = some [.symbol t] ∧ g = ⟨"assign", [t, .number (s v)]⟩}

theorem Puzzle.mem_placement_iff (hw : p.WellFormed) (hline : p.Unbroken) :
    g ∈ p.placement s ↔ ∃ e ∈ p.domains.domains, ∃ v ∈ e.2,
      g = ⟨"assign", [(Term.ofValue v).symbol, .number (s v)]⟩ := by
  constructor
  · intro hg
    obtain ⟨e, he, v, hv, t, ht, rfl⟩ := hg
    rw [Term.tokens_render (hw.readable hline he hv)] at ht
    cases ht
    exact ⟨e, he, v, hv, rfl⟩
  · intro hg
    obtain ⟨e, he, v, hv, rfl⟩ := hg
    exact ⟨e, he, v, hv, _, Term.tokens_render (hw.readable hline he hv), rfl⟩

theorem Puzzle.displayed_eq_placement (hw : p.WellFormed) (hline : p.Unbroken)
    (hX : p.Represents s X) : Asp.displayed (p.programOf cs).meaning X = p.placement s := by
  rw [displayed_programOf]
  ext g
  rw [mem_placement_iff hw hline]
  constructor
  · intro hg
    obtain ⟨c, us⟩ := g
    obtain ⟨hmem, hassign, hlength⟩ := hg
    obtain ⟨t, y, rfl⟩ := List.length_eq_two.1 hlength
    obtain rfl : c = "assign" := hassign
    obtain ⟨e, he, v, hv, rfl, rfl⟩ := (hX.assigned t y).1 hmem
    exact ⟨e, he, v, hv, rfl⟩
  · intro hg
    obtain ⟨e, he, v, hv, rfl⟩ := hg
    exact ⟨(hX.assigned_value he hv).2 rfl, rfl, rfl⟩

/-- Valid puzzles compile, and what their programs admit are their solutions. -/
theorem Puzzle.admits_compile_iff {report : Report} (h : p.validate = .ok report)
    (hvalid : report.isValid = true) (hline : p.Unbroken) :
    ∃ text P, p.compile = .ok text ∧ Asp.read text = some P ∧
      ∀ V, Asp.Admits P V ↔ ∃ s, p.Solves s ∧ V = p.placement s := by
  obtain ⟨hw, hsides⟩ := wellFormed_of_validate h hvalid
  obtain ⟨cs, hcs⟩ := hw.constrains hline hsides
  refine ⟨(p.programOf cs).render, (p.programOf cs).meaning, ?_, ?_, fun V => ?_⟩
  · rw [compile, hcs.program_eq]
    rfl
  · exact Program.read_render (hw.readable_programOf hline hcs.readable)
  · rw [Asp.Admits, Program.filterMap_meaning]
    constructor
    · intro hV
      obtain ⟨X, hX, rfl⟩ := hV
      obtain ⟨s, hs, hrep⟩ := hw.solves_of_answerSet hcs hX
      exact ⟨s, hs, displayed_eq_placement hw hline hrep⟩
    · intro hV
      obtain ⟨s, hs, rfl⟩ := hV
      obtain ⟨hX, hrep⟩ := hw.answerSet_of_solves hcs hs
      exact ⟨_, hX, (displayed_eq_placement hw hline hrep).symm⟩

theorem Puzzle.admits_compile_iff_twoHouses :
    (∃ report, twoHouses.validate = .ok report ∧ report.isValid = true ∧ twoHouses.Unbroken) ∧
    ∃ text P, twoHouses.compile = .ok text ∧ Asp.read text = some P ∧
      ∀ V, Asp.Admits P V ↔ ∃ s, twoHouses.Solves s ∧ V = twoHouses.placement s :=
  ⟨⟨_, rfl, rfl, by decide⟩, admits_compile_iff rfl rfl (by decide)⟩

end HousePuzzle
