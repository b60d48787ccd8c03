import HousePuzzle.Proofs.Compilation.Rules

/-! The program of a well-formed puzzle: that there is one, what it states, that it is readable. -/

namespace HousePuzzle

open Asp (GroundAtom Founded)

variable {X : Set GroundAtom} {p : Puzzle} {cs : List Constraint} {g : GroundAtom} {q : Program}

/-- The constraints that a puzzle compiles to hold where its rules do. -/
structure Puzzle.Constrains (p : Puzzle) (cs : List Constraint) : Prop where
  compiled : p.constraints = .ok cs
  readable : ∀ c ∈ cs, c.Readable
  respected : ∀ s X, p.Represents s X →
    ((∀ c ∈ cs, (Statement.constraint c).Respected X) ↔ ∀ r ∈ p.rules, r.Holds s)

theorem Rule.mapM_constraint? {rs : List Rule} (h : ∀ r ∈ rs, ∃ c, r.Constrains p c) :
    ∃ os, rs.mapM Rule.constraint? = .ok os ∧ (∀ c, some c ∈ os → c.Readable) ∧
      ∀ s X, p.Represents s X →
        ((∀ c, some c ∈ os → (Statement.constraint c).Respected X) ↔ ∀ r ∈ rs, r.Holds s) := by
  induction rs with
  | nil => exact ⟨[], rfl, by simp, by simp⟩
  | cons r rs ih =>
    obtain ⟨c, hc⟩ := h r List.mem_cons_self
    obtain ⟨os, hos, hread, hrespected⟩ := ih fun r hr => h r (List.mem_cons_of_mem _ hr)
    refine ⟨c :: os, ?_, ?_, ?_⟩
    · rw [List.mapM_cons, hc.compiled, hos]
      rfl
    · intro q hq
      cases List.mem_cons.1 hq with
      | inl hq => exact hc.readable q hq.symm
      | inr hq => exact hread q hq
    · intro s X hX
      rw [List.forall_mem_cons, ← hc.respected s X hX, ← hrespected s X hX]
      constructor
      · intro h
        exact ⟨fun q hq => h q (hq ▸ List.mem_cons_self),
          fun q hq => h q (List.mem_cons_of_mem _ hq)⟩
      · intro h q hq
        cases List.mem_cons.1 hq with
        | inl hq => exact h.1 q hq.symm
        | inr hq => exact h.2 q hq

/-- What the program of a puzzle states, apart from its layout. -/
inductive Puzzle.States (p : Puzzle) (cs : List Constraint) : Statement → Prop
  | houses : States p cs (.houses p.houses)
  | pool (e : String × List String) (he : e ∈ p.domains.domains) :
    States p cs (.pool e.1 (e.2.map .ofValue))
  | placeEach (e : String × List String) (he : e ∈ p.domains.domains) :
    States p cs (.placeEach e.1)
  | fillEach (e : String × List String) (he : e ∈ p.domains.domains) : States p cs (.fillEach e.1)
  | neighbour (side : Side) : States p cs (.neighbour side)
  | constraint (c : Constraint) (hc : c ∈ cs) : States p cs (.constraint c)

namespace Puzzle.WellFormed

theorem placed_eq (h : p.WellFormed) : p.placed = p.domains.domains := by
  apply List.filter_eq_self.2
  intro e he
  have hfree := h.free e he
  simp only [Name.reserved, List.mem_cons, not_or] at hfree
  simpa using hfree.2.2.2.1

theorem constrains (h : p.WellFormed) (hline : p.Unbroken)
    (hsides : ∀ r ∈ p.rules, ∀ side, Validation.SideFits p.houses p.domains (r.operand side)) :
    ∃ cs, p.Constrains cs := by
  obtain ⟨os, hos, hread, hrespected⟩ := Rule.mapM_constraint? (p := p) fun r hr =>
    Rule.exists_constrains h hline (hsides r hr)
  refine ⟨os.filterMap id, ?_, ?_, ?_⟩
  · rw [constraints, hos]
    rfl
  · intro c hc
    exact hread c (by simpa using hc)
  · intro s X hX
    rw [← hrespected s X hX]
    simp

end Puzzle.WellFormed

/-- The program of a puzzle whose constraints are given. -/
def Puzzle.programOf (p : Puzzle) (cs : List Constraint) : Program :=
  p.preamble ++ cs.map Statement.constraint ++ [Statement.blank, .showAssignments]

theorem Puzzle.Constrains.program_eq (h : p.Constrains cs) : p.program = .ok (p.programOf cs) := by
  rw [program, h.compiled]
  rfl

theorem Puzzle.Constrains.compile_eq (h : p.Constrains cs) :
    p.compile = .ok (p.programOf cs).render := by
  rw [compile, h.program_eq]
  rfl

namespace Puzzle.States

theorem mem (hw : p.WellFormed) {s : Statement} (h : p.States cs s) : s ∈ p.programOf cs := by
  rw [programOf, preamble, hw.placed_eq]
  simp only [List.mem_append, List.mem_map]
  cases h with
  | houses => simp
  | pool e he => simp [show ∃ vs, (e.1, vs) ∈ p.domains.domains ∧
      vs.map Term.ofValue = e.2.map Term.ofValue from ⟨e.2, he, rfl⟩]
  | placeEach e he => simp [show ∃ vs, (e.1, vs) ∈ p.domains.domains from ⟨e.2, he⟩]
  | fillEach e he => simp [show ∃ vs, (e.1, vs) ∈ p.domains.domains from ⟨e.2, he⟩]
  | neighbour side => cases side <;> simp
  | constraint c hc => simp [hc]

theorem of_mem (hw : p.WellFormed) {s : Statement} {r : Asp.Rule} (h : s ∈ p.programOf cs)
    (hr : s.rule? = some r) : p.States cs s := by
  rw [programOf, preamble, hw.placed_eq] at h
  cases s with
  | comment text => cases hr
  | blank => cases hr
  | showAssignments => cases hr
  | houses count =>
    obtain rfl : count = p.houses := by simpa using h
    exact .houses
  | pool category terms =>
    obtain ⟨c, vs, he, rfl, rfl⟩ : ∃ c vs, (c, vs) ∈ p.domains.domains ∧ c = category ∧
        vs.map Term.ofValue = terms := by simpa using h
    exact .pool (c, vs) he
  | placeEach category =>
    obtain ⟨vs, he⟩ : ∃ vs, (category, vs) ∈ p.domains.domains := by simpa using h
    exact .placeEach (category, vs) he
  | fillEach category =>
    obtain ⟨vs, he⟩ : ∃ vs, (category, vs) ∈ p.domains.domains := by simpa using h
    exact .fillEach (category, vs) he
  | neighbour side => exact .neighbour side
  | constraint c => exact .constraint c (by simpa using h)

end Puzzle.States

theorem Puzzle.mem_rules (hw : p.WellFormed) {r : Asp.Rule} :
    r ∈ (p.programOf cs).rules ↔ ∃ s, p.States cs s ∧ s.rule? = some r := by
  rw [Program.rules, List.mem_filterMap]
  constructor
  · intro h
    obtain ⟨s, hs, hr⟩ := h
    exact ⟨s, .of_mem hw hs hr, hr⟩
  · intro h
    obtain ⟨s, hs, hr⟩ := h
    exact ⟨s, hs.mem hw, hr⟩

theorem Program.filterMap_meaning : q.meaning.filterMap Asp.Statement.rule? = q.rules := by
  rw [meaning, rules, List.filterMap_filterMap]
  congr 1
  funext s
  cases s with
  | neighbour side => cases side <;> rfl
  | _ => rfl

theorem Program.display_mem_meaning {c : String} {n : Nat} :
    .display c n ∈ q.meaning ↔ .showAssignments ∈ q ∧ c = "assign" ∧ n = 2 := by
  rw [meaning, List.mem_filterMap]
  constructor
  · intro h
    obtain ⟨s, hs, hmeaning⟩ := h
    cases s with
    | showAssignments =>
      cases hmeaning
      exact ⟨hs, rfl, rfl⟩
    | neighbour side => cases side <;> cases hmeaning
    | _ => cases hmeaning
  · intro h
    exact ⟨.showAssignments, h.1, by rw [h.2.1, h.2.2]; rfl⟩

/-- What is shown is where values are assigned. -/
theorem Puzzle.displayed_programOf :
    Asp.displayed (p.programOf cs).meaning X =
      {g ∈ X | g.predicate = "assign" ∧ g.arguments.length = 2} := by
  have hshow : Statement.showAssignments ∈ p.programOf cs := by simp [programOf]
  have hsome : ¬ ∀ s ∈ (p.programOf cs).meaning, s.rule?.isSome = true := by
    intro h
    cases h _ (Program.display_mem_meaning.2 ⟨hshow, rfl, rfl⟩)
  ext g
  simp [Asp.displayed, Program.display_mem_meaning, hshow, hsome]

theorem Numeral.lineFeed_notMem_write {n : Int} (h : 0 ≤ n) : '\n' ∉ (write n).toList := by
  cases n with
  | negSucc n => exact absurd h (by omega)
  | ofNat n =>
    intro hmem
    rw [write, toList_writeNat] at hmem
    exact absurd ((digitsForm_toDigits n).2 _ hmem) (by decide)

theorem Puzzle.WellFormed.isCategory {e : String × List String} (hw : p.WellFormed)
    (hline : p.Unbroken) (he : e ∈ p.domains.domains) : Statement.IsCategory e.1 :=
  ⟨(hw.predicates e he).1.whole (hline e he).1, (hw.predicates e he).2⟩

theorem Puzzle.WellFormed.readable_comment {text : String} (hw : p.WellFormed)
    (h : .comment text ∈ p.programOf cs) : '\n' ∉ text.toList := by
  have hcount : '\n' ∉ (Numeral.write p.houses).toList :=
    Numeral.lineFeed_notMem_write (by have := hw.houses; omega)
  obtain ⟨texts, htexts, hfixed⟩ : ∃ texts : List String,
      (text = "Define houses numbered 1 through " ++ Numeral.write p.houses ++ "." ∨
        text ∈ texts) ∧ ∀ t ∈ texts, '\n' ∉ t.toList := by
    refine ⟨["Define the domains for each attribute.",
      "Each attribute is assigned to exactly one house.",
      "Each house gets exactly one attribute from each category.",
      "Define the next_to predicate for adjacency.", "Constraints for each rule."], ?_, by decide⟩
    simpa [programOf, preamble] using h
  cases htexts with
  | inl htext =>
    rw [htext, String.toList_append, String.toList_append, List.mem_append, List.mem_append]
    simpa using hcount
  | inr htext => exact hfixed text htext

theorem Puzzle.WellFormed.readable_programOf (hw : p.WellFormed) (hline : p.Unbroken)
    (hcs : ∀ c ∈ cs, c.Readable) : (p.programOf cs).Readable := by
  intro s hs
  cases hr : s.rule? with
  | some r =>
    cases States.of_mem hw hs hr with
    | houses =>
      have hone := hw.houses
      change 0 ≤ p.houses
      omega
    | pool e he =>
      refine ⟨hw.isCategory hline he, by simpa using hw.inhabited e he, ?_⟩
      intro t ht
      obtain ⟨v, hv, rfl⟩ := List.mem_map.1 ht
      exact hw.readable hline he hv
    | placeEach e he => exact hw.isCategory hline he
    | fillEach e he => exact hw.isCategory hline he
    | neighbour side => trivial
    | constraint c hc => exact hcs c hc
  | none =>
    cases s with
    | comment text => exact hw.readable_comment hs
    | blank => trivial
    | showAssignments => trivial
    | neighbour side => trivial
    | _ => cases hr

/-- What there is to a valid puzzle: its constraints, and a program that can be read. -/
theorem Puzzle.exists_constrains {report : Report} (h : p.validate = .ok report)
    (hvalid : report.isValid = true) (hline : p.Unbroken) :
    p.WellFormed ∧ ∃ cs, p.Constrains cs ∧ (p.programOf cs).Readable := by
  obtain ⟨hw, hsides⟩ := wellFormed_of_validate h hvalid
  obtain ⟨cs, hcs⟩ := hw.constrains hline hsides
  exact ⟨hw, cs, hcs, hw.readable_programOf hline hcs.readable⟩

end HousePuzzle
