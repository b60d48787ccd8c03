import HousePuzzle.Proofs.Compilation.Program
import HousePuzzle.Proofs.Session
import HousePuzzle.Proofs.Text.Blank
import HousePuzzle.Proofs.Traversal

/-!
The lines of a program. Where no name ends in a line feed, every statement is a line of its own
and every name keeps to its place in it.
-/

namespace HousePuzzle

variable {p : Puzzle} {cs : List Constraint}

/-- The lines of a text each of which is ended by one line feed. -/
structure IsLines (lines : List String) (text : String) : Prop where
  unbroken : ∀ l ∈ lines, '\n' ∉ l.toList
  joined : text = String.join (lines.map (· ++ "\n"))

theorem Name.ValueForm.lineFeed_notMem {cs : List Char} (h : ValueForm cs) : '\n' ∉ cs :=
  fun hmem => absurd (h.2 _ hmem) (by decide)

theorem Term.Readable.lineFeed_notMem {t : Term} (h : t.Readable) : '\n' ∉ t.render.toList := by
  cases t with
  | plain text =>
    cases h with
    | inl h => exact h.1.valueForm.lineFeed_notMem
    | inr h => exact (Name.digitsForm_of_isNumeralForm h).valueForm.lineFeed_notMem
  | quoted text =>
    have htext : '\n' ∉ text.toList := fun hmem => absurd (h _ hmem) (by decide)
    simpa [render] using htext

theorem Place.Readable.lineFeed_notMem {l : Place} {x : String} (h : l.Readable)
    (hx : '\n' ∉ x.toList) :
    '\n' ∉ (l.binding x).toList ∧ '\n' ∉ (l.render x).toList := by
  cases l with
  | ofTerm t =>
    have ht : '\n' ∉ t.render.toList := Term.Readable.lineFeed_notMem h
    exact ⟨by simp [binding, Term.assigned, ht, hx], hx⟩
  | house n => exact ⟨by simp [binding], Numeral.lineFeed_notMem_write h⟩

theorem Relation.lineFeed_notMem_violation {relation : Relation} {l r : String}
    (hl : '\n' ∉ l.toList) (hr : '\n' ∉ r.toList) :
    '\n' ∉ (relation.violation l r).toList := by
  cases relation with
  | adjacent => simp [violation_adjacent, hl, hr]
  | rightOf => simp [violation_rightOf, hl, hr]
  | leftOf => simp [violation_leftOf, hl, hr]

theorem Constraint.Readable.lineFeed_notMem {c : Constraint} (h : c.Readable) :
    '\n' ∉ c.render.toList := by
  cases c with
  | together l r =>
    have hl : '\n' ∉ l.render.toList := h.1.lineFeed_notMem
    have hr : '\n' ∉ r.render.toList := h.2.lineFeed_notMem
    simp [render, Term.assigned, hl, hr]
  | «at» t n =>
    have ht : '\n' ∉ t.render.toList := h.1.lineFeed_notMem
    have hn : '\n' ∉ (Numeral.write n).toList := Numeral.lineFeed_notMem_write h.2
    simp [render, Term.assigned, ht, hn]
  | related relation l r =>
    obtain ⟨hlb, hl⟩ := h.1.lineFeed_notMem (x := "H1") (by decide)
    obtain ⟨hrb, hr⟩ := h.2.lineFeed_notMem (x := "H2") (by decide)
    have hv := relation.lineFeed_notMem_violation hl hr
    simp [render, hlb, hrb, hv]

namespace Statement

theorem IsCategory.lineFeed_notMem {c : String} (h : IsCategory c) : '\n' ∉ c.toList :=
  h.1.valueForm.lineFeed_notMem

theorem lineFeed_notMem_terms {terms : List Term} (h : ∀ t ∈ terms, t.Readable) :
    '\n' ∉ ("; ".intercalate (terms.map Term.render)).toList := by
  induction terms with
  | nil => simp
  | cons t terms ih =>
    have ht : '\n' ∉ t.render.toList := (h t List.mem_cons_self).lineFeed_notMem
    have htail := ih fun u hu => h u (List.mem_cons_of_mem _ hu)
    cases terms with
    | nil => simpa using ht
    | cons u terms =>
      rw [List.map_cons, List.map_cons, String.intercalate_cons_cons, ← List.map_cons]
      simp only [String.toList_append, List.mem_append, not_or]
      exact ⟨⟨ht, by decide⟩, htail⟩

/-- The text of a statement stays on its line. -/
theorem Readable.lineFeed_notMem {s : Statement} (h : s.Readable) : '\n' ∉ s.render.toList := by
  cases s with
  | comment text =>
    have hline : (comment text).render = "% " ++ text := rfl
    have htext : '\n' ∉ text.toList := h
    simp [hline, htext]
  | blank => exact List.not_mem_nil
  | houses count =>
    have hline : (houses count).render = "house(1.." ++ Numeral.write count ++ ")." := rfl
    have hcount : '\n' ∉ (Numeral.write count).toList := Numeral.lineFeed_notMem_write h
    simp [hline, hcount]
  | pool category terms =>
    have hline : (pool category terms).render =
        category ++ "(" ++ "; ".intercalate (terms.map Term.render) ++ ")." := rfl
    have hterms := lineFeed_notMem_terms h.2.2
    simp only [hline, String.toList_append, List.mem_append, not_or]
    exact ⟨⟨⟨h.1.lineFeed_notMem, by decide⟩, hterms⟩, by decide⟩
  | placeEach category =>
    have hline : (placeEach category).render =
        "1 \x7b assign(A, H) : house(H) \x7d 1 :- " ++ category ++ "(A)." := rfl
    simp only [hline, String.toList_append, List.mem_append, not_or]
    exact ⟨⟨by decide, IsCategory.lineFeed_notMem h⟩, by decide⟩
  | fillEach category =>
    have hline : (fillEach category).render =
        ":- house(H), #count \x7b X : assign(X, H), " ++ category ++ "(X) \x7d != 1." := rfl
    simp only [hline, String.toList_append, List.mem_append, not_or]
    exact ⟨⟨by decide, IsCategory.lineFeed_notMem h⟩, by decide⟩
  | neighbour side => cases side <;> decide
  | constraint c => exact Constraint.Readable.lineFeed_notMem h
  | showAssignments => decide

end Statement

theorem Program.Readable.isLines {q : Program} (h : q.Readable) :
    IsLines (q.map Statement.render) q.render where
  unbroken := by
    intro l hl
    obtain ⟨s, hs, rfl⟩ := List.mem_map.1 hl
    exact (h s hs).lineFeed_notMem
  joined := by rw [render, List.map_map]; rfl

namespace Rule

variable {r : Rule} {c : Option Constraint}

theorem isSome_of_related {relation : Relation} (h : r.related relation = .ok c) :
    c.isSome = true := by
  unfold related at h
  cases hl : r.left.place with
  | error e => simp [hl, bind, Except.bind] at h
  | ok left =>
    cases hr : r.right.place with
    | error e => simp [hl, hr, bind, Except.bind] at h
    | ok right =>
      rw [hl, hr] at h
      cases h
      rfl

/-- Void rules have no constraint and all others have one. -/
theorem isSome_of_constraint? (h : r.constraint? = .ok c) : c.isSome = !r.isVoid := by
  have hrelated : ∀ relation, r.operator ≠ .same → r.related relation = .ok c →
      c.isSome = !r.isVoid := by
    intro relation hop hc
    rw [isSome_of_related hc]
    simp [isVoid, hop]
  unfold constraint? at h
  split at h
  · next hop =>
    split at h
    · next hl hr =>
      cases h
      simp [isVoid, hop, hl, hr]
    · next hl hr =>
      obtain ⟨n, _, rfl⟩ := Except.map_eq_ok_iff.1 h
      simp [isVoid, hr]
    · next hl hr =>
      obtain ⟨n, _, rfl⟩ := Except.map_eq_ok_iff.1 h
      simp [isVoid, hl]
    · next hl hr =>
      cases h
      simp [isVoid, hl]
  · next hop => exact hrelated _ (by simp [hop]) h
  · next hop => exact hrelated _ (by simp [hop]) h
  · next hop => exact hrelated _ (by simp [hop]) h

end Rule

theorem Rule.forall₂_constraints {rs : List Rule} {os : List (Option Constraint)}
    (h : List.Forall₂ (fun r o => r.constraint? = .ok o) rs os) :
    List.Forall₂ (fun r c => r.constraint? = .ok (some c)) (rs.filter (!·.isVoid))
      (os.filterMap id) := by
  induction h with
  | nil => exact .nil
  | @cons r o rs os hr _ ih =>
    have hvoid := isSome_of_constraint? hr
    cases o with
    | none =>
      rw [List.filter_cons_of_neg (by simpa using hvoid)]
      exact ih
    | some c =>
      rw [List.filter_cons_of_pos (by simpa using hvoid.symm)]
      exact .cons hr ih

namespace Puzzle

/-- The constraints are those of the rules that are not void, in their order. -/
theorem forall₂_constraints (h : p.constraints = .ok cs) :
    List.Forall₂ (fun r c => r.constraint? = .ok (some c)) (p.rules.filter (!·.isVoid)) cs := by
  obtain ⟨os, hos, rfl⟩ := Except.map_eq_ok_iff.1 h
  exact Rule.forall₂_constraints (mapM_eq_ok_iff.1 hos)

theorem length_constraints (h : p.constraints = .ok cs) :
    cs.length = (p.rules.filter (!·.isVoid)).length :=
  (forall₂_constraints h).length_eq.symm

theorem length_programOf (hw : p.WellFormed) :
    (p.programOf cs).length = 16 + 3 * p.domains.domains.length + cs.length := by
  simp only [programOf, preamble, hw.placed_eq, List.length_append, List.length_map,
    List.length_cons, List.length_nil]
  omega

/-- Every name keeps to its place in the program: it has the form of its kind over its whole
length, a category is none of the words that the program has for itself, and the program has no
lines but those of its statements. -/
structure Confined (p : Puzzle) (program : String) : Prop where
  categories : ∀ e ∈ p.domains.domains, Name.ConstantForm e.1.toList
  values : ∀ e ∈ p.domains.domains, ∀ v ∈ e.2, Name.ValueForm v.toList
  free : ∀ e ∈ p.domains.domains, Text.trim e.1 ∉ Name.negation :: Name.reserved
  lines : ∃ lines, IsLines lines program ∧
    lines.length = 16 + 3 * p.domains.domains.length + (p.rules.filter (!·.isVoid)).length

theorem WellFormed.trim_notMem (hw : p.WellFormed) {e : String × List String}
    (he : e ∈ p.domains.domains) (hform : Name.ConstantForm e.1.toList) :
    Text.trim e.1 ∉ Name.negation :: Name.reserved := by
  have hblank : ∀ c ∈ e.1.toList, Text.isBlank c = false :=
    fun c hc => Numeral.isBlank_of_isWordChar (hform.valueForm.2 c hc)
  rw [Text.trim_eq_self_iff.2 (Text.isTrimmed_of_forall hblank), List.mem_cons, not_or]
  exact ⟨(hw.predicates e he).2, hw.free e he⟩

theorem WellFormed.confined (hw : p.WellFormed) (hline : p.Unbroken)
    (hsides : ∀ r ∈ p.rules, ∀ side, Validation.SideFits p.houses p.domains (r.operand side))
    {program : String} (hprogram : p.compile = .ok program) : p.Confined program where
  categories e he := (hw.predicates e he).1.whole (hline e he).1
  values e he v hv := (hw.values e he v hv).1.whole ((hline e he).2 v hv)
  free e he := hw.trim_notMem he ((hw.predicates e he).1.whole (hline e he).1)
  lines := by
    obtain ⟨cs, hcs⟩ := hw.constrains hline hsides
    obtain rfl : (p.programOf cs).render = program := by
      rw [compile, hcs.program_eq] at hprogram
      exact Except.ok.inj hprogram
    refine ⟨_, (hw.readable_programOf hline hcs.readable).isLines, ?_⟩
    rw [List.length_map, length_programOf hw, length_constraints hcs.compiled]

/-- A name with its whole form does not end in a line feed. -/
theorem Confined.unbroken {program : String} (h : p.Confined program) : p.Unbroken := by
  have hend : ∀ s : String, Name.ValueForm s.toList → ¬ Name.EndsInLine s :=
    fun s hs hend => hs.lineFeed_notMem (List.mem_of_mem_getLast? hend)
  exact fun e he => ⟨hend _ (h.categories e he).valueForm, fun v hv => hend v (h.values e he v hv)⟩

/-- In a program that is given out every name has its form, but for a line feed at its end; where
no name has one, and only there, all names keep to their places. -/
theorem confined_iff_unbroken {prepared : Prepared} (h : p.prepare = .ok prepared) :
    (∀ e ∈ p.domains.domains, Name.Fits Name.ConstantForm e.1 ∧
      ∀ v ∈ e.2, Name.Fits Name.ValueForm v) ∧
    (p.Confined prepared.program ↔ p.Unbroken) := by
  obtain ⟨hvalidate, hvalid, hcompile⟩ := Session.prepare_eq_ok_iff.1 h
  obtain ⟨hw, hsides⟩ := wellFormed_of_validate hvalidate hvalid
  refine ⟨fun e he => ⟨(hw.predicates e he).1, fun v hv => (hw.values e he v hv).1⟩, ?_⟩
  exact ⟨Confined.unbroken, fun hline => hw.confined hline hsides hcompile⟩

theorem confined_iff_unbroken_twoHouses :
    ∃ prepared, twoHouses.prepare = .ok prepared ∧
      (∀ e ∈ twoHouses.domains.domains, Name.Fits Name.ConstantForm e.1 ∧
        ∀ v ∈ e.2, Name.Fits Name.ValueForm v) ∧
      (twoHouses.Confined prepared.program ↔ twoHouses.Unbroken) :=
  ⟨_, rfl, confined_iff_unbroken rfl⟩

/-- One house and a category that is the word for negation with a line feed behind it. -/
def negatedHouse : Puzzle where
  houses := 1
  domains := .ofPairs [("not\n", ["a"])]
  rules := []

/-- Such a puzzle is accepted. -/
theorem not_confined_negatedHouse :
    ∃ prepared, negatedHouse.prepare = .ok prepared ∧ ("not\n", ["a"]) ∈ negatedHouse.domains.domains ∧
      Text.trim "not\n" = Name.negation ∧ ¬ negatedHouse.Confined prepared.program :=
  ⟨_, rfl, by decide, rfl, fun h => absurd h.unbroken (by decide)⟩

end Puzzle

end HousePuzzle
