import HousePuzzle.Proofs.Decoding.Atoms
import HousePuzzle.Proofs.Solution
import Mathlib.Data.List.Sort

/-!
What a solver shows of a placement is decoded to that placement: each house that has a value, and
in it each value under its category, whatever the order of the atoms.
-/

namespace HousePuzzle

variable {h : Int} {c v : String} {p : Puzzle} {d : Registry} {s : String → Option Int}

namespace HouseValues

variable {es : List (Int × String)} {m : HouseValues}

theorem mem_keys_foldl_add :
    h ∈ Assoc.keys (es.foldl add m) ↔ h ∈ Assoc.keys m ∨ ∃ v, (h, v) ∈ es := by
  induction es generalizing m with
  | nil => simp
  | cons e es ih =>
    obtain ⟨k, w⟩ := e
    rw [List.foldl_cons, ih, add, Assoc.mem_keys_alter]
    simp [or_assoc, exists_or]

theorem nodup_keys_foldl_add (hm : (Assoc.keys m).Nodup) :
    (Assoc.keys (es.foldl add m)).Nodup :=
  Assoc.nodup_keys_foldl_alter hm

theorem nodup_keys_ofAtoms (atoms : List String) : (Assoc.keys (ofAtoms atoms)).Nodup :=
  nodup_keys_foldl_add (m := []) (by simp)

/-- The values of a house stand in the order in which they come. -/
theorem getD_foldl_add (h : Int) (es : List (Int × String)) (m : HouseValues) :
    (Assoc.get? h (es.foldl add m)).getD [] =
      (Assoc.get? h m).getD [] ++ (es.filter (·.1 = h)).map Prod.snd := by
  induction es generalizing m with
  | nil => simp
  | cons e es ih =>
    obtain ⟨k, w⟩ := e
    rw [List.foldl_cons, ih]
    by_cases hk : k = h
    · subst hk
      simp [add]
    · simp [add, Assoc.get?_alter_of_ne (Ne.symm hk), hk]

theorem mem_foldl_add :
    v ∈ (Assoc.get? h (es.foldl add m)).getD [] ↔
      v ∈ (Assoc.get? h m).getD [] ∨ (h, v) ∈ es := by
  rw [getD_foldl_add]
  simp

/-- What a house is given are the values that come with it. -/
theorem mem_values_iff {vs : List String} (hvs : (h, vs) ∈ es.foldl add []) :
    v ∈ vs ↔ (h, v) ∈ es := by
  have hnodup : (Assoc.keys (es.foldl add [])).Nodup := nodup_keys_foldl_add (m := []) (by simp)
  have hmem : v ∈ (Assoc.get? h (es.foldl add [])).getD [] ↔
      v ∈ (Assoc.get? h ([] : HouseValues)).getD [] ∨ (h, v) ∈ es := mem_foldl_add
  rw [(Assoc.get?_eq_some_iff hnodup).2 hvs] at hmem
  simpa using hmem

theorem mem_categorize {as : List (String × String)} :
    (h, as) ∈ m.categorize d ↔ ∃ vs, (h, vs) ∈ m ∧ attributes d vs = as := by
  simp [categorize]

theorem keys_categorize_perm : (Assoc.keys (m.categorize d)).Perm (Assoc.keys m) := by
  have hkeys : Assoc.keys (m.categorize d) = Assoc.keys (m.mergeSort fun a b => a.1 ≤ b.1) := by
    simp [categorize, Assoc.keys]
  rw [hkeys]
  exact (List.mergeSort_perm m _).map Prod.fst

theorem keys_categorize_ascend (hm : (Assoc.keys m).Nodup) :
    (Assoc.keys (m.categorize d)).Pairwise (· < ·) := by
  have htrans : ∀ a b c : Int × List String, decide (a.1 ≤ b.1) = true →
      decide (b.1 ≤ c.1) = true → decide (a.1 ≤ c.1) = true := by
    intro a b c hab hbc
    simp only [decide_eq_true_eq] at hab hbc ⊢
    exact hab.trans hbc
  have htotal : ∀ a b : Int × List String, (decide (a.1 ≤ b.1) || decide (b.1 ≤ a.1)) = true := by
    intro a b
    simpa using Int.le_total a.1 b.1
  have hsorted := List.pairwise_mergeSort htrans htotal m
  have hle : (Assoc.keys (m.categorize d)).Pairwise (· ≤ ·) := by
    simp only [categorize, Assoc.keys, List.map_map, List.pairwise_map]
    exact hsorted.imp fun hab => by simpa using hab
  have hne : (Assoc.keys (m.categorize d)).Nodup := keys_categorize_perm.nodup_iff.2 hm
  exact (hle.and hne).imp fun hab => lt_of_le_of_ne hab.1 hab.2

theorem get?_filterMap {cs : List String} {f : String → Option String} :
    Assoc.get? c (cs.filterMap fun c => (f c).map (c, ·)) = if c ∈ cs then f c else none := by
  induction cs with
  | nil => rfl
  | cons k cs ih =>
    rw [List.filterMap_cons]
    cases hk : f k with
    | none =>
      by_cases hc : c = k
      · subst hc
        simp [ih, hk]
      · simp [ih, hc]
    | some w =>
      by_cases hc : c = k
      · subst hc
        simp [Assoc.get?, hk]
      · simp [Assoc.get?, ih, hc, Ne.symm hc]

theorem find?_eq_some_iff_of_unique {vs : List String} {q : String → Bool}
    (hq : ∀ a ∈ vs, ∀ b ∈ vs, q a = true → q b = true → a = b) :
    vs.find? q = some v ↔ v ∈ vs ∧ q v = true := by
  constructor
  · intro hv
    exact ⟨List.mem_of_find?_eq_some hv, List.find?_some hv⟩
  · intro hv
    cases hfind : vs.find? q with
    | none => exact absurd hv.2 (List.find?_eq_none.1 hfind v hv.1)
    | some w => rw [hq w (List.mem_of_find?_eq_some hfind) v hv.1 (List.find?_some hfind) hv.2]

end HouseValues

/-- Where a solver may put the values of a puzzle: some of them in houses, and no two of a category
in the same house. -/
structure Puzzle.Places (p : Puzzle) (s : String → Option Int) : Prop where
  values : ∀ v h, s v = some h → ∃ e ∈ p.domains.domains, v ∈ e.2
  houses : ∀ v h, s v = some h → 1 ≤ h ∧ (Numeral.write h).toList.length ≤ Numeral.digitLimit
  apart : ∀ e ∈ p.domains.domains, ∀ v ∈ e.2, ∀ w ∈ e.2, ∀ h, s v = some h → s w = some h → v = w

/-- The atoms with which a solver shows where it puts the values. -/
def Puzzle.assignmentTexts (p : Puzzle) (s : String → Option Int) : List String :=
  p.domains.domains.flatMap fun e => e.2.filterMap fun v => (s v).map (assignmentText v)

/-- The first model has these atoms in any order, among others that are no assignments. -/
def SolverResult.Shows (r : SolverResult) (p : Puzzle) (s : String → Option Int) : Prop :=
  r.status = .satisfiable ∧ ∃ atoms later others, r.witnesses = atoms :: later ∧
    atoms.Perm (p.assignmentTexts s ++ others) ∧
      ∀ a ∈ others, ¬ Atom.opening <+: Text.trimChars a.toList

namespace Puzzle.Places

theorem mem_assignmentTexts (hs : p.Places s) {a : String} :
    a ∈ p.assignmentTexts s ↔ ∃ v h, s v = some h ∧ a = assignmentText v h := by
  simp only [assignmentTexts, List.mem_flatMap, List.mem_filterMap, Option.map_eq_some_iff]
  constructor
  · intro ha
    obtain ⟨e, he, v, hv, h, hh, rfl⟩ := ha
    exact ⟨v, h, hh, rfl⟩
  · intro ha
    obtain ⟨v, h, hh, rfl⟩ := ha
    obtain ⟨e, he, hv⟩ := hs.values v h hh
    exact ⟨e, he, v, hv, h, hh, rfl⟩

/-- What is read from the atoms is the placement itself. -/
theorem mem_filterMap_read?_iff (hs : p.Places s) (hw : p.WellFormed) (hline : p.Unbroken)
    {atoms others : List String} (hatoms : atoms.Perm (p.assignmentTexts s ++ others))
    (hothers : ∀ a ∈ others, ¬ Atom.opening <+: Text.trimChars a.toList) :
    (h, v) ∈ atoms.filterMap Atom.read? ↔ s v = some h := by
  have hread : ∀ w k, s w = some k → Atom.read? (assignmentText w k) = some (k, w) := by
    intro w k hk
    obtain ⟨e, he, hmem⟩ := hs.values w k hk
    obtain ⟨hpos, hlen⟩ := hs.houses w k hk
    exact Atom.read?_assignmentText ((hw.values e he w hmem).1.whole ((hline e he).2 w hmem)) hpos
      hlen
  rw [(hatoms.filterMap Atom.read?).mem_iff, List.filterMap_append, List.mem_append,
    List.mem_filterMap, List.mem_filterMap]
  constructor
  · intro hmem
    cases hmem with
    | inl hmem =>
      obtain ⟨a, ha, hav⟩ := hmem
      obtain ⟨w, k, hk, rfl⟩ := hs.mem_assignmentTexts.1 ha
      rw [hread w k hk] at hav
      cases hav
      exact hk
    | inr hmem =>
      obtain ⟨a, ha, hav⟩ := hmem
      rw [Atom.read?_eq_none (hothers a ha)] at hav
      cases hav
  · intro hv
    exact .inl ⟨_, hs.mem_assignmentTexts.2 ⟨v, h, hv, rfl⟩, hread v h hv⟩

theorem mem_categories_iff (hw : p.WellFormed) :
    c ∈ p.domains.categories ↔ ∃ vs, (c, vs) ∈ p.domains.domains := by
  refine Registry.mem_categories_iff.trans (and_iff_left_of_imp ?_)
  rintro ⟨vs, he⟩ hc
  exact hw.free _ he (by simp [hc, Name.reserved])

variable {vs : List String}

/-- Among the values of a house, a category has at most one. -/
theorem find?_eq_some_iff (hs : p.Places s) (hvs : ∀ v, v ∈ vs ↔ s v = some h) {ws : List String}
    (he : (c, ws) ∈ p.domains.domains) :
    (vs.find? fun v => ((p.domains.values? c).getD []).contains v) = some v ↔
      v ∈ ws ∧ s v = some h := by
  have hvalues : p.domains.values? c = some ws := Registry.values?_eq_some_iff.2 he
  rw [HouseValues.find?_eq_some_iff_of_unique, hvs]
  · simp [hvalues, and_comm]
  · intro a ha b hb hca hcb
    simp only [hvalues, Option.getD_some, List.contains_eq_mem, decide_eq_true_eq] at hca hcb
    exact hs.apart _ he a hca b hcb h ((hvs a).1 ha) ((hvs b).1 hb)

theorem get?_attributes (hs : p.Places s) (hw : p.WellFormed) (hvs : ∀ v, v ∈ vs ↔ s v = some h) :
    Assoc.get? c (HouseValues.attributes p.domains vs) = some v ↔
      ∃ ws, (c, ws) ∈ p.domains.domains ∧ v ∈ ws ∧ s v = some h := by
  rw [HouseValues.attributes, HouseValues.get?_filterMap]
  constructor
  · intro hget
    split at hget
    · next hc =>
      obtain ⟨ws, he⟩ := (mem_categories_iff hw).1 hc
      exact ⟨ws, he, (hs.find?_eq_some_iff hvs he).1 hget⟩
    · cases hget
  · intro hv
    obtain ⟨ws, he, hv⟩ := hv
    rw [if_pos ((mem_categories_iff hw).2 ⟨ws, he⟩)]
    exact (hs.find?_eq_some_iff hvs he).2 hv

theorem attributes_eq (hs : p.Places s) (hw : p.WellFormed) {ws : List String}
    (hvs : ∀ v, v ∈ vs ↔ s v = some h) (hws : ∀ v, v ∈ ws ↔ s v = some h) :
    HouseValues.attributes p.domains vs = HouseValues.attributes p.domains ws := by
  apply List.filterMap_congr
  intro c hc
  obtain ⟨us, he⟩ := (mem_categories_iff hw).1 hc
  congr 1
  apply Option.ext
  intro v
  rw [hs.find?_eq_some_iff hvs he, hs.find?_eq_some_iff hws he]

end Puzzle.Places

namespace SolverResult

variable {r r' : SolverResult}

/-- What the atoms of a placement are decoded to, by houses and by values. -/
structure Decodes (p : Puzzle) (s : String → Option Int) (houses : HouseAssignments) : Prop where
  ascending : (Assoc.keys houses).Pairwise (· < ·)
  hit : ∀ h, h ∈ Assoc.keys houses ↔ ∃ v, s v = some h
  attributes : ∀ h as, (h, as) ∈ houses → ∃ vs, (∀ v, v ∈ vs ↔ s v = some h) ∧
    as = HouseValues.attributes p.domains vs

theorem Shows.decode (hr : r.Shows p s) (hs : p.Places s) (hw : p.WellFormed)
    (hline : p.Unbroken) : ∃ houses, (r.decode p.domains).outcome = .solved ∧
      (r.decode p.domains).houses? = some houses ∧ Decodes p s houses := by
  obtain ⟨hstatus, atoms, later, others, hwitnesses, hatoms, hothers⟩ := hr
  have hentries : ∀ h v, (h, v) ∈ atoms.filterMap Atom.read? ↔ s v = some h :=
    fun h v => hs.mem_filterMap_read?_iff hw hline hatoms hothers
  have hnodup := HouseValues.nodup_keys_ofAtoms atoms
  refine ⟨(HouseValues.ofAtoms atoms).categorize p.domains, ?_, ?_, ?_, ?_, ?_⟩
  · simp [SolverResult.decode, hstatus]
  · simp [SolverResult.decode, hstatus, hwitnesses]
  · exact HouseValues.keys_categorize_ascend hnodup
  · intro h
    rw [HouseValues.keys_categorize_perm.mem_iff, HouseValues.ofAtoms,
      HouseValues.mem_keys_foldl_add]
    simp [hentries]
  · intro h as has
    obtain ⟨vs, hvs, rfl⟩ := HouseValues.mem_categorize.1 has
    exact ⟨vs, fun v => (HouseValues.mem_values_iff hvs).trans (hentries h v), rfl⟩

end SolverResult

/-- What a solver shows of a placement is decoded to the houses of the placement, ascending, each
with the values that are placed there; nothing else of the result matters. -/
theorem SolverResult.houses_decode {r : SolverResult} {report : Report}
    (h : p.validate = .ok report) (hvalid : report.isValid = true) (hline : p.Unbroken)
    (hs : p.Places s) (hr : r.Shows p s) :
    (r.decode p.domains).outcome = .solved ∧
    (∃ houses, (r.decode p.domains).houses? = some houses ∧
      (Assoc.keys houses).Pairwise (· < ·) ∧ (∀ k, k ∈ Assoc.keys houses ↔ ∃ v, s v = some k) ∧
      ∀ k c v, (Assoc.get? k houses).bind (Assoc.get? c) = some v ↔
        ∃ vs, (c, vs) ∈ p.domains.domains ∧ v ∈ vs ∧ s v = some k) ∧
    ∀ r' : SolverResult, r'.Shows p s →
      (r'.decode p.domains).houses? = (r.decode p.domains).houses? := by
  have hw := (Puzzle.wellFormed_of_validate h hvalid).1
  obtain ⟨houses, houtcome, hhouses, hdecodes⟩ := hr.decode hs hw hline
  refine ⟨houtcome, ⟨houses, hhouses, hdecodes.ascending, hdecodes.hit, ?_⟩, ?_⟩
  · intro k c v
    cases hget : Assoc.get? k houses with
    | none =>
      have hnone : ∀ w, s w ≠ some k := by
        intro w hk
        exact Assoc.get?_eq_none_iff.1 hget ((hdecodes.hit k).2 ⟨w, hk⟩)
      simp [hnone]
    | some as =>
      obtain ⟨vs, hvs, rfl⟩ := hdecodes.attributes k as (Assoc.mem_of_get?_eq_some hget)
      exact hs.get?_attributes hw hvs
  · intro r' hr'
    obtain ⟨houses', _, hhouses', hdecodes'⟩ := hr'.decode hs hw hline
    rw [hhouses, hhouses']
    congr 1
    apply Assoc.eq_of_keys_eq
    · apply hdecodes'.ascending.eq_of_mem_iff hdecodes.ascending
      intro k
      rw [hdecodes.hit, hdecodes'.hit]
    · intro k as as' has has'
      obtain ⟨vs, hvs, rfl⟩ := hdecodes'.attributes k as has
      obtain ⟨ws, hws, rfl⟩ := hdecodes.attributes k as' has'
      exact hs.attributes_eq hw hvs hws

/-- A placement that leaves some values out. -/
def redFirst (v : String) : Option Int :=
  if v = "red" then some 1 else if v = "007" then some 2 else none

theorem places_redFirst : twoHouses.Places redFirst := by
  have hplaced : ∀ v h, redFirst v = some h → (v = "red" ∧ h = 1) ∨ (v = "007" ∧ h = 2) := by
    intro v h hv
    unfold redFirst at hv
    split at hv
    · next hred => exact .inl ⟨hred, (Option.some.inj hv).symm⟩
    · split at hv
      · next hseven => exact .inr ⟨hseven, (Option.some.inj hv).symm⟩
      · cases hv
  refine ⟨?_, ?_, ?_⟩
  · intro v h hv
    rcases hplaced v h hv with ⟨rfl, _⟩ | ⟨rfl, _⟩ <;> decide
  · intro v h hv
    rcases hplaced v h hv with ⟨_, rfl⟩ | ⟨_, rfl⟩ <;> decide
  · intro e _ v _ w _ h hv hw
    rcases hplaced v h hv with ⟨rfl, rfl⟩ | ⟨rfl, rfl⟩ <;>
      rcases hplaced w _ hw with ⟨rfl, hh⟩ | ⟨rfl, hh⟩
    · rfl
    · cases hh
    · cases hh
    · rfl

theorem SolverResult.houses_decode_redFirst :
    let r : SolverResult := ⟨.satisfiable,
      [[" shown(x)", "assign(\"007\",2)", "assign(red,1)"], ["assign(red,2)"]], 2, false⟩
    ((∃ report, twoHouses.validate = .ok report ∧ report.isValid = true) ∧ twoHouses.Unbroken ∧
      twoHouses.Places redFirst ∧ r.Shows twoHouses redFirst) ∧
    ∃ houses, (r.decode twoHouses.domains).houses? = some houses ∧
      ∀ k c v, (Assoc.get? k houses).bind (Assoc.get? c) = some v ↔
        ∃ vs, (c, vs) ∈ twoHouses.domains.domains ∧ v ∈ vs ∧ redFirst v = some k := by
  intro r
  have hshows : r.Shows twoHouses redFirst := by
    refine ⟨rfl, _, _, [" shown(x)"], rfl, by decide, by decide⟩
  obtain ⟨_, ⟨houses, hhouses, _, _, hget⟩, _⟩ :=
    houses_decode rfl rfl (by decide) places_redFirst hshows
  exact ⟨⟨⟨_, rfl, rfl⟩, by decide, places_redFirst, hshows⟩, houses, hhouses, hget⟩

end HousePuzzle
