import HousePuzzle.Proofs.Decoding

/-!
What a solver answers is decoded as it is, whatever its atoms are. Each value that is shown in a
house comes from an atom about that house and stands under its own category; a value that is not
shown has no category, or another of its category was there before.
-/

namespace HousePuzzle

variable {h : Int} {c v : String} {d : Registry}

namespace Atom

/-- An argument of an atom has no comma and no parenthesis. -/
def IsArgument (cs : List Char) : Prop :=
  cs ≠ [] ∧ ∀ c ∈ cs, c ≠ ',' ∧ c ≠ '(' ∧ c ≠ ')'

/-- An atom that names a value and a house, with any blanks around it and its arguments. -/
def Names (atom : String) (h : Int) (v : String) : Prop :=
  ∃ value house, Text.trimChars atom.toList = opening ++ (value ++ ',' :: house) ++ [')'] ∧
    IsArgument value ∧ IsArgument house ∧
    Numeral.read (Text.trim (String.ofList house)) = .ok h ∧
    Term.unquote (String.ofList value) = v

theorem isArgument_iff {cs : List Char} : isArgument cs = true ↔ IsArgument cs := by
  simp [isArgument, IsArgument, isArgumentChar, and_assoc]

theorem arguments?_eq_some_iff {cs inner : List Char} :
    arguments? cs = some inner ↔ cs = opening ++ inner ++ [')'] := by
  constructor
  · intro h
    unfold arguments? at h
    split at h
    · next hcall =>
      simp only [Bool.and_eq_true, List.isPrefixOf_iff_prefix, decide_eq_true_eq] at hcall
      obtain ⟨⟨rest, rfl⟩, hlast⟩ := hcall
      obtain rfl := Option.some.inj h
      rcases List.eq_nil_or_concat rest with rfl | ⟨inner, c, rfl⟩
      · exact absurd hlast (by decide)
      · rw [List.concat_eq_append, ← List.append_assoc, List.getLast?_concat] at hlast
        obtain rfl := Option.some.inj hlast
        rw [List.drop_left, List.concat_eq_append, List.dropLast_concat, List.append_assoc]
    · cases h
  · rintro rfl
    exact arguments?_call inner

theorem read?_eq_some_iff {atom : String} : read? atom = some (h, v) ↔ Names atom h v := by
  simp only [read?, Option.bind_eq_bind, Option.bind_eq_some_iff, arguments?_eq_some_iff]
  constructor
  · rintro ⟨inner, hatom, ⟨value, house⟩, hcut, hread⟩
    obtain ⟨rfl, _⟩ := Text.cutAtChar?_eq_some hcut
    split at hread
    · next harguments =>
      simp only [Bool.and_eq_true, isArgument_iff] at harguments
      split at hread
      · next n hn =>
        obtain ⟨rfl, rfl⟩ := Prod.mk.inj (Option.some.inj hread)
        exact ⟨value, house, hatom, harguments.1, harguments.2, hn, rfl⟩
      · cases hread
    · cases hread
  · rintro ⟨value, house, hatom, hvalue, hhouse, hn, rfl⟩
    have hcomma : ',' ∉ value := fun hmem => (hvalue.2 _ hmem).1 rfl
    refine ⟨_, hatom, _, Text.cutAtChar?_append hcomma house, ?_⟩
    simp only [isArgument_iff.2 hvalue, isArgument_iff.2 hhouse, Bool.and_self, if_true, hn]

end Atom

namespace Registry

/-- No value belongs to two categories. That of positions does not count. -/
def Apart (d : Registry) : Prop :=
  ∀ c ∈ d.categories, ∀ c' ∈ d.categories, ∀ v, d.Has c v → d.Has c' v → c = c'

theorem Apart.categoryOf?_eq (hd : d.Apart) (hc : c ∈ d.categories) (h : d.Has c v) :
    d.categoryOf? v = some c := by
  rw [categoryOf?, HouseValues.find?_eq_some_iff_of_unique]
  · exact ⟨hc, by simpa using has_iff.1 h⟩
  · intro a ha b hb hav hbv
    simp only [List.contains_eq_mem, decide_eq_true_eq, ← has_iff] at hav hbv
    exact hd a ha b hb v hav hbv

end Registry

namespace HouseValues

variable {m : HouseValues} {atoms : List String}

theorem get?_categorize (hm : (Assoc.keys m).Nodup) (h : Int) :
    Assoc.get? h (m.categorize d) = (Assoc.get? h m).map (attributes d) := by
  have hkeys : (Assoc.keys (m.categorize d)).Nodup := keys_categorize_perm.nodup_iff.2 hm
  refine Option.ext fun as => ?_
  rw [Assoc.get?_eq_some_iff hkeys, mem_categorize, Option.map_eq_some_iff]
  simp only [Assoc.get?_eq_some_iff hm]

/-- A category shows the first of its values. -/
theorem get?_attributes_iff {vs : List String} :
    Assoc.get? c (attributes d vs) = some v ↔ c ∈ d.categories ∧ d.Has c v ∧
      ∃ before behind, vs = before ++ v :: behind ∧ ∀ w ∈ before, ¬ d.Has c w := by
  rw [attributes, get?_filterMap, Option.ite_none_right_eq_some, List.find?_eq_some_iff_append]
  simp [Registry.has_iff]

/-- What is shown of a category in a house. -/
def Shows (houses : HouseAssignments) (h : Int) (c v : String) : Prop :=
  ∃ as, Assoc.get? h houses = some as ∧ Assoc.get? c as = some v

theorem shows_categorize_iff (hm : (Assoc.keys m).Nodup) :
    Shows (m.categorize d) h c v ↔ ∃ vs, Assoc.get? h m = some vs ∧ c ∈ d.categories ∧ d.Has c v ∧
      ∃ before behind, vs = before ++ v :: behind ∧ ∀ w ∈ before, ¬ d.Has c w := by
  simp only [Shows, get?_categorize hm, Option.map_eq_some_iff, exists_exists_and_eq_and,
    get?_attributes_iff]

theorem exists_names_of_mem {vs : List String} (hvs : Assoc.get? h (ofAtoms atoms) = some vs)
    (hv : v ∈ vs) : ∃ a ∈ atoms, Atom.Names a h v := by
  have hread := (mem_values_iff (Assoc.mem_of_get?_eq_some hvs)).1 hv
  obtain ⟨a, ha, hav⟩ := List.mem_filterMap.1 hread
  exact ⟨a, ha, Atom.read?_eq_some_iff.1 hav⟩

/-- A value is shown, or no category could show it, or one has shown a value before it. -/
theorem cases_of_value {vs before behind : List String} (hm : (Assoc.keys m).Nodup)
    (hvs : Assoc.get? h m = some vs) (hsplit : vs = before ++ v :: behind) :
    (∃ c, Shows (m.categorize d) h c v) ∨ (∀ c, d.Has c v → c = Name.position) ∨
      ∃ w ∈ before, ∃ c, c ≠ Name.position ∧ d.Has c w ∧ d.Has c v := by
  by_cases hcategory : ∃ c, d.Has c v ∧ c ≠ Name.position
  · obtain ⟨c, hc, hposition⟩ := hcategory
    by_cases hearlier : ∃ w ∈ before, d.Has c w
    · obtain ⟨w, hw, hcw⟩ := hearlier
      exact .inr (.inr ⟨w, hw, c, hposition, hcw, hc⟩)
    · have hlisted : c ∈ d.categories := by
        obtain ⟨ws, hws, _⟩ := hc
        exact Registry.mem_categories_iff.2 ⟨⟨ws, hws⟩, hposition⟩
      refine .inl ⟨c, (shows_categorize_iff hm).2 ⟨vs, hvs, hlisted, hc, ?_⟩⟩
      exact ⟨before, behind, hsplit, fun w hw hcw => hearlier ⟨w, hw, hcw⟩⟩
  · exact .inr (.inl fun c hc => not_not.1 fun hposition => hcategory ⟨c, hc, hposition⟩)

end HouseValues

open HouseValues (Shows)

/-- Houses that show what the atoms of a model say: nothing is made up or moved to another house or
category, and what is left out is accounted for. -/
structure Solution.ShowsModel (s : Solution) (d : Registry) (atoms : List String)
    (houses : HouseAssignments) : Prop where
  outcome : s.outcome = .solved
  shown : s.houses? = some houses
  ascending : (Assoc.keys houses).Pairwise (· < ·)
  same_houses : ∀ h, h ∈ Assoc.keys houses ↔ h ∈ Assoc.keys s.raw
  in_order : ∀ h, (Assoc.get? h s.raw).getD [] =
    ((atoms.filterMap Atom.read?).filter (·.1 = h)).map Prod.snd
  named : ∀ h c v, Shows houses h c v → ∃ a ∈ atoms, Atom.Names a h v
  placed : ∀ h c v, Shows houses h c v →
    c ≠ Name.position ∧ d.Has c v ∧ d.categoryOf? v = some c
  first : ∀ h c v, Shows houses h c v ↔ ∃ vs, Assoc.get? h s.raw = some vs ∧
    c ∈ d.categories ∧ d.Has c v ∧
      ∃ before behind, vs = before ++ v :: behind ∧ ∀ w ∈ before, ¬ d.Has c w
  accounted : ∀ h vs before v behind, Assoc.get? h s.raw = some vs →
    vs = before ++ v :: behind →
      (∃ c, Shows houses h c v) ∨ (∀ c, d.Has c v → c = Name.position) ∨
        ∃ w ∈ before, ∃ c, c ≠ Name.position ∧ d.Has c w ∧ d.Has c v

/-- A model is shown as it is, whatever its atoms are, as long as no value has two categories. -/
theorem SolverResult.exists_showsModel {r : SolverResult} (hr : r.status = .satisfiable)
    (hd : d.Apart) :
    ∃ houses, (r.decode d).ShowsModel d (r.witnesses.headD []) houses := by
  have hnodup := HouseValues.nodup_keys_ofAtoms (r.witnesses.headD [])
  have hraw : (r.decode d).raw = .ofAtoms (r.witnesses.headD []) := by
    rw [SolverResult.decode, hr]
  refine ⟨(HouseValues.ofAtoms (r.witnesses.headD [])).categorize d, ?_⟩
  constructor
  case outcome => rw [SolverResult.decode, hr]
  case shown => rw [SolverResult.decode, hr]
  case ascending => exact HouseValues.keys_categorize_ascend hnodup
  case same_houses =>
    intro h
    rw [hraw, HouseValues.keys_categorize_perm.mem_iff]
  case in_order =>
    intro h
    rw [hraw, HouseValues.ofAtoms, HouseValues.getD_foldl_add]
    rfl
  case named =>
    intro h c v hshown
    obtain ⟨vs, hvs, _, _, before, behind, rfl, _⟩ :=
      (HouseValues.shows_categorize_iff hnodup).1 hshown
    exact HouseValues.exists_names_of_mem hvs (by simp)
  case placed =>
    intro h c v hshown
    obtain ⟨_, _, hc, hv, _⟩ := (HouseValues.shows_categorize_iff hnodup).1 hshown
    exact ⟨(Registry.mem_categories_iff.1 hc).2, hv, hd.categoryOf?_eq hc hv⟩
  case first =>
    intro h c v
    rw [hraw]
    exact HouseValues.shows_categorize_iff hnodup
  case accounted =>
    intro h vs before v behind hvs hsplit
    rw [hraw] at hvs
    exact HouseValues.cases_of_value hnodup hvs hsplit

def drinkers : Registry :=
  .ofPairs [("color", ["red", "green"]), ("beverage", ["tea"])]

theorem apart_drinkers : drinkers.Apart := by
  have hmem : ∀ a ∈ drinkers.categories, a = "color" ∨ a = "beverage" := by decide
  have hvalues : ∀ w ∈ (drinkers.values? "color").getD [],
      w ∉ (drinkers.values? "beverage").getD [] := by decide
  intro c hc c' hc' v hv hv'
  rw [Registry.has_iff] at hv hv'
  obtain rfl | rfl := hmem c hc <;> obtain rfl | rfl := hmem c' hc'
  · rfl
  · exact absurd hv' (hvalues v hv)
  · exact absurd hv (hvalues v hv')
  · rfl

/-- Two values of a category in one house, one of them twice, beside atoms that are no assignments
and a value that no category has. -/
def crowdedAtoms : List String :=
  ["assign(red,1)", " assign( \"tea\" , +2 )", "assign(green,1)", "assign(red,1)",
    "assign(x,0)", "shown(1)", "assign(tea,two)"]

theorem SolverResult.exists_showsModel_crowdedAtoms :
    let r : SolverResult := ⟨.satisfiable, [crowdedAtoms, ["assign(green,1)"]], 2, false⟩
    let s := r.decode drinkers
    (r.status = .satisfiable ∧ drinkers.Apart) ∧
      (∃ houses, s.ShowsModel drinkers crowdedAtoms houses) ∧
      s.raw = [(1, ["red", "green", "red"]), (2, ["tea"]), (0, ["x"])] ∧
      s.houses? = some [(0, []), (1, [("color", "red")]), (2, [("beverage", "tea")])] := by
  intro r s
  have hsorted : s.raw.mergeSort (fun a b => a.1 ≤ b.1) =
      [(0, ["x"]), (1, ["red", "green", "red"]), (2, ["tea"])] := by
    have hraw : s.raw = [(1, ["red", "green", "red"]), (2, ["tea"]), (0, ["x"])] := rfl
    simp [hraw, List.mergeSort, List.MergeSort.Internal.splitInTwo]
  have hshown : s.raw.categorize drinkers =
      [(0, []), (1, [("color", "red")]), (2, [("beverage", "tea")])] := by
    rw [HouseValues.categorize, hsorted]
    rfl
  exact ⟨⟨rfl, apart_drinkers⟩, exists_showsModel rfl apart_drinkers, rfl, congrArg some hshown⟩

end HousePuzzle
