import HousePuzzle.Proofs.Decoding.Faithful

/-!
Atoms grouped by house. What a list of atoms gives is put together from what each of them gives by
itself, and nothing is lost or counted twice on the way.
-/

namespace HousePuzzle.HouseValues

variable {a : String} {h : Int} {xs : List String}

/-- The values of a house, none where the house does not occur. -/
def valuesOf (h : Int) (m : HouseValues) : List String :=
  (Assoc.get? h m).getD []

/-- How many values there are in all houses. -/
def size (m : HouseValues) : Nat :=
  (m.flatMap Prod.snd).length

section Added

theorem size_cons (e : Int × List String) (m : HouseValues) :
    size (e :: m) = e.2.length + size m := by
  rw [size, List.flatMap_cons, List.length_append, ← size]

theorem size_add (m : HouseValues) (e : Int × String) : (m.add e).size = m.size + 1 := by
  obtain ⟨h, v⟩ := e
  unfold add
  induction m with
  | nil => rfl
  | cons d m ih =>
    obtain ⟨k, vs⟩ := d
    rw [Assoc.alter]
    split
    · simp only [size_cons, Option.getD_some, List.length_append, List.length_singleton]
      omega
    · rw [size_cons, size_cons, ih, Nat.add_assoc]

theorem size_foldl_add (es : List (Int × String)) (m : HouseValues) :
    (es.foldl add m).size = m.size + es.length := by
  induction es generalizing m with
  | nil => rfl
  | cons e es ih =>
    rw [List.foldl_cons, ih, size_add, List.length_cons]
    omega

/-- A house has its place from the first value that comes for it. -/
theorem keys_foldl_add (es : List (Int × String)) :
    Assoc.keys (es.foldl add []) = (es.map Prod.fst).eraseDups := by
  induction es using List.reverseRecOn with
  | nil => rfl
  | append_singleton es e ih =>
    rw [List.foldl_concat, add, Assoc.keys_alter, ih, List.map_append, List.eraseDups_append]
    by_cases he : e.1 ∈ es.map Prod.fst
    · simp [he, List.removeAll]
    · simp [he, List.removeAll, List.eraseDups_cons]

end Added

section Atoms

theorem ofAtoms_append (xs ys : List String) :
    ofAtoms (xs ++ ys) = (ys.filterMap Atom.read?).foldl add (ofAtoms xs) := by
  rw [ofAtoms, List.filterMap_append, List.foldl_append, ← ofAtoms]

/-- An atom by itself gives one house with one value, or nothing. -/
theorem ofAtoms_singleton (a : String) :
    ofAtoms [a] = (Atom.read? a).toList.map fun e => (e.1, [e.2]) := by
  rw [ofAtoms]
  cases hread : Atom.read? a with
  | none => simp [hread]
  | some e => simp [hread, add, Assoc.alter]

theorem ofAtoms_singleton_eq_nil_iff : ofAtoms [a] = [] ↔ Atom.read? a = none := by
  rw [ofAtoms_singleton, List.map_eq_nil_iff, Option.toList_eq_nil_iff]

theorem valuesOf_ofAtoms (h : Int) (xs : List String) :
    (ofAtoms xs).valuesOf h = ((xs.filterMap Atom.read?).filter (·.1 = h)).map Prod.snd := by
  rw [valuesOf, ofAtoms, getD_foldl_add]
  rfl

/-- A house occurs only with a value. -/
theorem valuesOf_eq_nil_iff :
    (ofAtoms xs).valuesOf h = [] ↔ h ∉ Assoc.keys (ofAtoms xs) := by
  rw [valuesOf_ofAtoms, ofAtoms, mem_keys_foldl_add]
  simp only [Assoc.keys_nil, List.not_mem_nil, false_or, List.map_eq_nil_iff,
    List.filter_eq_nil_iff, decide_eq_true_eq, not_exists]
  exact ⟨fun hnone v hv => hnone _ hv rfl, fun hnone e he heq => hnone e.2 (heq ▸ he)⟩

theorem valuesOf_append (h : Int) (xs ys : List String) :
    (ofAtoms (xs ++ ys)).valuesOf h = (ofAtoms xs).valuesOf h ++ (ofAtoms ys).valuesOf h := by
  simp only [valuesOf_ofAtoms, List.filterMap_append, List.filter_append, List.map_append]

theorem keys_ofAtoms (xs : List String) :
    Assoc.keys (ofAtoms xs) = (xs.flatMap fun a => Assoc.keys (ofAtoms [a])).eraseDups := by
  have hatom (a : String) : Assoc.keys (ofAtoms [a]) = ((Atom.read? a).map Prod.fst).toList := by
    rw [ofAtoms_singleton]
    cases Atom.read? a <;> rfl
  rw [ofAtoms, keys_foldl_add, List.map_filterMap, List.filterMap_eq_flatMap_toList]
  simp only [hatom]

theorem ofAtoms_skip (ha : ofAtoms [a] = []) (xs ys : List String) :
    ofAtoms (xs ++ a :: ys) = ofAtoms (xs ++ ys) := by
  have hread : Atom.read? a = none := ofAtoms_singleton_eq_nil_iff.1 ha
  rw [ofAtoms_append, List.filterMap_cons_none hread, ← ofAtoms_append]

theorem size_ofAtoms (xs : List String) :
    (ofAtoms xs).size = xs.countP fun a => ofAtoms [a] ≠ [] := by
  rw [ofAtoms, size_foldl_add, List.length_filterMap_eq_countP]
  refine (Nat.zero_add _).trans (List.countP_congr fun a _ => ?_)
  rw [decide_eq_true_eq, ne_eq, ofAtoms_singleton_eq_nil_iff, Option.isSome_iff_ne_none]

/-- Whether an atom is skipped is told by its text. -/
theorem cases_of_atom (a : String) :
    (ofAtoms [a] = [] ∧ ∀ h v, ¬ Atom.Names a h v) ∨
      ∃ h v, ofAtoms [a] = [(h, [v])] ∧ Atom.Names a h v := by
  simp only [ofAtoms_singleton, ← Atom.read?_eq_some_iff]
  cases Atom.read? a with
  | none => simp
  | some e => exact .inr ⟨e.1, e.2, rfl, rfl⟩

end Atoms

/-- Values are grouped without loss and without repetition: those of a house are the ones that come
in the first part of a list of atoms and then those of the second, houses stand where they first
come, an atom that gives nothing by itself makes no difference anywhere, and each other atom adds
one value, that of the house that it names. -/
theorem ofAtoms_homomorphism (xs ys : List String) :
    (∀ h, (ofAtoms (xs ++ ys)).valuesOf h = (ofAtoms xs).valuesOf h ++ (ofAtoms ys).valuesOf h) ∧
    (∀ h, (ofAtoms xs).valuesOf h = [] ↔ h ∉ Assoc.keys (ofAtoms xs)) ∧
    Assoc.keys (ofAtoms xs) = (xs.flatMap fun a => Assoc.keys (ofAtoms [a])).eraseDups ∧
    (∀ a, ofAtoms [a] = [] → ofAtoms (xs ++ a :: ys) = ofAtoms (xs ++ ys)) ∧
    (ofAtoms xs).size = xs.countP (fun a => ofAtoms [a] ≠ []) ∧
    ∀ a, (ofAtoms [a] = [] ∧ ∀ h v, ¬ Atom.Names a h v) ∨
      ∃ h v, ofAtoms [a] = [(h, [v])] ∧ Atom.Names a h v :=
  ⟨fun h => valuesOf_append h xs ys, fun _ => valuesOf_eq_nil_iff, keys_ofAtoms xs,
    fun _ ha => ofAtoms_skip ha xs ys, size_ofAtoms xs, cases_of_atom⟩

/-- One house in three spellings, an atom that is no assignment and a house that is no number. -/
theorem ofAtoms_homomorphism_spelledHouses :
    ofAtoms ["shown(1)"] = [] ∧
    ofAtoms (["assign(tea,2)", "assign(red,1)"] ++ "shown(1)" ::
      [" assign( \"Blue\" , +01 )", "assign(red,two)", "assign(red,1 )"]) =
        [(2, ["tea"]), (1, ["red", "Blue", "red"])] := by
  have hskipped : ofAtoms ["shown(1)"] = [] := rfl
  refine ⟨hskipped, ?_⟩
  rw [(ofAtoms_homomorphism _ _).2.2.2.1 _ hskipped]
  rfl

end HousePuzzle.HouseValues
