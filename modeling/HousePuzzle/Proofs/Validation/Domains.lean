import HousePuzzle.Proofs.Validation

/-!
The search through the domains. A value belongs to the first category that may own it; a later
category that has it too is reported, and so is all else that is wrong with a category or a value,
each in its place.
-/

namespace HousePuzzle

/-- A category has a value that it may own where its name can be used and is not the value. -/
def Domains.mayOwn (value : String) (e : String × List String) : Bool :=
  !Name.reserved.contains e.1 && Name.isPredicate e.1 && e.1 ≠ value && e.2.contains value

/-- The first category that has a value and may own it. -/
def Domains.owner? (ds : Domains) (value : String) : Option String :=
  (ds.find? (mayOwn value)).map Prod.fst

namespace Registry

def before (d : Registry) (category : String) : Domains :=
  d.domains.takeWhile (·.1 ≠ category)

/-- A category with values, and with a name that can be used, but not with one value for each
house. -/
def isMismatched (houses : Json) (e : String × List String) : Bool :=
  (!Name.reserved.contains e.1 && Name.isPredicate e.1 && !e.2.isEmpty) &&
    houses.asInt?.any fun n => 1 ≤ n && (e.2.length : Int) ≠ n

end Registry

namespace Validation

variable {houses : Json} {d : Registry} {owners : Owners} {c v : String} {vs : List String}
  {i : Nat} {before ds : Domains}

section Values

/-- A category meets each of its values once, so that the owners it adds are not asked for. -/
theorem valueDefects_fst (hvs : vs.Nodup) :
    (valueDefects c i owners vs).1 =
      (vs.zipIdx i).filterMap fun p => valueDefect? owners ⟨c, p.2, p.1⟩ := by
  induction vs generalizing i owners with
  | nil => rfl
  | cons v vs ih =>
    obtain ⟨hv, hvs⟩ := List.nodup_cons.1 hvs
    rw [List.zipIdx_cons, List.filterMap_cons]
    cases hdefect : valueDefect? owners ⟨c, i, v⟩ with
    | some defect => simp only [valueDefects, hdefect, ih hvs]
    | none =>
      simp only [valueDefects, hdefect, ih hvs]
      refine List.filterMap_congr fun p hp => ?_
      have hne : p.1 ≠ v := fun heq => hv (heq ▸ List.fst_mem_of_mem_zipIdx hp)
      simp only [valueDefect?, Assoc.insert, Assoc.get?_alter_of_ne hne]

/-- A category becomes the owner of its sound values that have none. -/
theorem get?_valueDefects :
    Assoc.get? v (valueDefects c i owners vs).2 =
      (Assoc.get? v owners).or (if Name.isValue v = true ∧ v ≠ c ∧ v ∈ vs then some c else none) := by
  induction vs generalizing i owners with
  | nil => simp [valueDefects]
  | cons w vs ih =>
    cases hdefect : valueDefect? owners ⟨c, i, w⟩ with
    | some defect =>
      simp only [valueDefects, hdefect, ih, List.mem_cons]
      by_cases hvw : v = w
      · subst hvw
        cases howner : Assoc.get? v owners with
        | some owner => simp
        | none =>
          have hunsound : ¬ (Name.isValue v = true ∧ v ≠ c) := by
            intro hsound
            have hnone := valueDefect?_eq_none_iff (p := ⟨c, i, v⟩).2
              ⟨⟨Name.isValue_iff.1 hsound.1, hsound.2⟩, Assoc.get?_eq_none_iff.1 howner⟩
            rw [hnone] at hdefect
            cases hdefect
          rw [if_neg fun h => hunsound ⟨h.1, h.2.1⟩, if_neg fun h => hunsound ⟨h.1, h.2.1⟩]
      · simp [hvw]
    | none =>
      obtain ⟨⟨hform, hne⟩, hnew⟩ := valueDefect?_eq_none_iff.1 hdefect
      simp only [valueDefects, hdefect, ih, List.mem_cons]
      by_cases hvw : v = w
      · subst hvw
        have hvalue : Name.isValue v = true := Name.isValue_iff.2 hform
        rw [Assoc.insert, Assoc.get?_alter_self, Assoc.get?_eq_none_iff.2 hnew]
        simp [hvalue, hne]
      · rw [Assoc.insert, Assoc.get?_alter_of_ne hvw]
        simp [hvw]

end Values

section Categories

/-- The three tests of a category. -/
theorem isNone_categoryDefect? (houses : Json) (c : String) (vs : List String) :
    (categoryDefect? houses c vs).isNone =
      (!Name.reserved.contains c && Name.isPredicate c && !vs.isEmpty) := by
  unfold categoryDefect?
  cases Name.reserved.contains c with
  | true => rfl
  | false => cases Name.isPredicate c <;> cases vs <;> rfl

/-- The owners that are noted are those of the categories that have been looked at, as far as it is
asked for them. -/
def Records (owners : Owners) (before : Domains) : Prop :=
  ∀ v, Name.isValue v = true → Assoc.get? v owners = before.owner? v

theorem records_nil : Records [] [] := fun _ _ => rfl

theorem owner?_concat (before : Domains) (e : String × List String) (v : String) :
    Domains.owner? (before ++ [e]) v =
      (before.owner? v).or (if Domains.mayOwn v e = true then some e.1 else none) := by
  rw [Domains.owner?, List.find?_append, Option.map_or]
  cases h : Domains.mayOwn v e <;> simp [Domains.owner?, h]

/-- A category with a defect owns nothing. -/
theorem Records.skip {defect : Defect} (h : Records owners before)
    (hc : categoryDefect? houses c vs = some defect) : Records owners (before ++ [(c, vs)]) := by
  intro v hv
  have hdefect := isNone_categoryDefect? houses c vs
  rw [hc, Option.isNone_some] at hdefect
  have hnone : Domains.mayOwn v (c, vs) = false := by
    cases vs with
    | nil => simp [Domains.mayOwn]
    | cons w vs =>
      rw [List.isEmpty_cons, Bool.not_false, Bool.and_true] at hdefect
      rw [Domains.mayOwn, ← hdefect, Bool.false_and, Bool.false_and]
  rw [h v hv, owner?_concat, hnone]
  simp

theorem mayOwn_iff (hc : categoryDefect? houses c vs = none) :
    Domains.mayOwn v (c, vs) = true ↔ v ≠ c ∧ v ∈ vs := by
  obtain ⟨hfree, hname, _⟩ := categoryDefect?_eq_none_iff.1 hc
  have hpredicate : Name.isPredicate c = true := Name.isPredicate_iff.2 hname
  rw [ne_comm]
  simp [Domains.mayOwn, hfree, hpredicate]

theorem Records.values (h : Records owners before) (hc : categoryDefect? houses c vs = none) :
    Records (valueDefects c i owners vs).2 (before ++ [(c, vs)]) := by
  intro v hv
  rw [get?_valueDefects, h v hv, owner?_concat]
  simp [mayOwn_iff hc, hv]

/-- What is wrong with a value, by the categories before its own. -/
def valueFault? (d : Registry) (p : ValuePlace) : Option Defect :=
  if !Name.isValue p.value then some (.valueName p)
  else if p.value = p.category then some (.valueIsCategory p)
  else ((d.before p.category).owner? p.value).map (.ambiguousValue p)

theorem cases_of_valueFault? {p : ValuePlace} {e : Defect} (h : valueFault? d p = some e) :
    e = .valueName p ∨ e = .valueIsCategory p ∨
      ∃ owner ∈ Assoc.keys d.domains, e = .ambiguousValue p owner := by
  unfold valueFault? at h
  split at h
  · exact .inl (Option.some.inj h).symm
  · split at h
    · exact .inr (.inl (Option.some.inj h).symm)
    · obtain ⟨owner, howner, rfl⟩ := Option.map_eq_some_iff.1 h
      obtain ⟨entry, hentry, rfl⟩ := Option.map_eq_some_iff.1 howner
      have hbefore : entry ∈ d.before p.category := List.mem_of_find?_eq_some hentry
      have hmem : entry ∈ d.domains := (List.takeWhile_sublist _).subset hbefore
      exact .inr (.inr ⟨_, Assoc.mem_keys_of_mem hmem, rfl⟩)

def faults (houses : Json) (d : Registry) (e : String × List String) : List Defect :=
  match categoryDefect? houses e.1 e.2 with
  | some defect => [defect]
  | none => e.2.zipIdx.filterMap fun p => valueFault? d ⟨e.1, p.2, p.1⟩

/-- Sizes are compared of categories without a defect. -/
def mismatches (houses : Json) (e : String × List String) : List Warning :=
  match categoryDefect? houses e.1 e.2 with
  | some _ => []
  | none => sizeWarnings houses e.1 e.2.length

theorem valueDefect?_eq_valueFault? {p : ValuePlace} (h : Records owners (d.before p.category)) :
    valueDefect? owners p = valueFault? d p := by
  unfold valueDefect? valueFault?
  cases hv : Name.isValue p.value with
  | false => rfl
  | true => rw [h _ hv]

theorem before_eq (hd : d.domains = before ++ (c, vs) :: ds) : d.before c = before := by
  have hkeys := d.distinct.1
  have hbefore : ∀ e ∈ before, decide (e.1 ≠ c) = true := by
    intro e he
    rw [hd, Assoc.keys, List.map_append, List.nodup_append] at hkeys
    exact decide_eq_true (hkeys.2.2 _ (List.mem_map_of_mem he) _ (by simp))
  rw [Registry.before, hd, List.takeWhile_append_of_pos hbefore]
  simp

/-- All that is found in the domains, each category by itself. -/
theorem domainFindings_eq (hd : d.domains = before ++ ds) (h : Records owners before) :
    domainFindings houses owners ds = (ds.flatMap (faults houses d), ds.flatMap (mismatches houses)) := by
  induction ds generalizing before owners with
  | nil => rfl
  | cons e ds ih =>
    obtain ⟨c, vs⟩ := e
    have hnext : d.domains = (before ++ [(c, vs)]) ++ ds := by simp [hd]
    rw [List.flatMap_cons, List.flatMap_cons]
    cases hc : categoryDefect? houses c vs with
    | some defect =>
      simp only [domainFindings, hc, ih hnext (h.skip hc), faults, mismatches]
      rfl
    | none =>
      have hvs : vs.Nodup := d.distinct.2 (c, vs) (by simp [hd])
      have hvalues : (valueDefects c 0 owners vs).1 =
          vs.zipIdx.filterMap fun p => valueFault? d ⟨c, p.2, p.1⟩ := by
        rw [valueDefects_fst hvs]
        refine List.filterMap_congr fun p _ => valueDefect?_eq_valueFault? ?_
        rw [before_eq hd]
        exact h
      simp only [domainFindings, hc, ih hnext (h.values hc), faults, mismatches, hvalues]

/-- The findings in the domains of a registry. -/
theorem domainFindings_registry (houses : Json) (d : Registry) :
    domainFindings houses [] d.domains =
      (d.domains.flatMap (faults houses d), d.domains.flatMap (mismatches houses)) :=
  domainFindings_eq (List.nil_append _).symm records_nil

theorem mem_faults_iff {entry : String × List String} {defect : Defect} :
    defect ∈ faults houses d entry ↔ categoryDefect? houses entry.1 entry.2 = some defect ∨
      categoryDefect? houses entry.1 entry.2 = none ∧
        ∃ i v, entry.2[i]? = some v ∧ valueFault? d ⟨entry.1, i, v⟩ = some defect := by
  unfold faults
  cases categoryDefect? houses entry.1 entry.2 with
  | some _ => simp [eq_comm]
  | none =>
    simp only [List.mem_filterMap, Prod.exists, List.mem_zipIdx_iff_getElem?, reduceCtorEq, false_or,
      true_and]
    exact exists_comm

end Categories

section Sizes

theorem mismatches_eq (houses : Json) (e : String × List String) :
    mismatches houses e = if Registry.isMismatched houses e = true then
      [.sizeMismatch e.1 e.2.length houses] else [] := by
  unfold mismatches Registry.isMismatched
  rw [← isNone_categoryDefect? houses]
  cases categoryDefect? houses e.1 e.2 with
  | some defect => rfl
  | none =>
    unfold sizeWarnings
    cases houses.asInt? <;> simp

theorem flatMap_mismatches (houses : Json) (ds : Domains) :
    ds.flatMap (mismatches houses) =
      (ds.filter (Registry.isMismatched houses)).map fun e => .sizeMismatch e.1 e.2.length houses := by
  induction ds with
  | nil => rfl
  | cons e ds ih =>
    rw [List.flatMap_cons, mismatches_eq, ih, List.filter_cons]
    split <;> rfl

end Sizes

end Validation

end HousePuzzle
