import HousePuzzle.Proofs.Numeral
import HousePuzzle.Proofs.Registry
import HousePuzzle.Proofs.Traversal
import HousePuzzle.Validation
import Mathlib.Data.List.Nodup
import Mathlib.Data.List.Pairwise

/-!
Well-formed puzzles, and that validation accepts these and no others. Each stage is described by
when it finds nothing.
-/

namespace HousePuzzle

/-- The number of one of the first `n` houses, in ASCII digits. -/
def IsHouseNumeral (n : Int) (ds : List Char) : Prop :=
  Name.DigitsForm ds ∧ 1 ≤ Nat.ofDigitChars 10 ds 0 ∧ (Nat.ofDigitChars 10 ds 0 : Int) ≤ n

def Operand.Refers (n : Int) (d : Registry) (o : Operand) : Prop :=
  (o.isPosition = true ∧ Name.Fits (IsHouseNumeral n) o.value) ∨
    ∃ vs, (o.category, vs) ∈ d.domains ∧ o.value ∈ vs

theorem Operand.mem_reserved {o : Operand} (h : o.isPosition = true) :
    o.category ∈ Name.reserved := by
  simp only [Operand.isPosition, decide_eq_true_eq] at h
  simp [h, Name.reserved]

structure Puzzle.WellFormed (p : Puzzle) : Prop where
  houses : 1 ≤ p.houses
  free : ∀ e ∈ p.domains.domains, e.1 ∉ Name.reserved
  predicates : ∀ e ∈ p.domains.domains, Name.Fits Name.ConstantForm e.1 ∧ e.1 ≠ Name.negation
  inhabited : ∀ e ∈ p.domains.domains, e.2 ≠ []
  values : ∀ e ∈ p.domains.domains, ∀ v ∈ e.2, Name.Fits Name.ValueForm v ∧ v ≠ e.1
  owners : ∀ e ∈ p.domains.domains, ∀ f ∈ p.domains.domains, ∀ v ∈ e.2, v ∈ f.2 → e = f
  rules : ∀ r ∈ p.rules, ∀ side, (r.operand side).Refers p.houses p.domains

/-- What a number can be compared with. -/
def Json.isNumber : Json → Bool
  | .int _ | .bool _ | .float _ => true
  | _ => false

namespace Validation

variable {houses : Json} {k : Int} {d : Registry} {o : Operand} {f : Failure}

theorem houseDefects_eq_nil_iff : houseDefects houses = [] ↔ ∃ n, houses = .int n ∧ 1 ≤ n := by
  cases houses with
  | int n =>
    by_cases h : n < 1
    · simp only [houseDefects, if_pos h]
      simpa using h
    · simp only [houseDefects, if_neg h]
      simpa using h
  | _ => simp [houseDefects]

theorem eq_of_mem_houseDefects {e : Defect} (h : e ∈ houseDefects houses) :
    e = .houseCount houses := by
  unfold houseDefects at h
  split at h
  · split at h
    · exact List.mem_singleton.1 h
    · cases h
  · exact List.mem_singleton.1 h

/-- What can be wrong with a category. -/
theorem cases_of_categoryDefect? {c : String} {vs : List String} {e : Defect}
    (h : categoryDefect? houses c vs = some e) :
    (c ∈ Name.reserved ∧ e = .reservedCategory c) ∨
      (Name.isPredicate c = false ∧ e = .categoryName c) ∨
        (Name.isPredicate c = true ∧ vs = [] ∧ e = .emptyDomain c houses) := by
  unfold categoryDefect? at h
  split at h
  · next hreserved =>
    exact .inl ⟨List.contains_iff_mem.1 hreserved, (Option.some.inj h).symm⟩
  · split at h
    · next hname => exact .inr (.inl ⟨by simpa using hname, (Option.some.inj h).symm⟩)
    · next hname =>
      split at h
      · next hempty =>
        exact .inr (.inr ⟨by simpa using hname, List.isEmpty_iff.1 hempty, (Option.some.inj h).symm⟩)
      · cases h

theorem categoryDefect?_eq_none_iff {c : String} {vs : List String} :
    categoryDefect? houses c vs = none ↔
      c ∉ Name.reserved ∧ (Name.Fits Name.ConstantForm c ∧ c ≠ Name.negation) ∧ vs ≠ [] := by
  rw [← Name.isPredicate_iff]
  unfold categoryDefect?
  split
  · simp_all
  · split
    · simp_all
    · split <;> simp_all

theorem valueDefect?_eq_none_iff {owners : Owners} {p : ValuePlace} :
    valueDefect? owners p = none ↔
      (Name.Fits Name.ValueForm p.value ∧ p.value ≠ p.category) ∧ p.value ∉ Assoc.keys owners := by
  rw [← Name.isValue_iff, ← Assoc.get?_eq_none_iff]
  unfold valueDefect?
  split
  · simp_all
  · split <;> simp_all

/-- The owners grow by the values as long as none of these is wrong. -/
theorem valueDefects_eq_nil_iff {c : String} {i : Nat} {owners : Owners} {vs : List String}
    (hvs : vs.Nodup) :
    (valueDefects c i owners vs).1 = [] ↔
      ∀ v ∈ vs, (Name.Fits Name.ValueForm v ∧ v ≠ c) ∧ v ∉ Assoc.keys owners := by
  induction vs generalizing i owners with
  | nil => simp [valueDefects]
  | cons v vs ih =>
    obtain ⟨hv, hvs⟩ := List.nodup_cons.1 hvs
    rw [List.forall_mem_cons, ← valueDefect?_eq_none_iff (p := ⟨c, i, v⟩)]
    cases hd : valueDefect? owners ⟨c, i, v⟩ with
    | some e => simp [valueDefects, hd]
    | none =>
      have hnew := (valueDefect?_eq_none_iff.1 hd).2
      simp only [valueDefects, hd, ih hvs, Assoc.keys_insert_of_notMem hnew, List.mem_append,
        List.mem_singleton, true_and]
      refine forall₂_congr fun w hw => ?_
      have hne : w ≠ v := by
        rintro rfl
        exact hv hw
      simp [hne]

theorem keys_valueDefects {c : String} {i : Nat} {owners : Owners} {vs : List String}
    (h : (valueDefects c i owners vs).1 = []) :
    Assoc.keys (valueDefects c i owners vs).2 = Assoc.keys owners ++ vs := by
  induction vs generalizing i owners with
  | nil => simp [valueDefects]
  | cons v vs ih =>
    cases hd : valueDefect? owners ⟨c, i, v⟩ with
    | some e => simp [valueDefects, hd] at h
    | none =>
      have hnew := (valueDefect?_eq_none_iff.1 hd).2
      simp only [valueDefects, hd] at h ⊢
      rw [ih h, Assoc.keys_insert_of_notMem hnew, List.append_assoc, List.singleton_append]

/-- What is asked of the entry of a category by itself. -/
def EntryFits (e : String × List String) : Prop :=
  (e.1 ∉ Name.reserved ∧ (Name.Fits Name.ConstantForm e.1 ∧ e.1 ≠ Name.negation) ∧ e.2 ≠ []) ∧
    ∀ v ∈ e.2, Name.Fits Name.ValueForm v ∧ v ≠ e.1

theorem domainFindings_eq_nil_iff {owners : Owners} {ds : Domains} (hds : ∀ e ∈ ds, e.2.Nodup) :
    (domainFindings houses owners ds).1 = [] ↔
      (∀ e ∈ ds, EntryFits e ∧ ∀ v ∈ e.2, v ∉ Assoc.keys owners) ∧
        ds.Pairwise fun e f => ∀ v ∈ e.2, v ∉ f.2 := by
  induction ds generalizing owners with
  | nil => simp [domainFindings]
  | cons e ds ih =>
    obtain ⟨c, vs⟩ := e
    obtain ⟨hvs, hds⟩ := List.forall_mem_cons.1 hds
    rw [List.forall_mem_cons, List.pairwise_cons]
    cases hc : categoryDefect? houses c vs with
    | some defect =>
      have hbad : ¬ EntryFits (c, vs) := fun hfit => by
        simp [categoryDefect?_eq_none_iff.2 hfit.1] at hc
      simp [domainFindings, hc, hbad]
    | none =>
      have hcategory := categoryDefect?_eq_none_iff.1 hc
      simp only [domainFindings, hc, List.append_eq_nil_iff]
      constructor
      · rintro ⟨hv, hrest⟩
        have hown := (valueDefects_eq_nil_iff hvs).1 hv
        obtain ⟨hfit, hpair⟩ := (ih hds).1 hrest
        rw [keys_valueDefects hv] at hfit
        refine ⟨⟨⟨⟨hcategory, fun v hv => (hown v hv).1⟩, fun v hv => (hown v hv).2⟩,
          fun e he => ⟨(hfit e he).1, fun v hv hmem => ?_⟩⟩, fun e he v hv hmem => ?_, hpair⟩
        · exact (hfit e he).2 v hv (List.mem_append_left _ hmem)
        · exact (hfit e he).2 v hmem (List.mem_append_right _ hv)
      · rintro ⟨⟨⟨hfit, hnew⟩, hall⟩, hfirst, hpair⟩
        have hv := (valueDefects_eq_nil_iff (i := 0) hvs).2 fun v hv => ⟨hfit.2 v hv, hnew v hv⟩
        refine ⟨hv, (ih hds).2 ⟨fun e he => ⟨(hall e he).1, fun v hmem => ?_⟩, hpair⟩⟩
        rw [keys_valueDefects hv, List.mem_append, not_or]
        exact ⟨(hall e he).2 v hmem, fun hold => hfirst e he v hold hmem⟩

theorem reaches_of_asInt? (hk : houses.asInt? = some k) (n : Int) :
    reaches n houses = .ok (decide (n ≤ k)) := by
  cases houses with
  | int m =>
    obtain rfl := Option.some.inj hk
    rfl
  | bool b =>
    obtain rfl := Option.some.inj hk
    rfl
  | _ => simp [Json.asInt?] at hk

theorem reaches_eq_error_iff {n : Int} :
    reaches n houses = .error f ↔ houses.isNumber = false ∧ f = .incomparable houses.kind := by
  cases houses <;> simp [reaches, Json.isNumber, eq_comm]

theorem isPositionOf_of_digits {value : String} {ds : List Char} (hds : Name.DigitsForm ds)
    (hs : value.toList = ds ∨ value.toList = ds ++ ['\n']) :
    isPositionOf houses value =
      if Numeral.digitLimit < ds.length then .error (.numeral (.tooLong ds.length))
      else if (Nat.ofDigitChars 10 ds 0 : Int) < 1 then .ok false
      else reaches (Nat.ofDigitChars 10 ds 0) houses := by
  have hdigits : Name.isDigits value = true := Name.isDigits_iff.2 ⟨ds, hds, hs⟩
  simp only [isPositionOf, hdigits, Bool.not_true, Bool.false_eq_true, if_false,
    Numeral.read_digits hds hs]
  by_cases hlong : Numeral.digitLimit < ds.length
  · simp only [if_pos hlong]
  · simp only [if_neg hlong]

theorem isPositionOf_eq_true_iff {value : String} (hk : houses.asInt? = some k) :
    isPositionOf houses value = .ok true ↔
      Name.Fits (fun ds => IsHouseNumeral k ds ∧ ds.length ≤ Numeral.digitLimit) value := by
  constructor
  · intro h
    cases hdigits : Name.isDigits value with
    | false => simp [isPositionOf, hdigits] at h
    | true =>
      obtain ⟨ds, hds, hs⟩ := Name.isDigits_iff.1 hdigits
      rw [isPositionOf_of_digits hds hs, reaches_of_asInt? hk] at h
      split at h
      · cases h
      · split at h
        · cases h
        · have hle := of_decide_eq_true (Except.ok.inj h)
          exact ⟨ds, ⟨⟨hds, by omega, hle⟩, by omega⟩, hs⟩
  · rintro ⟨ds, ⟨⟨hds, hone, hle⟩, hshort⟩, hs⟩
    rw [isPositionOf_of_digits hds hs, if_neg (by omega), if_neg (by omega),
      reaches_of_asInt? hk, decide_eq_true hle]

/-- A number that is too long to be read, or one that counts from one where the number of houses is
none. -/
def IsIncomparable (houses : Json) (f : Failure) (ds : List Char) : Prop :=
  Name.DigitsForm ds ∧
    ((Numeral.digitLimit < ds.length ∧ f = .numeral (.tooLong ds.length)) ∨
      (ds.length ≤ Numeral.digitLimit ∧ 1 ≤ Nat.ofDigitChars 10 ds 0 ∧
        houses.isNumber = false ∧ f = .incomparable houses.kind))

theorem isPositionOf_eq_error_iff {value : String} :
    isPositionOf houses value = .error f ↔ Name.Fits (IsIncomparable houses f) value := by
  constructor
  · intro h
    cases hdigits : Name.isDigits value with
    | false => simp [isPositionOf, hdigits] at h
    | true =>
      obtain ⟨ds, hds, hs⟩ := Name.isDigits_iff.1 hdigits
      refine ⟨ds, ⟨hds, ?_⟩, hs⟩
      rw [isPositionOf_of_digits hds hs] at h
      split at h
      · next hlong => exact .inl ⟨hlong, (Except.error.inj h).symm⟩
      · split at h
        · cases h
        · exact .inr ⟨by omega, by omega, reaches_eq_error_iff.1 h⟩
  · rintro ⟨ds, ⟨hds, hcase⟩, hs⟩
    rw [isPositionOf_of_digits hds hs]
    rcases hcase with ⟨hlong, rfl⟩ | ⟨hshort, hone, hnumber⟩
    · rw [if_pos hlong]
    · rw [if_neg (by omega), if_neg (by omega), reaches_eq_error_iff.2 hnumber]

/-- Of a text that is short enough it can always be told. -/
theorem exists_isPositionOf {value : String} (hk : houses.asInt? = some k)
    (hshort : value.toList.length ≤ Numeral.digitLimit) :
    ∃ b, isPositionOf houses value = .ok b := by
  cases h : isPositionOf houses value with
  | ok b => exact ⟨b, rfl⟩
  | error f =>
    obtain ⟨ds, ⟨_, ⟨hlong, _⟩ | ⟨_, _, hnumber, _⟩⟩, hs⟩ := isPositionOf_eq_error_iff.1 h
    · exact absurd ((Name.length_le_of_fits hs).trans hshort) (by omega)
    · cases houses <;> simp [Json.asInt?, Json.isNumber] at hk hnumber

/-- A side that has no defect. -/
def Passes (houses : Json) (d : Registry) (o : Operand) : Prop :=
  if o.isPosition then isPositionOf houses o.value = .ok true
  else ∃ vs, (o.category, vs) ∈ d.domains ∧ o.value ∈ vs

/-- A side at which validation gives no answer. -/
def Breaks (houses : Json) (f : Failure) (o : Operand) : Prop :=
  o.isPosition = true ∧ isPositionOf houses o.value = .error f

theorem sideDefect?_eq_none_iff {p : RulePlace} :
    sideDefect? houses d p = .ok none ↔ Passes houses d p.operand := by
  unfold sideDefect? Passes
  by_cases hp : p.operand.isPosition = true
  · rw [if_pos hp, if_pos hp]
    cases isPositionOf houses p.operand.value with
    | error e => simp [Except.map]
    | ok b => cases b <;> simp [Except.map]
  · rw [if_neg hp, if_neg hp]
    simp only [← Registry.values?_eq_some_iff]
    cases d.values? p.operand.category with
    | none => simp
    | some vs => by_cases hv : p.operand.value ∈ vs <;> simp [hv]

theorem sideDefect?_eq_error_iff {p : RulePlace} :
    sideDefect? houses d p = .error f ↔ Breaks houses f p.operand := by
  unfold sideDefect? Breaks
  by_cases hp : p.operand.isPosition = true
  · rw [if_pos hp]
    cases isPositionOf houses p.operand.value <;> simp [Except.map, hp]
  · rw [if_neg hp]
    simp [hp]

/-- What can be wrong with a side of a rule. -/
theorem cases_of_sideDefect? {p : RulePlace} {e : Defect}
    (h : sideDefect? houses d p = .ok (some e)) :
    e = .positionRange p houses ∨ e = .unknownCategory p (d.categories ++ [Name.position]) ∨
      ∃ domain, (p.operand.category, domain) ∈ d.domains ∧ e = .foreignValue p domain := by
  unfold sideDefect? at h
  split at h
  · obtain ⟨fits, _, hfits⟩ := Except.map_eq_ok_iff.1 h
    split at hfits
    · cases hfits
    · exact .inl (Option.some.inj hfits).symm
  · have h := Except.ok.inj h
    split at h
    · exact .inr (.inl (Option.some.inj h).symm)
    · next domain hdomain =>
      split at h
      · cases h
      · exact .inr (.inr ⟨domain, Registry.values?_eq_some_iff.1 hdomain, (Option.some.inj h).symm⟩)

theorem exists_side_of_ruleDefect? {i : Nat} {r : Rule} {e : Defect}
    (h : ruleDefect? houses d i r = .ok (some e)) :
    ∃ side, sideDefect? houses d ⟨i, side, r.operand side⟩ = .ok (some e) := by
  obtain ⟨left?, hleft, h⟩ := Except.bind_eq_ok_iff.1 h
  cases left? with
  | some defect =>
    obtain rfl := Option.some.inj (Except.ok.inj h)
    exact ⟨.left, hleft⟩
  | none => exact ⟨.right, h⟩

/-- What is found in rules is a defect of a side, or a rule that says nothing; `i` is the index of
the first of them. -/
theorem cases_of_ruleFindings {i : Nat} {rs : List Rule} {found : List Defect × List Warning}
    (h : ruleFindings houses d i rs = .ok found) :
    (∀ e ∈ found.1, ∃ j r side, rs[j]? = some r ∧
      sideDefect? houses d ⟨i + j, side, r.operand side⟩ = .ok (some e)) ∧
    ∀ w ∈ found.2, ∃ j r, rs[j]? = some r ∧ r.isVoid = true ∧ w = .voidRule (i + j) r := by
  induction rs generalizing i found with
  | nil =>
    obtain rfl := Except.ok.inj h
    simp
  | cons r rs ih =>
    obtain ⟨defect?, hdefect, h⟩ := Except.bind_eq_ok_iff.1 h
    cases defect? with
    | some defect =>
      obtain rfl := Except.ok.inj h
      obtain ⟨side, hside⟩ := exists_side_of_ruleDefect? hdefect
      exact ⟨List.forall_mem_singleton.2 ⟨0, r, side, rfl, hside⟩, by simp⟩
    | none =>
      obtain ⟨rest, hrest, h⟩ := Except.bind_eq_ok_iff.1 h
      obtain rfl := Except.ok.inj h
      obtain ⟨hdefects, hwarnings⟩ := ih hrest
      have hnext (j : Nat) : i + 1 + j = i + (j + 1) := by omega
      simp only [hnext] at hdefects hwarnings
      refine ⟨fun e he => ?_, List.forall_mem_append.2 ⟨fun w hw => ?_, fun w hw => ?_⟩⟩
      · obtain ⟨j, q, side, hq, hside⟩ := hdefects e he
        exact ⟨j + 1, q, side, hq, hside⟩
      · unfold voidWarnings at hw
        split at hw
        · next hvoid => exact ⟨0, r, rfl, hvoid, List.mem_singleton.1 hw⟩
        · cases hw
      · obtain ⟨j, q, hq, hvoid, heq⟩ := hwarnings w hw
        exact ⟨j + 1, q, hq, hvoid, heq⟩

theorem ruleDefect?_eq_none_iff {i : Nat} {r : Rule} :
    ruleDefect? houses d i r = .ok none ↔ Passes houses d r.left ∧ Passes houses d r.right := by
  rw [← sideDefect?_eq_none_iff (p := ⟨i, .left, r.left⟩),
    ← sideDefect?_eq_none_iff (p := ⟨i, .right, r.right⟩)]
  unfold ruleDefect?
  cases hleft : sideDefect? houses d ⟨i, .left, r.left⟩ with
  | error e => simp [bind, Except.bind]
  | ok e => cases e <;> simp [bind, Except.bind, pure, Except.pure]

theorem ruleDefect?_eq_error_iff {i : Nat} {r : Rule} :
    ruleDefect? houses d i r = .error f ↔
      Breaks houses f r.left ∨ (Passes houses d r.left ∧ Breaks houses f r.right) := by
  rw [← sideDefect?_eq_none_iff (p := ⟨i, .left, r.left⟩),
    ← sideDefect?_eq_error_iff (d := d) (p := ⟨i, .left, r.left⟩),
    ← sideDefect?_eq_error_iff (d := d) (p := ⟨i, .right, r.right⟩)]
  unfold ruleDefect?
  cases hleft : sideDefect? houses d ⟨i, .left, r.left⟩ with
  | error e => simp [bind, Except.bind]
  | ok e => cases e <;> simp [bind, Except.bind, pure, Except.pure]

theorem ruleFindings_eq_nil_iff {i : Nat} {rs : List Rule} :
    (∃ ws, ruleFindings houses d i rs = .ok ([], ws)) ↔
      ∀ r ∈ rs, Passes houses d r.left ∧ Passes houses d r.right := by
  induction rs generalizing i with
  | nil => simp [ruleFindings]
  | cons r rs ih =>
    rw [List.forall_mem_cons, ← ruleDefect?_eq_none_iff (i := i), ← ih (i := i + 1)]
    simp only [ruleFindings]
    cases hr : ruleDefect? houses d i r with
    | error e => simp [bind, Except.bind]
    | ok e =>
      cases e with
      | some e => simp [bind, Except.bind, pure, Except.pure]
      | none =>
        cases hrest : ruleFindings houses d (i + 1) rs with
        | error e => simp [bind, Except.bind]
        | ok found => simp [bind, Except.bind, pure, Except.pure, Prod.ext_iff]

/-- The sides of rules in the order in which they are looked at. -/
def sides (rs : List Rule) : List Operand :=
  rs.flatMap fun r => [r.left, r.right]

theorem mem_sides_iff {rs : List Rule} : o ∈ sides rs ↔ ∃ r ∈ rs, ∃ side, o = r.operand side := by
  simp only [sides, List.mem_flatMap, List.mem_pair]
  refine exists_congr fun r => and_congr_right fun _ => ⟨?_, ?_⟩
  · rintro (rfl | rfl)
    exacts [⟨.left, rfl⟩, ⟨.right, rfl⟩]
  · rintro ⟨side, rfl⟩
    cases side
    exacts [.inl rfl, .inr rfl]

/-- A search comes to a side when all that are before it pass. -/
def ComesTo (P : Operand → Prop) (os : List Operand) (o : Operand) : Prop :=
  ∃ before behind, os = before ++ o :: behind ∧ ∀ q ∈ before, P q

theorem ComesTo.mem {P : Operand → Prop} {os : List Operand} (h : ComesTo P os o) : o ∈ os := by
  obtain ⟨before, behind, rfl, _⟩ := h
  exact List.mem_append_right _ List.mem_cons_self

theorem comesTo_congr {P Q : Operand → Prop} (h : ∀ q, P q ↔ Q q) {os : List Operand} :
    ComesTo P os o ↔ ComesTo Q os o := by
  simp only [ComesTo, h]

theorem comesTo_cons {P : Operand → Prop} {q : Operand} {os : List Operand} :
    ComesTo P (q :: os) o ↔ o = q ∨ (P q ∧ ComesTo P os o) := by
  constructor
  · rintro ⟨before, behind, h, hbefore⟩
    cases before with
    | nil => exact .inl (List.cons.inj h).1.symm
    | cons b before =>
      obtain ⟨rfl, hos⟩ := List.cons.inj h
      obtain ⟨hq, hbefore⟩ := List.forall_mem_cons.1 hbefore
      exact .inr ⟨hq, before, behind, hos, hbefore⟩
  · rintro (rfl | ⟨hq, before, behind, rfl, hbefore⟩)
    · exact ⟨[], os, rfl, by simp⟩
    · exact ⟨q :: before, behind, rfl, List.forall_mem_cons.2 ⟨hq, hbefore⟩⟩

/-- Without an answer at the first side that does not pass there are no findings. -/
theorem ruleFindings_eq_error_iff {i : Nat} {rs : List Rule} :
    ruleFindings houses d i rs = .error f ↔
      ∃ o, ComesTo (Passes houses d) (sides rs) o ∧ Breaks houses f o := by
  induction rs generalizing i with
  | nil => simp [ruleFindings, sides, ComesTo]
  | cons r rs ih =>
    have hstep : ruleFindings houses d i (r :: rs) = .error f ↔
        ruleDefect? houses d i r = .error f ∨
          (ruleDefect? houses d i r = .ok none ∧ ruleFindings houses d (i + 1) rs = .error f) := by
      simp only [ruleFindings]
      cases hr : ruleDefect? houses d i r with
      | error e => simp [bind, Except.bind]
      | ok e =>
        cases e with
        | some e => simp [bind, Except.bind, pure, Except.pure]
        | none =>
          cases hrest : ruleFindings houses d (i + 1) rs <;>
            simp [bind, Except.bind, pure, Except.pure]
    have hsides : sides (r :: rs) = r.left :: r.right :: sides rs := rfl
    rw [hstep, ruleDefect?_eq_error_iff, ruleDefect?_eq_none_iff, ih, hsides]
    simp only [comesTo_cons, or_and_right, exists_or, exists_eq_left, and_assoc, exists_and_left,
      or_assoc, and_or_left]

/-- What is found before the rules are looked at. -/
def earlyDefects (houses : Json) (d : Registry) : List Defect :=
  houseDefects houses ++ (domainFindings houses [] d.domains).1

theorem validate_eq (houses : Json) (d : Registry) (rs : List Rule) :
    validate houses d rs =
      if errorLimit ≤ (earlyDefects houses d).length then
        .ok ⟨earlyDefects houses d, (domainFindings houses [] d.domains).2⟩
      else (ruleFindings houses d 0 rs).map fun found =>
        ⟨earlyDefects houses d ++ found.1, (domainFindings houses [] d.domains).2 ++ found.2⟩ := by
  unfold validate earlyDefects
  dsimp only
  split
  · rfl
  · cases ruleFindings houses d 0 rs <;> rfl

/-- A report is what was found before the rules, and behind it what was found in them. -/
theorem exists_found_of_validate {rs : List Rule} {report : Report}
    (h : validate houses d rs = .ok report) :
    ∃ late void, report = ⟨earlyDefects houses d ++ late,
        (domainFindings houses [] d.domains).2 ++ void⟩ ∧
      (∀ e ∈ late, ∃ i r side, rs[i]? = some r ∧
        sideDefect? houses d ⟨i, side, r.operand side⟩ = .ok (some e)) ∧
      ∀ w ∈ void, ∃ i r, rs[i]? = some r ∧ r.isVoid = true ∧ w = .voidRule i r := by
  rw [validate_eq] at h
  split at h
  · obtain rfl := Except.ok.inj h
    exact ⟨[], [], by simp, by simp, by simp⟩
  · obtain ⟨found, hfound, rfl⟩ := Except.map_eq_ok_iff.1 h
    have hcases := cases_of_ruleFindings hfound
    simp only [Nat.zero_add] at hcases
    exact ⟨found.1, found.2, rfl, hcases⟩

theorem validate_eq_error_iff {rs : List Rule} :
    validate houses d rs = .error f ↔ (earlyDefects houses d).length < errorLimit ∧
      ∃ o, ComesTo (Passes houses d) (sides rs) o ∧ Breaks houses f o := by
  rw [validate_eq, ← ruleFindings_eq_error_iff (i := 0)]
  split
  · next hlimit => simp [Nat.not_lt.2 hlimit]
  · next hlimit => cases ruleFindings houses d 0 rs <;> simp [Except.map, Nat.lt_of_not_le hlimit]

theorem validate_total {rs : List Rule} (hk : houses.asInt? = some k)
    (hlen : ∀ r ∈ rs, ∀ side, (r.operand side).isPosition = true →
      (r.operand side).value.toList.length ≤ Numeral.digitLimit) :
    ∃ report, validate houses d rs = .ok report := by
  cases h : validate houses d rs with
  | ok report => exact ⟨report, rfl⟩
  | error f =>
    obtain ⟨_, o, hcomes, hposition, hbreaks⟩ := validate_eq_error_iff.1 h
    obtain ⟨r, hr, side, rfl⟩ := mem_sides_iff.1 hcomes.mem
    obtain ⟨b, hb⟩ := exists_isPositionOf hk (hlen r hr side hposition)
    rw [hb] at hbreaks
    cases hbreaks

/-- What a side of a rule is checked for. -/
def SideFits (k : Int) (d : Registry) (o : Operand) : Prop :=
  if o.isPosition then
    Name.Fits (fun ds => IsHouseNumeral k ds ∧ ds.length ≤ Numeral.digitLimit) o.value
  else ∃ vs, (o.category, vs) ∈ d.domains ∧ o.value ∈ vs

theorem passes_iff_sideFits (hk : houses.asInt? = some k) :
    Passes houses d o ↔ SideFits k d o := by
  unfold Passes SideFits
  rw [isPositionOf_eq_true_iff hk]

/-- The three stages together: no error is left over by the limit on errors. -/
theorem validate_eq_nil_iff {rs : List Rule} (hk : houses.asInt? = some k) :
    (∃ report, validate houses d rs = .ok report ∧ report.errors = []) ↔
      houseDefects houses = [] ∧ (domainFindings houses [] d.domains).1 = [] ∧
        ∀ r ∈ rs, ∀ side, SideFits k d (r.operand side) := by
  have hsides : (∀ r ∈ rs, ∀ side, SideFits k d (r.operand side)) ↔
      ∃ ws, ruleFindings houses d 0 rs = .ok ([], ws) := by
    rw [ruleFindings_eq_nil_iff]
    refine forall₂_congr fun r _ => ?_
    rw [passes_iff_sideFits hk, passes_iff_sideFits hk]
    exact ⟨fun h => ⟨h .left, h .right⟩, fun h side => by cases side; exacts [h.1, h.2]⟩
  rw [hsides, ← and_assoc, ← List.append_eq_nil_iff, ← earlyDefects, validate_eq]
  split
  · next hlimit =>
    have hne : earlyDefects houses d ≠ [] := by
      intro hnil
      simp [hnil, errorLimit] at hlimit
    simp [hne]
  · cases hfound : ruleFindings houses d 0 rs with
    | error e => simp [Except.map]
    | ok found => simp [Except.map, Prod.ext_iff]

theorem domainFindings_nil_iff :
    (domainFindings houses [] d.domains).1 = [] ↔
      (∀ e ∈ d.domains, EntryFits e) ∧
        ∀ e ∈ d.domains, ∀ f ∈ d.domains, ∀ v ∈ e.2, v ∈ f.2 → e = f := by
  have hnodup : d.domains.Nodup := List.Nodup.of_map _ d.distinct.1
  rw [domainFindings_eq_nil_iff d.distinct.2]
  constructor
  · rintro ⟨hfit, hpair⟩
    refine ⟨fun e he => (hfit e he).1, fun e he f hf v hve hvf => ?_⟩
    by_contra hne
    have hsymm : Std.Symm fun e f : String × List String => ∀ v ∈ e.2, v ∉ f.2 :=
      ⟨fun e f h v hvf hve => h v hve hvf⟩
    exact hpair.forall he hf hne v hve hvf
  · rintro ⟨hfit, hown⟩
    refine ⟨fun e he => ⟨hfit e he, by simp⟩, hnodup.pairwise_of_forall_ne ?_⟩
    exact fun e he f hf hne v hve hvf => hne (hown e he f hf v hve hvf)

theorem SideFits.refers {n : Int} (h : SideFits n d o) : o.Refers n d := by
  unfold SideFits at h
  split at h
  · next hp =>
    obtain ⟨ds, hds, hs⟩ := h
    exact .inl ⟨hp, ds, hds.1, hs⟩
  · exact .inr h

/-- A category of positions would let a side refer to it without being a number. -/
theorem SideFits.of_refers {n : Int} (hfree : ∀ e ∈ d.domains, e.1 ∉ Name.reserved)
    (hlen : o.isPosition = true → o.value.toList.length ≤ Numeral.digitLimit)
    (h : o.Refers n d) : SideFits n d o := by
  unfold SideFits
  by_cases hp : o.isPosition = true
  · rw [if_pos hp]
    rcases h with ⟨_, ds, hds, hs⟩ | ⟨vs, hmem, hv⟩
    · exact ⟨ds, ⟨hds, (Name.length_le_of_fits hs).trans (hlen hp)⟩, hs⟩
    · exact absurd (Operand.mem_reserved hp) (hfree _ hmem)
  · rw [if_neg hp]
    exact h.resolve_left fun h => hp h.1

theorem wellFormed_iff {p : Puzzle} :
    p.WellFormed ↔ houseDefects (.int p.houses) = [] ∧
      (domainFindings (.int p.houses) [] p.domains.domains).1 = [] ∧
        ∀ r ∈ p.rules, ∀ side, (r.operand side).Refers p.houses p.domains := by
  rw [houseDefects_eq_nil_iff, domainFindings_nil_iff]
  constructor
  · intro h
    exact ⟨⟨_, rfl, h.houses⟩, ⟨fun e he => ⟨⟨h.free e he, h.predicates e he, h.inhabited e he⟩,
      h.values e he⟩, h.owners⟩, h.rules⟩
  · rintro ⟨⟨n, hn, hpos⟩, ⟨hfit, hown⟩, hrules⟩
    obtain rfl := Json.int.inj hn
    exact {
      houses := hpos
      free := fun e he => (hfit e he).1.1
      predicates := fun e he => (hfit e he).1.2.1
      inhabited := fun e he => (hfit e he).1.2.2
      values := fun e he => (hfit e he).2
      owners := hown
      rules := hrules }

end Validation

/-- What the report of a puzzle without errors tells of it. -/
theorem Puzzle.wellFormed_of_validate {p : Puzzle} {report : Report}
    (h : p.validate = .ok report) (hvalid : report.isValid = true) :
    p.WellFormed ∧
      ∀ r ∈ p.rules, ∀ side, Validation.SideFits p.houses p.domains (r.operand side) := by
  have hnil : report.errors = [] := by simpa [Report.isValid] using hvalid
  obtain ⟨hhouses, hdomains, hsides⟩ :=
    (Validation.validate_eq_nil_iff (k := p.houses) rfl).1 ⟨report, h, hnil⟩
  exact ⟨Validation.wellFormed_iff.2 ⟨hhouses, hdomains,
    fun r hr side => (hsides r hr side).refers⟩, hsides⟩

/-- Validation always gives a report, and the puzzles without errors are those that are
well-formed. -/
theorem Validation.isValid_iff_wellFormed (houses : Json) (d : Registry) (rules : List Rule)
    (hint : houses.asInt?.isSome = true)
    (hlen : ∀ r ∈ rules, ∀ side, (r.operand side).isPosition = true →
      (r.operand side).value.toList.length ≤ Numeral.digitLimit) :
    ∃ report, validate houses d rules = .ok report ∧
      (report.isValid = true ↔ report.errors = []) ∧
      (report.errors = [] ↔ ∃ n, houses = .int n ∧ Puzzle.WellFormed ⟨n, d, rules⟩) := by
  obtain ⟨k, hk⟩ := Option.isSome_iff_exists.1 hint
  obtain ⟨report, hreport⟩ := validate_total (d := d) hk hlen
  refine ⟨report, hreport, by simp [Report.isValid], ?_⟩
  have hnil : report.errors = [] ↔ ∃ r, validate houses d rules = .ok r ∧ r.errors = [] := by
    simp [hreport]
  rw [hnil, validate_eq_nil_iff hk]
  constructor
  · rintro ⟨hhouses, hdomains, hsides⟩
    obtain ⟨n, rfl, _⟩ := houseDefects_eq_nil_iff.1 hhouses
    obtain rfl := Option.some.inj hk
    exact ⟨_, rfl, wellFormed_iff.2 ⟨hhouses, hdomains, fun r hr side => (hsides r hr side).refers⟩⟩
  · rintro ⟨n, rfl, h⟩
    obtain rfl := Option.some.inj hk
    obtain ⟨hhouses, hdomains, hrules⟩ := wellFormed_iff.1 h
    exact ⟨hhouses, hdomains, fun r hr side =>
      .of_refers h.free (hlen r hr side) (hrules r hr side)⟩

/-- Two houses, for two colours and two pets. -/
def twoHouses : Puzzle where
  houses := 2
  domains := .ofPairs [("color", ["red", "Blue"]), ("pet", ["cat", "007"])]
  rules := [⟨⟨"color", "red"⟩, .same, ⟨"position", "01\n"⟩⟩,
    ⟨⟨"pet", "007"⟩, .right, ⟨"color", "red"⟩⟩]

theorem Validation.isValid_iff_wellFormed_twoHouses :
    ((Json.int 2).asInt?.isSome = true ∧ ∀ r ∈ twoHouses.rules, ∀ side,
      (r.operand side).isPosition = true →
        (r.operand side).value.toList.length ≤ Numeral.digitLimit) ∧
    ∃ report, validate (.int 2) twoHouses.domains twoHouses.rules = .ok report ∧
      (report.isValid = true ↔ report.errors = []) ∧
      (report.errors = [] ↔
        ∃ n, Json.int 2 = .int n ∧
          Puzzle.WellFormed ⟨n, twoHouses.domains, twoHouses.rules⟩) := by
  have hlen : ∀ r ∈ twoHouses.rules, ∀ side, (r.operand side).isPosition = true →
      (r.operand side).value.toList.length ≤ Numeral.digitLimit := by
    intro r hr side _
    simp only [twoHouses, List.mem_cons, List.not_mem_nil, or_false] at hr
    rcases hr with rfl | rfl <;> cases side <;> decide
  exact ⟨⟨rfl, hlen⟩, isValid_iff_wellFormed (.int 2) _ _ rfl hlen⟩

end HousePuzzle
