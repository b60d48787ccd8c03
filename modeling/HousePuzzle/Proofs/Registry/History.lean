import HousePuzzle.Proofs.Registry
import Mathlib.Data.List.Induction
import Mathlib.Data.List.DropRight

/-!
Registries over time. A registry is made from pairs or from one that was made before, which stays
as it is; what it holds, and in which order, is told by the edits that led to it.
-/

namespace HousePuzzle

namespace Registry

inductive Edit
  | add (category : String) (values : List String)
  | remove (category : String)
  deriving DecidableEq

def edit (r : Registry) : Edit → Registry
  | .add category values => r.withValues category values
  | .remove category => r.without category

def edited (es : List Edit) : Registry :=
  es.foldl edit empty

theorem edited_concat (es : List Edit) (e : Edit) : edited (es ++ [e]) = (edited es).edit e :=
  List.foldl_concat ..

/-- A registry is made from pairs, or by an edit of one that was made before. -/
inductive Step
  | construct (pairs : List (String × List String))
  | edit (on : Nat) (e : Edit)

/-- Registries in the order in which they are made. Where there is none to edit, none is made. -/
def step (made : List Registry) : Step → List Registry
  | .construct pairs => made ++ [ofPairs pairs]
  | .edit on e => made ++ (made[on]?.map (·.edit e)).toList

def made (steps : List Step) : List Registry :=
  steps.foldl step []

/-- The edits that lead to each registry: its own behind those of the registry it is made from. -/
def track (histories : List (List Edit)) : Step → List (List Edit)
  | .construct pairs => histories ++ [pairs.map fun p => .add p.1 p.2]
  | .edit on e => histories ++ (histories[on]?.map (· ++ [e])).toList

def histories (steps : List Step) : List (List Edit) :=
  steps.foldl track []

theorem ofPairs_eq_edited (pairs : List (String × List String)) :
    ofPairs pairs = edited (pairs.map fun p => .add p.1 p.2) := by
  rw [edited, List.foldl_map]
  rfl

theorem step_map_edited (hs : List (List Edit)) (s : Step) :
    step (hs.map edited) s = (track hs s).map edited := by
  cases s with
  | construct pairs => rw [step, track, List.map_append, ofPairs_eq_edited]; rfl
  | edit on e =>
    rw [step, track, List.map_append, List.getElem?_map]
    cases hs[on]? with
    | none => rfl
    | some es => simp [edited_concat]

/-- Every registry comes from its own edits, whatever else is made. -/
theorem made_eq_map_edited (steps : List Step) : made steps = (histories steps).map edited := by
  induction steps using List.reverseRecOn with
  | nil => rfl
  | append_singleton steps s ih =>
    rw [made, histories, List.foldl_concat, List.foldl_concat, ← made, ← histories, ih,
      step_map_edited]

theorem prefix_step (rs : List Registry) (s : Step) : rs <+: step rs s := by
  cases s <;> exact List.prefix_append ..

theorem made_prefix (steps more : List Step) : made steps <+: made (steps ++ more) := by
  induction more using List.reverseRecOn with
  | nil => simp
  | append_singleton more s ih =>
    have hstep : made (steps ++ (more ++ [s])) = step (made (steps ++ more)) s := by
      rw [made, ← List.append_assoc, List.foldl_concat, ← made]
    rw [hstep]
    exact ih.trans (prefix_step _ _)

/-- The edits behind the last removal of a category. -/
def sinceRemoved (c : String) (es : List Edit) : List Edit :=
  es.rtakeWhile (· ≠ .remove c)

def Edit.values? (c : String) : Edit → Option (List String)
  | .add category values => if category = c then some values else none
  | .remove _ => none

/-- The lists of values that a category has been given since it was last removed. -/
def given (c : String) (es : List Edit) : List (List String) :=
  (sinceRemoved c es).filterMap (Edit.values? c)

/-- How many edits came before the one with which a category was first added since then. -/
def entered (c : String) (es : List Edit) : Nat :=
  es.length - (sinceRemoved c es).length +
    (sinceRemoved c es).findIdx fun e => (e.values? c).isSome

variable {c k : String} {vs : List String} {es : List Edit} {e : Edit}

theorem sinceRemoved_concat (he : e ≠ .remove c) :
    sinceRemoved c (es ++ [e]) = sinceRemoved c es ++ [e] :=
  List.rtakeWhile_concat_pos _ _ _ (by simpa using he)

theorem sinceRemoved_remove : sinceRemoved c (es ++ [.remove c]) = [] :=
  List.rtakeWhile_concat_neg _ _ _ (by simp)

theorem given_concat (he : e ≠ .remove c) :
    given c (es ++ [e]) = given c es ++ (e.values? c).toList := by
  rw [given, sinceRemoved_concat he, List.filterMap_append, ← given]
  cases h : e.values? c <;> simp [h]

theorem given_remove : given c (es ++ [.remove c]) = [] := by
  rw [given, sinceRemoved_remove, List.filterMap_nil]

theorem length_sinceRemoved_le (c : String) (es : List Edit) :
    (sinceRemoved c es).length ≤ es.length :=
  (List.rtakeWhile_suffix _ _).length_le

theorem findIdx_lt_iff :
    (sinceRemoved c es).findIdx (fun e => (e.values? c).isSome) < (sinceRemoved c es).length ↔
      given c es ≠ [] := by
  rw [List.findIdx_lt_length]
  simp [given, List.filterMap_eq_nil_iff, Option.isSome_iff_ne_none]

theorem entered_lt (h : given c es ≠ []) : entered c es < es.length := by
  have hlt := findIdx_lt_iff.2 h
  have hle := length_sinceRemoved_le c es
  rw [entered]
  omega

theorem entered_concat (h : given c es ≠ []) (he : e ≠ .remove c) :
    entered c (es ++ [e]) = entered c es := by
  rw [entered, sinceRemoved_concat he, List.findIdx_append, if_pos (findIdx_lt_iff.2 h),
    List.length_append, List.length_append, Nat.add_sub_add_right, ← entered]

theorem entered_add (h : given c es = []) : entered c (es ++ [.add c vs]) = es.length := by
  have hle := length_sinceRemoved_le c es
  have hnew : (Edit.values? c (.add c vs)).isSome = true := by simp [Edit.values?]
  rw [entered, sinceRemoved_concat (by simp), List.findIdx_append,
    if_neg (mt findIdx_lt_iff.1 (not_not.2 h)), List.findIdx_cons, hnew, List.length_append,
    List.length_append, Nat.add_sub_add_right]
  simp only [cond_true, Nat.zero_add]
  omega

/-- A category has the values that it was given since it was last removed, if it was given any. -/
theorem values?_edited (c : String) (es : List Edit) :
    (edited es).values? c =
      if given c es = [] then none else some (HousePuzzle.distinct (given c es).flatten) := by
  induction es using List.reverseRecOn with
  | nil => rfl
  | append_singleton es e ih =>
    rw [edited_concat]
    cases e with
    | add k vs =>
      rw [given_concat (by simp), edit]
      by_cases hk : c = k
      · subst hk
        rw [values?_withValues_self, ih]
        by_cases hgiven : given c es = []
        · simp [hgiven, Edit.values?]
        · simp [hgiven, Edit.values?, distinct_distinct_append]
      · rw [values?_withValues_of_ne hk, ih]
        simp [Edit.values?, Ne.symm hk]
    | remove k =>
      rw [edit]
      by_cases hk : c = k
      · subst hk
        rw [values?_without_self, given_remove, if_pos rfl]
      · rw [values?_without_of_ne hk, ih, given_concat (by simpa using Ne.symm hk)]
        simp [Edit.values?]

theorem mem_keys_edited_iff : c ∈ Assoc.keys (edited es).domains ↔ given c es ≠ [] := by
  rw [← not_iff_not, ← Assoc.get?_eq_none_iff, not_not]
  have hvalues := values?_edited c es
  rw [values?] at hvalues
  rw [hvalues]
  simp

/-- The categories stand in the order in which they came. -/
theorem entered_ascend (es : List Edit) :
    (Assoc.keys (edited es).domains).Pairwise fun a b => entered a es < entered b es := by
  induction es using List.reverseRecOn with
  | nil => exact .nil
  | append_singleton es e ih =>
    rw [edited_concat]
    cases e with
    | add k vs =>
      have hkept : (Assoc.keys (edited es).domains).Pairwise fun a b =>
          entered a (es ++ [.add k vs]) < entered b (es ++ [.add k vs]) := by
        refine ih.imp_of_mem fun ha hb hlt => ?_
        rwa [entered_concat (mem_keys_edited_iff.1 ha) (by simp),
          entered_concat (mem_keys_edited_iff.1 hb) (by simp)]
      rw [edit, domains_withValues, Domains.merge, Assoc.keys_alter]
      split
      · exact hkept
      · next hk =>
        refine List.pairwise_append.2 ⟨hkept, List.pairwise_singleton _ _, fun a ha b hb => ?_⟩
        obtain rfl := List.mem_singleton.1 hb
        have hgiven := mem_keys_edited_iff.1 ha
        rw [entered_concat hgiven (by simp), entered_add (not_not.1 (mt mem_keys_edited_iff.2 hk))]
        exact entered_lt hgiven
    | remove k =>
      have hkeys : Assoc.keys ((edited es).without k).domains =
          (Assoc.keys (edited es).domains).filter (· ≠ k) := by
        rw [domains_without, Assoc.keys, Assoc.keys, List.filter_map]
        rfl
      rw [edit, hkeys]
      have hkept {c : String} (hc : c ∈ (Assoc.keys (edited es).domains).filter (· ≠ k)) :
          entered c (es ++ [.remove k]) = entered c es := by
        obtain ⟨hc, hck⟩ := List.mem_filter.1 hc
        exact entered_concat (mem_keys_edited_iff.1 hc)
          (by simpa using Ne.symm (of_decide_eq_true hck))
      refine (ih.filter _).imp_of_mem fun ha hb hlt => ?_
      rwa [hkept ha, hkept hb]

/-- What a registry holds after a history of edits. -/
structure Follows (r : Registry) (es : List Edit) : Prop where
  once : (Assoc.keys r.domains).Nodup
  present : ∀ c, c ∈ Assoc.keys r.domains ↔ given c es ≠ []
  values : ∀ c vs, r.values? c = some vs → FirstOccurrences (given c es).flatten vs
  order : (Assoc.keys r.domains).Pairwise fun a b => entered a es < entered b es
  restored : ofPairs (Assoc.ofList r.domains) = r

theorem follows_edited (es : List Edit) : Follows (edited es) es := by
  refine ⟨(edited es).distinct.1, fun c => mem_keys_edited_iff, fun c vs h => ?_, entered_ascend es,
    ?_⟩
  · rw [values?_edited] at h
    obtain rfl := Option.some.inj (Option.ite_none_left_eq_some.1 h).2
    exact firstOccurrences_distinct _
  · rw [Assoc.ofList_of_nodup (edited es).distinct.1, ofPairs_domains]

/-- Registries that are made from pairs and from one another hold what their own edits gave them, in
the order in which it came; each can be made again from what it holds; and those that were made
before are there unchanged. -/
theorem made_follow_histories (steps more : List Step) :
    List.Forall₂ Follows (made steps) (histories steps) ∧ made steps <+: made (steps ++ more) := by
  refine ⟨?_, made_prefix steps more⟩
  rw [made_eq_map_edited, List.forall₂_map_left_iff, List.forall₂_same]
  exact fun es _ => follows_edited es

end Registry

end HousePuzzle
