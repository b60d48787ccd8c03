import HousePuzzle.Registry
import Mathlib.Data.List.Induction
import Mathlib.Data.List.Nodup

/-! Looking up in maps whose keys are not repeated, and in registries. -/

namespace HousePuzzle

universe u v w

namespace Assoc

variable {α : Type u} {β : Type v} {k : α} {b : β} {m : List (α × β)}

theorem mem_keys_of_mem (h : (k, b) ∈ m) : k ∈ keys m :=
  List.mem_map.2 ⟨_, h, rfl⟩

variable [DecidableEq α]

theorem mem_of_get?_eq_some (h : get? k m = some b) : (k, b) ∈ m := by
  induction m with
  | nil => simp at h
  | cons e m ih =>
    obtain ⟨a, c⟩ := e
    simp only [get?] at h
    split at h
    · next ha =>
      obtain rfl := Option.some.inj h
      simp [ha]
    · exact List.mem_cons_of_mem _ (ih h)

theorem get?_eq_some_iff (hm : (keys m).Nodup) : get? k m = some b ↔ (k, b) ∈ m := by
  refine ⟨mem_of_get?_eq_some, fun h => ?_⟩
  induction m with
  | nil => simp at h
  | cons e m ih =>
    obtain ⟨a, c⟩ := e
    obtain ⟨ha, hm⟩ := List.nodup_cons.1 hm
    rcases List.mem_cons.1 h with h | h
    · obtain ⟨rfl, rfl⟩ := Prod.mk.inj h
      simp [get?]
    · have hne : a ≠ k := by
        rintro rfl
        exact ha (mem_keys_of_mem h)
      simp [get?, hne, ih hm h]

/-- Values may be changed in place as long as their keys are kept. -/
theorem get?_map {g : α × β → α × β} (hg : ∀ e, (g e).1 = e.1) :
    get? k (m.map g) = (get? k m).map fun b => (g (k, b)).2 := by
  induction m with
  | nil => rfl
  | cons e m ih =>
    obtain ⟨a, b⟩ := e
    by_cases ha : a = k
    · subst ha
      simp [get?, hg]
    · simp [get?, hg, ha, ih]

section Values

variable {γ : Type w} (g : β → γ)

theorem get?_map_snd (k : α) (m : List (α × β)) :
    get? k (m.map fun e => (e.1, g e.2)) = (get? k m).map g := by
  induction m with
  | nil => rfl
  | cons e m ih =>
    obtain ⟨a, b⟩ := e
    rw [List.map_cons, get?, get?, ih]
    split <;> rfl

/-- A change can be made before or after the values are written otherwise. -/
theorem alter_map_snd {f : Option β → β} {f' : Option γ → γ}
    (h : f' ((get? k m).map g) = g (f (get? k m))) :
    alter k f' (m.map fun e => (e.1, g e.2)) = (alter k f m).map fun e => (e.1, g e.2) := by
  induction m with
  | nil => rw [List.map_nil, alter, alter, List.map_singleton]; exact congrArg (fun c => [(k, c)]) h
  | cons e m ih =>
    obtain ⟨a, b⟩ := e
    rw [List.map_cons, alter, alter]
    by_cases ha : a = k
    · rw [get?, if_pos ha] at h
      rw [if_pos ha, if_pos ha, List.map_cons]
      exact congrArg (fun c => (a, c) :: m.map fun e => (e.1, g e.2)) h
    · rw [get?, if_neg ha] at h
      rw [if_neg ha, if_neg ha, ih h, List.map_cons]

end Values

theorem keys_insert_of_notMem (h : k ∉ keys m) : keys (insert k b m) = keys m ++ [k] := by
  rw [insert, keys_alter, if_neg h]

theorem keys_insert_of_mem (h : k ∈ keys m) : keys (insert k b m) = keys m := by
  rw [insert, keys_alter, if_pos h]

theorem get?_insert_self (k : α) (b : β) (m : List (α × β)) : get? k (insert k b m) = some b :=
  get?_alter_self ..

theorem get?_insert_of_ne {j : α} (h : j ≠ k) (b : β) (m : List (α × β)) :
    get? j (insert k b m) = get? j m :=
  get?_alter_of_ne h ..

/-- A value can be put in before or after all are changed in place. -/
theorem map_insert {g : α × β → α × β} (hg : ∀ e, (g e).1 = e.1) :
    (insert k b m).map g = insert k (g (k, b)).2 (m.map g) := by
  unfold insert
  induction m with
  | nil => exact congrArg (fun a => [(a, (g (k, b)).2)]) (hg (k, b))
  | cons e m ih =>
    obtain ⟨a, c⟩ := e
    have hkey : g (a, c) = (a, (g (a, c)).2) := Prod.ext (hg (a, c)) rfl
    rw [List.map_cons, hkey, alter, alter]
    by_cases ha : a = k
    · subst ha
      rw [if_pos rfl, if_pos rfl, List.map_cons]
      exact congrArg (· :: m.map g) (Prod.ext (hg (a, b)) rfl)
    · rw [if_neg ha, if_neg ha, List.map_cons, ih, hkey]

theorem get?_filter_ne_self (k : α) (m : List (α × β)) : get? k (m.filter (·.1 ≠ k)) = none := by
  rw [get?_eq_none_iff]
  simp [keys]

theorem get?_filter_ne_of_ne {j : α} (h : j ≠ k) (m : List (α × β)) :
    get? j (m.filter (·.1 ≠ k)) = get? j m := by
  induction m with
  | nil => rfl
  | cons e m ih =>
    obtain ⟨a, b⟩ := e
    by_cases ha : a = k
    · subst ha
      rw [List.filter_cons_of_neg (by simp), ih, get?, if_neg (Ne.symm h)]
    · rw [List.filter_cons_of_pos (by simpa using ha), get?, get?, ih]

theorem mem_keys_alter {j : α} {f : Option β → β} :
    j ∈ keys (alter k f m) ↔ j ∈ keys m ∨ j = k := by
  rw [keys_alter]
  split
  · next hk =>
    constructor
    · intro hj
      exact .inl hj
    · intro hj
      cases hj with
      | inl hj => exact hj
      | inr hj => exact hj ▸ hk
  · simp

theorem nodup_keys_alter {f : Option β → β} (hm : (keys m).Nodup) : (keys (alter k f m)).Nodup := by
  rw [keys_alter]
  split
  · exact hm
  · next hk => exact hm.append (List.nodup_singleton k) (by simpa using hk)

theorem mem_alter {f : Option β → β} {e : α × β} (h : e ∈ alter k f m) :
    e ∈ m ∨ e = (k, f (get? k m)) := by
  induction m with
  | nil => exact .inr (List.mem_singleton.1 h)
  | cons d m ih =>
    obtain ⟨a, b⟩ := d
    by_cases ha : a = k
    · rw [alter, if_pos ha] at h
      rw [get?, if_pos ha]
      rcases List.mem_cons.1 h with h | h
      · exact .inr (ha ▸ h)
      · exact .inl (List.mem_cons_of_mem _ h)
    · rw [alter, if_neg ha] at h
      rw [get?, if_neg ha]
      rcases List.mem_cons.1 h with h | h
      · exact .inl (h ▸ List.mem_cons_self)
      · exact (ih h).imp_left (List.mem_cons_of_mem _)

section Fold

variable {γ : Type w} {key : γ → α} {f : γ → Option β → β} {es : List γ}

/-- What holds of every entry and is kept by every change holds of every entry in the end. -/
theorem forall_mem_foldl_alter {P : α × β → Prop} (hm : ∀ d ∈ m, P d)
    (hstep : ∀ e ∈ es, ∀ old, (∀ b ∈ old, P (key e, b)) → P (key e, f e old)) :
    ∀ d ∈ es.foldl (fun m e => alter (key e) (f e) m) m, P d := by
  induction es generalizing m with
  | nil => exact hm
  | cons e es ih =>
    obtain ⟨he, hes⟩ := List.forall_mem_cons.1 hstep
    refine ih (fun d hd => ?_) hes
    rcases mem_alter hd with hd | rfl
    · exact hm d hd
    · exact he _ fun b hb => hm _ (mem_of_get?_eq_some hb)

theorem nodup_keys_foldl_alter (hm : (keys m).Nodup) :
    (keys (es.foldl (fun m e => alter (key e) (f e) m) m)).Nodup := by
  induction es generalizing m with
  | nil => exact hm
  | cons e es ih => exact ih (nodup_keys_alter hm)

theorem alter_of_notMem {f : Option β → β} (h : k ∉ keys m) :
    alter k f m = m ++ [(k, f none)] := by
  induction m with
  | nil => rfl
  | cons e m ih =>
    obtain ⟨a, b⟩ := e
    have ha : a ≠ k := fun ha => h (ha ▸ List.mem_cons_self)
    rw [alter, if_neg ha, ih fun hm => h (List.mem_cons_of_mem _ hm), List.cons_append]

/-- Entries that have different keys are put one behind the other. -/
theorem foldl_alter_of_nodup (h : (keys m ++ es.map key).Nodup) :
    es.foldl (fun m e => alter (key e) (f e) m) m = m ++ es.map fun e => (key e, f e none) := by
  induction es generalizing m with
  | nil => simp
  | cons e es ih =>
    have hkey : key e ∉ keys m := fun hm =>
      (List.nodup_append.1 h).2.2 _ hm _ List.mem_cons_self rfl
    have hnext : (keys (alter (key e) (f e) m) ++ es.map key).Nodup := by
      rw [keys_alter, if_neg hkey, List.append_assoc]
      exact h
    rw [List.foldl_cons, ih hnext, alter_of_notMem hkey, List.append_assoc]
    rfl

end Fold

theorem mem_of_mem_ofList {entries : List (α × β)} {e : α × β} (h : e ∈ ofList entries) :
    e ∈ entries :=
  forall_mem_foldl_alter (P := (· ∈ entries)) (m := []) (by simp) (fun e he _ _ => he) e h

theorem ofList_of_nodup (h : (keys m).Nodup) : ofList m = m := by
  have hput := foldl_alter_of_nodup (m := []) (f := fun (e : α × β) _ => e.2) h
  rw [List.nil_append] at hput
  exact hput.trans (List.map_id m)

theorem ofList_concat (entries : List (α × β)) (e : α × β) :
    ofList (entries ++ [e]) = insert e.1 e.2 (ofList entries) :=
  List.foldl_concat ..

/-- The last entry of a key decides. -/
theorem get?_ofList (k : α) (entries : List (α × β)) :
    get? k (ofList entries) = get? k entries.reverse := by
  induction entries using List.reverseRecOn with
  | nil => rfl
  | append_singleton entries e ih =>
    obtain ⟨a, b⟩ := e
    rw [ofList_concat, List.reverse_concat, get?]
    by_cases ha : a = k
    · subst ha
      rw [if_pos rfl, get?_insert_self]
    · rw [if_neg ha, get?_insert_of_ne (Ne.symm ha), ih]

theorem get?_eq_some_iff_append : get? k m = some b ↔
    ∃ before behind, m = before ++ (k, b) :: behind ∧ k ∉ keys before := by
  constructor
  · intro h
    induction m with
    | nil => cases h
    | cons e m ih =>
      obtain ⟨a, c⟩ := e
      by_cases ha : a = k
      · rw [get?, if_pos ha] at h
        exact ⟨[], m, by rw [ha, Option.some.inj h, List.nil_append], List.not_mem_nil⟩
      · rw [get?, if_neg ha] at h
        obtain ⟨before, behind, rfl, hbefore⟩ := ih h
        refine ⟨(a, c) :: before, behind, rfl, mt List.mem_cons.1 (not_or.2 ⟨Ne.symm ha, hbefore⟩)⟩
  · rintro ⟨before, behind, rfl, hbefore⟩
    induction before with
    | nil => rw [List.nil_append, get?, if_pos rfl]
    | cons e before ih =>
      obtain ⟨a, c⟩ := e
      obtain ⟨ha, hbefore⟩ := not_or.1 (mt List.mem_cons.2 hbefore)
      rw [List.cons_append, get?, if_neg (Ne.symm ha), ih hbefore]

theorem get?_ofList_eq_some_iff {entries : List (α × β)} : get? k (ofList entries) = some b ↔
    ∃ before behind, entries = before ++ (k, b) :: behind ∧ k ∉ keys behind := by
  rw [get?_ofList, get?_eq_some_iff_append]
  constructor
  · rintro ⟨before, behind, h, hk⟩
    refine ⟨behind.reverse, before.reverse, ?_, by simpa [keys] using hk⟩
    rw [← List.reverse_reverse entries, h]
    simp
  · rintro ⟨before, behind, rfl, hk⟩
    exact ⟨behind.reverse, before.reverse, by simp, by simpa [keys] using hk⟩

omit [DecidableEq α] in
/-- Maps with the same keys in the same order are the same when they agree. -/
theorem eq_of_keys_eq {m n : List (α × β)} (hkeys : keys m = keys n)
    (h : ∀ k b c, (k, b) ∈ m → (k, c) ∈ n → b = c) : m = n := by
  induction m generalizing n with
  | nil =>
    cases n with
    | nil => rfl
    | cons f n => cases hkeys
  | cons e m ih =>
    cases n with
    | nil => cases hkeys
    | cons f n =>
      obtain ⟨a, b⟩ := e
      obtain ⟨c, d⟩ := f
      obtain ⟨rfl, htail⟩ := List.cons.inj hkeys
      rw [h _ b d List.mem_cons_self List.mem_cons_self, ih htail fun k b c hb hc =>
        h k b c (List.mem_cons_of_mem _ hb) (List.mem_cons_of_mem _ hc)]

end Assoc

theorem distinct_concat (vs : List String) (v : String) :
    distinct (vs ++ [v]) = if v ∈ vs then distinct vs else distinct vs ++ [v] := by
  induction vs with
  | nil => rfl
  | cons w vs ih =>
    rw [List.cons_append, distinct, ih, distinct]
    by_cases hv : v ∈ vs
    · simp [hv]
    · rcases eq_or_ne v w with rfl | hw
      · simp [hv]
      · simp [hv, hw]

theorem Assoc.keys_ofList {β : Type v} (entries : List (String × β)) :
    keys (ofList entries) = distinct (keys entries) := by
  induction entries using List.reverseRecOn with
  | nil => rfl
  | append_singleton entries e ih =>
    have hkeys : keys (entries ++ [e]) = keys entries ++ [e.1] := List.map_append
    rw [ofList_concat, hkeys, distinct_concat, insert, keys_alter, ih]
    simp only [mem_distinct]

/-- Each value where it first occurs, in the order of these places. -/
structure FirstOccurrences (ws vs : List String) : Prop where
  nodup : vs.Nodup
  mem_iff : ∀ v, v ∈ vs ↔ v ∈ ws
  order : vs.Pairwise fun v w => ws.idxOf v < ws.idxOf w

theorem firstOccurrences_distinct (ws : List String) : FirstOccurrences ws (distinct ws) := by
  refine ⟨nodup_distinct ws, fun v => mem_distinct, ?_⟩
  induction ws with
  | nil => exact .nil
  | cons w ws ih =>
    have hne {v : String} (hv : v ∈ (distinct ws).filter (· ≠ w)) : w ≠ v :=
      Ne.symm (by simpa using (List.mem_filter.1 hv).2)
    refine List.pairwise_cons.2 ⟨fun v hv => ?_, ?_⟩
    · rw [List.idxOf_cons_self, List.idxOf_cons_ne _ (hne hv)]
      exact Nat.succ_pos _
    · refine (ih.filter _).imp_of_mem fun hv hu hlt => ?_
      rw [List.idxOf_cons_ne _ (hne hv), List.idxOf_cons_ne _ (hne hu)]
      exact Nat.succ_lt_succ hlt

/-- What is repeated can be left out before more is added. -/
theorem distinct_distinct_append (vs ws : List String) :
    distinct (distinct vs ++ ws) = distinct (vs ++ ws) := by
  induction ws using List.reverseRecOn with
  | nil => rw [List.append_nil, List.append_nil, distinct_of_nodup (nodup_distinct vs)]
  | append_singleton ws w ih =>
    rw [← List.append_assoc, distinct_concat, ih, ← List.append_assoc, distinct_concat]
    simp only [List.mem_append, mem_distinct]

namespace Registry

variable {d : Registry} {c : String} {vs : List String}

theorem values?_eq_some_iff : d.values? c = some vs ↔ (c, vs) ∈ d.domains :=
  Assoc.get?_eq_some_iff d.distinct.1

theorem values?_withValues_self (d : Registry) (c : String) (vs : List String) :
    (d.withValues c vs).values? c = some (HousePuzzle.distinct ((d.values? c).getD [] ++ vs)) :=
  Assoc.get?_alter_self ..

theorem values?_withValues_of_ne {k : String} (h : c ≠ k) (d : Registry) (vs : List String) :
    (d.withValues k vs).values? c = d.values? c :=
  Assoc.get?_alter_of_ne h ..

theorem values?_without_self (d : Registry) (c : String) : (d.without c).values? c = none :=
  Assoc.get?_filter_ne_self ..

theorem values?_without_of_ne {k : String} (h : c ≠ k) (d : Registry) :
    (d.without k).values? c = d.values? c :=
  Assoc.get?_filter_ne_of_ne h ..

theorem domains_ofPairs (pairs : List (String × List String)) :
    (ofPairs pairs).domains = pairs.foldl (fun d p => Domains.merge p.1 p.2 d) [] := by
  -- A registry is built like its domains, whatever both are built on.
  have hfold : ∀ r : Registry, (pairs.foldl (fun r p => r.withValues p.1 p.2) r).domains =
      pairs.foldl (fun d p => Domains.merge p.1 p.2 d) r.domains := by
    induction pairs with
    | nil => exact fun r => rfl
    | cons p pairs ih => exact fun r => ih (r.withValues p.1 p.2)
  exact hfold empty

/-- Nothing is merged in domains that are registered already. -/
theorem ofPairs_domains (r : Registry) : ofPairs r.domains = r := by
  refine ext ?_
  rw [domains_ofPairs]
  calc r.domains.foldl (fun d p => Domains.merge p.1 p.2 d) []
      = [] ++ r.domains.map fun p => (p.1, HousePuzzle.distinct ([] ++ p.2)) :=
        Assoc.foldl_alter_of_nodup r.distinct.1
    _ = r.domains.map id :=
        List.map_congr_left fun p hp => by
          rw [List.nil_append, distinct_of_nodup (r.distinct.2 p hp), id]
    _ = r.domains := List.map_id _

/-- To add values is to make a registry anew, with one entry more. -/
theorem withValues_eq_ofPairs (r : Registry) (c : String) (vs : List String) :
    r.withValues c vs = ofPairs (r.domains ++ [(c, vs)]) :=
  calc r.withValues c vs
      = (ofPairs r.domains).withValues c vs := by rw [ofPairs_domains]
    _ = ofPairs (r.domains ++ [(c, vs)]) := by
        unfold ofPairs
        rw [List.foldl_append]
        rfl

/-- To remove a category is to make a registry anew from the other entries. -/
theorem without_eq_ofPairs (r : Registry) (c : String) :
    r.without c = ofPairs (r.domains.filter (·.1 ≠ c)) :=
  (ofPairs_domains (r.without c)).symm

/-- The categories and the values of a registry are those that it was made from. -/
theorem exists_of_mem_ofPairs {pairs : List (String × List String)}
    (h : (c, vs) ∈ (ofPairs pairs).domains) :
    (∃ p ∈ pairs, p.1 = c) ∧ ∀ v ∈ vs, ∃ p ∈ pairs, p.1 = c ∧ v ∈ p.2 := by
  rw [domains_ofPairs] at h
  refine Assoc.forall_mem_foldl_alter (m := [])
    (f := fun (p : String × List String) old => HousePuzzle.distinct (old.getD [] ++ p.2))
    (P := fun e => (∃ p ∈ pairs, p.1 = e.1) ∧ ∀ v ∈ e.2, ∃ p ∈ pairs, p.1 = e.1 ∧ v ∈ p.2)
    (fun _ hd => absurd hd List.not_mem_nil)
    (fun p hp old hold => ⟨⟨p, hp, rfl⟩, fun v hv => ?_⟩) (c, vs) h
  rcases List.mem_append.1 (mem_distinct.1 hv) with hv | hv
  · cases old with
    | none => cases hv
    | some ws => exact (hold ws rfl).2 v hv
  · exact ⟨p, hp, rfl, hv⟩

/-- A value of a category. -/
def Has (d : Registry) (c v : String) : Prop :=
  ∃ vs, (c, vs) ∈ d.domains ∧ v ∈ vs

theorem has_iff {v : String} : d.Has c v ↔ v ∈ (d.values? c).getD [] := by
  simp only [Has, ← values?_eq_some_iff]
  cases d.values? c <;> simp

theorem mem_categories_iff :
    c ∈ d.categories ↔ (∃ vs, (c, vs) ∈ d.domains) ∧ c ≠ Name.position := by
  simp [categories, Assoc.keys]

theorem has_withValues_iff {k v : String} :
    (d.withValues k vs).Has c v ↔ d.Has c v ∨ (k = c ∧ v ∈ vs) := by
  simp only [has_iff]
  by_cases hk : c = k
  · subst hk
    rw [values?_withValues_self]
    simp
  · rw [values?_withValues_of_ne hk]
    simp [Ne.symm hk]

/-- A category has the values that are given for it, wherever they are given. -/
theorem has_ofPairs_iff {pairs : List (String × List String)} {v : String} :
    (ofPairs pairs).Has c v ↔ ∃ p ∈ pairs, p.1 = c ∧ v ∈ p.2 := by
  have hfold : ∀ r : Registry, (pairs.foldl (fun r p => r.withValues p.1 p.2) r).Has c v ↔
      r.Has c v ∨ ∃ p ∈ pairs, p.1 = c ∧ v ∈ p.2 := by
    induction pairs with
    | nil => simp
    | cons p pairs ih =>
      intro r
      rw [List.foldl_cons, ih, has_withValues_iff, or_assoc]
      simp
  refine (hfold empty).trans (or_iff_right ?_)
  rintro ⟨vs, hmem, _⟩
  cases hmem

theorem eq_of_mem {ws : List String} (hv : (c, vs) ∈ d.domains) (hw : (c, ws) ∈ d.domains) :
    vs = ws := by
  rw [← values?_eq_some_iff] at hv hw
  exact Option.some.inj (hv.symm.trans hw)

end Registry

end HousePuzzle
