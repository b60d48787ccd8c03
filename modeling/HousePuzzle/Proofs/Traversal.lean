import Mathlib.Data.List.Forall2

/-! What a computation that may fail has gone through when it succeeds. -/

namespace HousePuzzle

universe u v w

variable {ε : Type u} {α : Type v} {β : Type w} {f : α → Except ε β} {xs : List α} {ys : List β}

theorem Except.map_eq_ok_iff {g : α → β} {o : Except ε α} {y : β} :
    o.map g = .ok y ↔ ∃ x, o = .ok x ∧ g x = y := by
  cases o <;> simp [Except.map]

theorem Except.bind_eq_ok_iff {γ : Type v} {g : α → Except ε γ} {o : Except ε α} {y : γ} :
    (o >>= g) = .ok y ↔ ∃ x, o = .ok x ∧ g x = .ok y := by
  cases o <;> simp [bind, Except.bind]

theorem Except.mapError_eq_ok_iff {δ : Type u} {g : ε → δ} {o : Except ε α} {x : α} :
    o.mapError g = .ok x ↔ o = .ok x := by
  cases o <;> simp [Except.mapError]

theorem Except.map_eq_error_iff {g : α → β} {o : Except ε α} {e : ε} :
    o.map g = .error e ↔ o = .error e := by
  cases o <;> simp [Except.map]

theorem Except.bind_eq_error_iff {γ : Type v} {g : α → Except ε γ} {o : Except ε α} {e : ε} :
    (o >>= g) = .error e ↔ o = .error e ∨ ∃ x, o = .ok x ∧ g x = .error e := by
  cases o <;> simp [bind, Except.bind]

theorem Except.mapError_eq_error_iff {δ : Type u} {g : ε → δ} {o : Except ε α} {e : δ} :
    o.mapError g = .error e ↔ ∃ d, o = .error d ∧ g d = e := by
  cases o <;> simp [Except.mapError]

theorem mapM_eq_ok_iff : xs.mapM f = .ok ys ↔ List.Forall₂ (fun x y => f x = .ok y) xs ys := by
  induction xs generalizing ys with
  | nil => cases ys <;> simp [pure, Except.pure]
  | cons x xs ih =>
    rw [List.mapM_cons]
    cases hx : f x with
    | error e => cases ys <;> simp [bind, Except.bind, hx]
    | ok y =>
      cases hxs : xs.mapM f with
      | error e => cases ys <;> simp [bind, Except.bind, ← ih, hx, hxs]
      | ok zs => cases ys <;> simp [bind, Except.bind, pure, Except.pure, ← ih, hx, hxs]

theorem forM_eq_ok_iff {g : α → Except ε PUnit} :
    xs.forM g = .ok ⟨⟩ ↔ ∀ x ∈ xs, g x = .ok ⟨⟩ := by
  induction xs with
  | nil => simp [List.forM, pure, Except.pure]
  | cons x xs ih =>
    change (g x >>= fun _ => xs.forM g) = .ok ⟨⟩ ↔ _
    rw [Except.bind_eq_ok_iff, List.forall_mem_cons, ih]
    exact ⟨fun ⟨_, hx, hxs⟩ => ⟨hx, hxs⟩, fun ⟨hx, hxs⟩ => ⟨⟨⟩, hx, hxs⟩⟩

theorem exists_forall₂_iff {R : α → β → Prop} :
    (∃ ys, List.Forall₂ R xs ys) ↔ ∀ x ∈ xs, ∃ y, R x y := by
  constructor
  · rintro ⟨ys, h⟩
    induction h with
    | nil => simp
    | cons hx _ ih => exact List.forall_mem_cons.2 ⟨⟨_, hx⟩, ih⟩
  · intro h
    induction xs with
    | nil => exact ⟨[], .nil⟩
    | cons x xs ih =>
      obtain ⟨hx, hxs⟩ := List.forall_mem_cons.1 h
      obtain ⟨y, hy⟩ := hx
      obtain ⟨ys, hys⟩ := ih hxs
      exact ⟨y :: ys, .cons hy hys⟩

theorem exists_mapM_iff : (∃ ys, xs.mapM f = .ok ys) ↔ ∀ x ∈ xs, ∃ y, f x = .ok y := by
  simp only [mapM_eq_ok_iff]
  exact exists_forall₂_iff

theorem exists_getElem?_of_mapM (h : xs.mapM f = .ok ys) {i : Nat} {x : α} (hx : xs[i]? = some x) :
    ∃ y, ys[i]? = some y ∧ f x = .ok y := by
  induction mapM_eq_ok_iff.1 h generalizing i with
  | nil => cases hx
  | cons hy hrest ih =>
    cases i with
    | zero =>
      obtain rfl := Option.some.inj hx
      exact ⟨_, rfl, hy⟩
    | succ i => exact ih (mapM_eq_ok_iff.2 hrest) hx

/-- Another member gives another result, in its place. -/
theorem mapM_set (h : xs.mapM f = .ok ys) (i : Nat) {x : α} {y : β} (hx : f x = .ok y) :
    (xs.set i x).mapM f = .ok (ys.set i y) := by
  rw [mapM_eq_ok_iff] at h ⊢
  induction h generalizing i with
  | nil => exact .nil
  | cons hy hrest ih =>
    cases i with
    | zero => exact .cons hx hrest
    | succ i => exact .cons hy (ih i)

/-- The first member that fails decides, whatever is behind it. -/
theorem mapM_eq_error_of_append {front : List α} (rest : List α) {x : α} {e : ε}
    (hfront : ∀ y ∈ front, ∃ z, f y = .ok z) (hx : f x = .error e) :
    (front ++ x :: rest).mapM f = .error e := by
  induction front with
  | nil =>
    rw [List.nil_append, List.mapM_cons, hx]
    rfl
  | cons y front ih =>
    obtain ⟨⟨z, hz⟩, hfront⟩ := List.forall_mem_cons.1 hfront
    rw [List.cons_append, List.mapM_cons, hz, ih hfront]
    rfl

theorem mapM_eq_error_iff {e : ε} : xs.mapM f = .error e ↔
    ∃ front x rest, xs = front ++ x :: rest ∧ (∀ y ∈ front, ∃ z, f y = .ok z) ∧
      f x = .error e := by
  constructor
  · intro h
    induction xs with
    | nil => cases h
    | cons x xs ih =>
      rw [List.mapM_cons, Except.bind_eq_error_iff] at h
      rcases h with hx | ⟨y, hy, h⟩
      · exact ⟨[], x, xs, rfl, by simp, hx⟩
      · rcases Except.bind_eq_error_iff.1 h with hxs | ⟨ys, _, hpure⟩
        · obtain ⟨front, z, rest, rfl, hfront, hz⟩ := ih hxs
          exact ⟨x :: front, z, rest, rfl, List.forall_mem_cons.2 ⟨⟨y, hy⟩, hfront⟩, hz⟩
        · cases hpure
  · rintro ⟨front, x, rest, rfl, hfront, hx⟩
    exact mapM_eq_error_of_append rest hfront hx

/-- A failure comes from a member. -/
theorem exists_of_mapM_eq_error {e : ε} (h : xs.mapM f = .error e) :
    ∃ x ∈ xs, f x = .error e := by
  obtain ⟨front, x, rest, rfl, _, hx⟩ := mapM_eq_error_iff.1 h
  exact ⟨x, by simp, hx⟩

theorem exists_of_forM_eq_error {g : α → Except ε PUnit} {e : ε} (h : xs.forM g = .error e) :
    ∃ x ∈ xs, g x = .error e := by
  induction xs with
  | nil => cases h
  | cons x xs ih =>
    change (g x >>= fun _ => xs.forM g) = .error e at h
    rcases Except.bind_eq_error_iff.1 h with hx | ⟨_, _, hxs⟩
    · exact ⟨x, List.mem_cons_self, hx⟩
    · obtain ⟨z, hz, herror⟩ := ih hxs
      exact ⟨z, List.mem_cons_of_mem x hz, herror⟩

/-- Every result comes from a member. -/
theorem exists_of_mem_mapM {y : β} (h : xs.mapM f = .ok ys) (hy : y ∈ ys) :
    ∃ x ∈ xs, f x = .ok y := by
  induction mapM_eq_ok_iff.1 h with
  | nil => cases hy
  | cons hx hrest ih =>
    rcases List.mem_cons.1 hy with rfl | hy
    · exact ⟨_, List.mem_cons_self, hx⟩
    · obtain ⟨x, hmem, hok⟩ := ih (mapM_eq_ok_iff.2 hrest) hy
      exact ⟨x, List.mem_cons_of_mem _ hmem, hok⟩

theorem forall_of_mapM_eq_some {g : α → Option β} {as : List α} {bs : List β}
    (h : as.mapM g = some bs) : as.length = bs.length ∧ ∀ a ∈ as, ∃ b, g a = some b := by
  induction as generalizing bs with
  | nil =>
    obtain rfl := Option.some.inj h
    simp
  | cons a as ih =>
    rw [List.mapM_cons] at h
    obtain ⟨b, hb, h⟩ := Option.bind_eq_some_iff.1 h
    obtain ⟨bs, hbs, h⟩ := Option.bind_eq_some_iff.1 h
    obtain rfl := Option.some.inj h
    obtain ⟨hlength, hall⟩ := ih hbs
    exact ⟨congrArg (· + 1) hlength, List.forall_mem_cons.2 ⟨⟨b, hb⟩, hall⟩⟩

end HousePuzzle
