/-!
Maps as lists of entries, in the order in which their keys first came. A key that is given again
keeps its place.
-/

namespace HousePuzzle.Assoc

universe u v

variable {α : Type u} {β : Type v}

def keys (m : List (α × β)) : List α :=
  m.map Prod.fst

@[simp] theorem keys_nil : keys ([] : List (α × β)) = [] := rfl

@[simp] theorem keys_cons (e : α × β) (m : List (α × β)) : keys (e :: m) = e.1 :: keys m := rfl

variable [DecidableEq α]

def get? (k : α) : List (α × β) → Option β
  | [] => none
  | (a, b) :: rest => if a = k then some b else get? k rest

/-- Changes the entry of `k` where it stands, or adds one at the end. -/
def alter (k : α) (f : Option β → β) : List (α × β) → List (α × β)
  | [] => [(k, f none)]
  | (a, b) :: rest => if a = k then (a, f (some b)) :: rest else (a, b) :: alter k f rest

def insert (k : α) (b : β) (m : List (α × β)) : List (α × β) :=
  alter k (fun _ => b) m

def ofList (entries : List (α × β)) : List (α × β) :=
  entries.foldl (fun m e => insert e.1 e.2 m) []

@[simp] theorem get?_nil (k : α) : get? k ([] : List (α × β)) = none := rfl

theorem get?_eq_none_iff {k : α} {m : List (α × β)} : get? k m = none ↔ k ∉ keys m := by
  induction m with
  | nil => simp
  | cons e m ih =>
    obtain ⟨a, b⟩ := e
    by_cases h : a = k
    · simp [get?, h]
    · simp [get?, h, ih, Ne.symm h]

theorem keys_alter (k : α) (f : Option β → β) (m : List (α × β)) :
    keys (alter k f m) = if k ∈ keys m then keys m else keys m ++ [k] := by
  induction m with
  | nil => simp [alter, keys]
  | cons e m ih =>
    obtain ⟨a, b⟩ := e
    by_cases h : a = k
    · simp [alter, h]
    · by_cases hk : k ∈ keys m <;> simp [alter, h, ih, hk, Ne.symm h]

@[simp] theorem get?_alter_self (k : α) (f : Option β → β) (m : List (α × β)) :
    get? k (alter k f m) = some (f (get? k m)) := by
  induction m with
  | nil => simp [alter, get?]
  | cons e m ih =>
    obtain ⟨a, b⟩ := e
    by_cases h : a = k <;> simp [alter, get?, h, ih]

theorem get?_alter_of_ne {k k' : α} (h : k' ≠ k) (f : Option β → β) (m : List (α × β)) :
    get? k' (alter k f m) = get? k' m := by
  induction m with
  | nil => simp [alter, get?, Ne.symm h]
  | cons e m ih =>
    obtain ⟨a, b⟩ := e
    by_cases ha : a = k
    · subst ha
      simp [alter, get?, Ne.symm h]
    · simp only [alter, if_neg ha, get?, ih]

end HousePuzzle.Assoc
