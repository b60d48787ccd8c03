import HousePuzzle.Text.Blank
import Mathlib.Data.List.Basic
import Mathlib.Data.List.DropRight

/-!
Texts without the blanks around them: neither end is blank, and trimming them changes nothing.
-/

namespace HousePuzzle.Text

variable {c d : Char} {cs : List Char} {s : String}

theorem trimLeft_cons (hc : isBlank c = false) : trimLeft (c :: cs) = c :: cs := by
  simp [trimLeft, hc]

theorem trimRight_concat (hd : isBlank d = false) : trimRight (cs ++ [d]) = cs ++ [d] := by
  simp [trimRight, hd]

/-- Neither the first nor the last character is blank. -/
def IsTrimmed (cs : List Char) : Prop :=
  (∀ c ∈ cs.head?, isBlank c = false) ∧ ∀ c ∈ cs.getLast?, isBlank c = false

theorem IsTrimmed.trimChars_eq (h : IsTrimmed cs) : trimChars cs = cs := by
  cases cs with
  | nil => rfl
  | cons c cs =>
    rw [trimChars, trimLeft_cons (h.1 c rfl)]
    have hne : c :: cs ≠ [] := by simp
    rw [← List.dropLast_append_getLast hne]
    exact trimRight_concat (h.2 _ (List.getLast?_eq_some_getLast hne))

theorem isTrimmed_of_forall (h : ∀ c ∈ cs, isBlank c = false) : IsTrimmed cs :=
  ⟨fun c hc => h c (List.mem_of_mem_head? hc), fun c hc => h c (List.mem_of_mem_getLast? hc)⟩

theorem trimChars_eq_self (h : ∀ c ∈ cs, isBlank c = false) : trimChars cs = cs :=
  (isTrimmed_of_forall h).trimChars_eq

theorem isBlank_head_trimLeft (hc : c ∈ (trimLeft cs).head?) : isBlank c = false := by
  have h := List.head?_dropWhile_not isBlank cs
  rw [← trimLeft, hc] at h
  exact h

theorem isTrimmed_trimChars (cs : List Char) : IsTrimmed (trimChars cs) := by
  constructor
  · intro c hc
    -- What is left of the end is the beginning of what is left of the start.
    have hprefix : trimChars cs <+: trimLeft cs := by
      rw [trimChars, trimRight, ← List.reverse_suffix, List.reverse_reverse]
      exact List.dropWhile_suffix _
    obtain ⟨rest, hrest⟩ := hprefix
    have hhead : c ∈ (trimLeft cs).head? := by
      rw [← hrest, List.head?_append, hc]
      rfl
    exact isBlank_head_trimLeft hhead
  · intro c hc
    rw [trimChars, trimRight, List.getLast?_reverse] at hc
    exact isBlank_head_trimLeft hc

@[simp] theorem trimChars_trimChars (cs : List Char) : trimChars (trimChars cs) = trimChars cs :=
  (isTrimmed_trimChars cs).trimChars_eq

@[simp] theorem trim_trim (s : String) : trim (trim s) = trim s := by
  rw [trim, toList_trim, trimChars_trimChars]
  rfl

theorem trim_eq_self_iff : trim s = s ↔ IsTrimmed s.toList := by
  constructor
  · intro h
    rw [← h, toList_trim]
    exact isTrimmed_trimChars _
  · intro h
    rw [trim, h.trimChars_eq, String.ofList_toList]

theorem trim_eq_self (h : ∀ c ∈ s.toList, isBlank c = false) : trim s = s :=
  trim_eq_self_iff.2 (isTrimmed_of_forall h)

/-- Nothing but blanks. -/
def Blank (cs : List Char) : Prop :=
  ∀ c ∈ cs, isBlank c = true

instance : Decidable (Blank cs) :=
  inferInstanceAs (Decidable (∀ c ∈ cs, isBlank c = true))

theorem exists_trimLeft (cs : List Char) : ∃ front, Blank front ∧ cs = front ++ trimLeft cs :=
  ⟨cs.takeWhile isBlank, fun _ hc => List.mem_takeWhile_imp hc,
    (List.takeWhile_append_dropWhile ..).symm⟩

theorem exists_trimRight (cs : List Char) : ∃ back, Blank back ∧ cs = trimRight cs ++ back := by
  obtain ⟨front, hfront, hcs⟩ := exists_trimLeft cs.reverse
  refine ⟨front.reverse, fun c hc => hfront c (List.mem_reverse.1 hc), ?_⟩
  rw [trimRight, ← List.reverse_append, ← trimLeft, ← hcs, List.reverse_reverse]

/-- What is trimmed from a text are blanks. -/
theorem exists_trimChars (cs : List Char) :
    ∃ front back, Blank front ∧ Blank back ∧ cs = front ++ trimChars cs ++ back := by
  obtain ⟨front, hfront, hcs⟩ := exists_trimLeft cs
  obtain ⟨back, hback, hrest⟩ := exists_trimRight (trimLeft cs)
  refine ⟨front, back, hfront, hback, ?_⟩
  rw [trimChars, List.append_assoc, ← hrest, ← hcs]

theorem mem_of_mem_trimChars (hc : c ∈ trimChars cs) : c ∈ cs := by
  obtain ⟨front, back, _, _, hcs⟩ := exists_trimChars cs
  rw [hcs]
  exact List.mem_append_left _ (List.mem_append_right _ hc)

theorem trimChars_eq_nil_iff : trimChars cs = [] ↔ Blank cs := by
  constructor
  · intro h
    obtain ⟨front, back, hfront, hback, hcs⟩ := exists_trimChars cs
    rw [h, List.append_nil] at hcs
    rw [hcs]
    exact List.forall_mem_append.2 ⟨hfront, hback⟩
  · intro h
    rw [trimChars, trimLeft, List.dropWhile_eq_nil_iff.2 h]
    rfl

theorem trimRight_append (h : Blank cs) (ds : List Char) : trimRight (ds ++ cs) = trimRight ds := by
  rw [trimRight, List.reverse_append,
    List.dropWhile_append_of_pos fun c hc => h c (List.mem_reverse.1 hc), ← trimRight]

theorem trimChars_append (h : Blank cs) (ds : List Char) : trimChars (ds ++ cs) = trimChars ds := by
  rw [trimChars, trimLeft, List.dropWhile_append, List.dropWhile_eq_nil_iff.2 h]
  split
  · next hds => rw [trimChars, trimLeft, List.isEmpty_iff.1 hds]
  · rw [trimRight_append h, ← trimLeft, ← trimChars]

@[simp] theorem trimChars_trimLeft (cs : List Char) : trimChars (trimLeft cs) = trimChars cs := by
  rw [trimChars, trimLeft, trimLeft, List.dropWhile_idempotent, ← trimLeft, ← trimChars]

@[simp] theorem trimChars_trimRight (cs : List Char) : trimChars (trimRight cs) = trimChars cs := by
  obtain ⟨back, hback, hcs⟩ := exists_trimRight cs
  conv_rhs => rw [hcs, trimChars_append hback]

@[simp] theorem blank_trimLeft_iff : Blank (trimLeft cs) ↔ Blank cs := by
  rw [← trimChars_eq_nil_iff, trimChars_trimLeft, trimChars_eq_nil_iff]

@[simp] theorem blank_trimRight_iff : Blank (trimRight cs) ↔ Blank cs := by
  rw [← trimChars_eq_nil_iff, trimChars_trimRight, trimChars_eq_nil_iff]

theorem trimLeft_append_cons (hc : isBlank c = false) (front back : List Char) :
    trimLeft (front ++ c :: back) = trimLeft front ++ c :: back := by
  rw [trimLeft, trimLeft, List.dropWhile_append]
  split
  · next hfront =>
    rw [List.isEmpty_iff.1 hfront]
    exact trimLeft_cons hc
  · rfl

/-- Where a character in between is not blank, each side is trimmed at its own end. -/
theorem trimChars_append_cons (hc : isBlank c = false) (front back : List Char) :
    trimChars (front ++ c :: back) = trimLeft front ++ c :: trimRight back := by
  have hright (ds : List Char) : trimRight (ds ++ c :: back) = ds ++ c :: trimRight back := by
    rw [trimRight, List.reverse_append, List.reverse_cons, List.append_assoc, List.singleton_append,
      ← trimLeft, trimLeft_append_cons hc]
    simp [trimRight, trimLeft]
  rw [trimChars, trimLeft_append_cons hc, hright]

end HousePuzzle.Text
