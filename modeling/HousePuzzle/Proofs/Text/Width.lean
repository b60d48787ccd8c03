import HousePuzzle.Text.Blank
import HousePuzzle.Text.Width

/-!
Texts of which every character takes columns. They have no line ends and no tabulators, and are as
wide as their characters together.
-/

namespace HousePuzzle.Text

/-- Every character takes columns, one or two. -/
def IsVisible (cs : List Char) : Prop :=
  ∀ c ∈ cs, charWidth c ≠ 0

instance (cs : List Char) : Decidable (IsVisible cs) :=
  List.decidableBAll _ _

variable {cs ds : List Char} {c : Char} {n : Nat}

theorem isVisible_append : IsVisible (cs ++ ds) ↔ IsVisible cs ∧ IsVisible ds :=
  List.forall_mem_append

theorem isVisible_replicate (h : charWidth c ≠ 0) (n : Nat) : IsVisible (List.replicate n c) :=
  fun _ hd => List.eq_of_mem_replicate hd ▸ h

theorem IsVisible.ne (h : IsVisible cs) (hc : charWidth c = 0) : c ∉ cs :=
  fun hmem => h c hmem hc

section Total

variable {ns ms : List Nat}

theorem total_append : total (ns ++ ms) = total ns + total ms := by
  induction ns with
  | nil => simp [total]
  | cons n ns ih => rw [List.cons_append, total_cons, total_cons, ih, Nat.add_assoc]

theorem total_replicate (n m : Nat) : total (List.replicate n m) = n * m := by
  induction n with
  | zero => simp [total]
  | succ n ih => rw [List.replicate_succ, total_cons, ih, Nat.succ_mul, Nat.add_comm]

theorem le_total (h : n ∈ ns) : n ≤ total ns := by
  induction ns with
  | nil => cases h
  | cons m ns ih =>
    rw [total_cons]
    rcases List.mem_cons.1 h with rfl | h
    · exact Nat.le_add_right _ _
    · exact Nat.le_trans (ih h) (Nat.le_add_left _ _)

end Total

namespace IsVisible

theorem width_eq (h : IsVisible cs) : width cs = total (cs.map charWidth) :=
  width_eq_total fun c hc =>
    ⟨fun heq => h c hc (by rw [heq]; decide +kernel),
      fun heq => h c hc (by rw [heq]; decide +kernel)⟩

theorem width_append (h : IsVisible (cs ++ ds)) : width (cs ++ ds) = width cs + width ds := by
  obtain ⟨hcs, hds⟩ := isVisible_append.1 h
  rw [h.width_eq, hcs.width_eq, hds.width_eq, List.map_append, total_append]

/-- The parts of a text are together as wide as the text. -/
theorem total_parts {parts : List (List Char)} (h : IsVisible parts.flatten) :
    total (parts.map width) = width parts.flatten := by
  induction parts with
  | nil => rfl
  | cons part parts ih =>
    rw [List.flatten_cons] at h
    rw [List.map_cons, total_cons, List.flatten_cons, h.width_append,
      ih (isVisible_append.1 h).2]

theorem length_le_width (h : IsVisible cs) : cs.length ≤ width cs := by
  rw [h.width_eq]
  induction cs with
  | nil => exact Nat.le_refl 0
  | cons c cs ih =>
    obtain ⟨hc, hcs⟩ := List.forall_mem_cons.1 h
    have hone := Nat.pos_of_ne_zero hc
    have hlength := ih hcs
    rw [List.map_cons, total_cons, List.length_cons]
    omega

end IsVisible

theorem width_replicate (h : charWidth c = 1) (n : Nat) : width (List.replicate n c) = n := by
  rw [(isVisible_replicate (by rw [h]; decide) n).width_eq, List.map_replicate, h, total_replicate,
    Nat.mul_one]

theorem width_spaces (n : Nat) : width (List.replicate n ' ') = n :=
  width_replicate (by decide) n

end HousePuzzle.Text
