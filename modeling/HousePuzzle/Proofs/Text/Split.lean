import HousePuzzle.Text.Split
import Mathlib.Data.List.Basic

/-! The pieces of a text that is cut at a character. -/

namespace HousePuzzle.Text

variable {sep : Char} {cs ds : List Char}

theorem splitAtChar_of_notMem (h : sep ∉ cs) : splitAtChar sep cs = [cs] := by
  induction cs with
  | nil => rfl
  | cons c cs ih =>
    obtain ⟨hc, hcs⟩ := not_or.1 (mt List.mem_cons.2 h)
    rw [splitAtChar, if_neg (Ne.symm hc), ih hcs]

theorem splitAtChar_append (h : sep ∉ cs) (ds : List Char) :
    splitAtChar sep (cs ++ sep :: ds) = cs :: splitAtChar sep ds := by
  induction cs with
  | nil => rw [List.nil_append, splitAtChar, if_pos rfl]
  | cons c cs ih =>
    obtain ⟨hc, hcs⟩ := not_or.1 (mt List.mem_cons.2 h)
    rw [List.cons_append, splitAtChar, if_neg (Ne.symm hc), ih hcs]

/-- Pieces with cuts between them. -/
theorem splitAtChar_pieces {piece : List Char} {pieces : List (List Char)} (hpiece : sep ∉ piece)
    (hpieces : ∀ p ∈ pieces, sep ∉ p) :
    splitAtChar sep (piece ++ pieces.flatMap fun p => sep :: p) = piece :: pieces := by
  induction pieces generalizing piece with
  | nil => rw [List.flatMap_nil, List.append_nil, splitAtChar_of_notMem hpiece]
  | cons p pieces ih =>
    obtain ⟨hp, hpieces⟩ := List.forall_mem_cons.1 hpieces
    rw [List.flatMap_cons, List.cons_append, splitAtChar_append hpiece, ih hp hpieces]

theorem notMem_of_mem_splitAtChar {piece : List Char} (h : piece ∈ splitAtChar sep cs) :
    sep ∉ piece := by
  induction cs generalizing piece with
  | nil =>
    rw [splitAtChar, List.mem_singleton] at h
    simp [h]
  | cons c cs ih =>
    rw [splitAtChar] at h
    split at h
    · rcases List.mem_cons.1 h with rfl | h
      · simp
      · exact ih h
    · next hc =>
      cases hpieces : splitAtChar sep cs with
      | nil => exact absurd hpieces (splitAtChar_ne_nil sep cs)
      | cons first rest =>
        rw [hpieces] at h ih
        rcases List.mem_cons.1 h with rfl | h
        · exact mt List.mem_cons.1 (not_or.2 ⟨Ne.symm hc, ih List.mem_cons_self⟩)
        · exact ih (List.mem_cons_of_mem _ h)

/-- Each cut makes one piece more. -/
theorem length_splitAtChar (sep : Char) (cs : List Char) :
    (splitAtChar sep cs).length = cs.count sep + 1 := by
  induction cs with
  | nil => rfl
  | cons c cs ih =>
    rw [splitAtChar]
    by_cases hc : c = sep
    · rw [if_pos hc, List.length_cons, ih, hc, List.count_cons_self]
    · rw [if_neg hc, List.count_cons_of_ne hc, ← ih]
      cases hpieces : splitAtChar sep cs with
      | nil => exact absurd hpieces (splitAtChar_ne_nil sep cs)
      | cons piece pieces => rfl

theorem cutAtChar?_append {before : List Char} (h : sep ∉ before) (behind : List Char) :
    cutAtChar? sep (before ++ sep :: behind) = some (before, behind) := by
  induction before with
  | nil => simp [cutAtChar?]
  | cons c before ih =>
    have hc : c ≠ sep := fun hc => h (hc ▸ List.mem_cons_self)
    rw [List.cons_append, cutAtChar?, if_neg hc, ih fun hmem => h (List.mem_cons_of_mem _ hmem)]
    rfl

theorem cutAtChar?_eq_none_iff : cutAtChar? sep cs = none ↔ sep ∉ cs := by
  induction cs with
  | nil => simp [cutAtChar?]
  | cons c cs ih =>
    rw [cutAtChar?]
    split
    · next hc => simp [hc]
    · next hc => simp [ih, Ne.symm hc]

end HousePuzzle.Text
