import HousePuzzle.Console.Layout
import HousePuzzle.Proofs.Text.Width

/-!
Texts set into lines. There is always a line, if only an empty one, and a text for which there is
room takes one line.
-/

namespace HousePuzzle

open Text (IsVisible isVisible_append)

namespace StyledText

variable {t : StyledText} {c : Char} {cs : List Char} {n : Nat}

theorem divide_ne_nil (places : List Nat) : t.divide places ≠ [] := by
  cases places with
  | nil => exact List.cons_ne_nil _ _
  | cons p ps => simp [divide]

theorem lines_ne_nil : t.lines ≠ [] := by
  unfold lines
  cases placesOf '\n' t.chars with
  | nil => exact List.cons_ne_nil _ _
  | cons p ps => simp

theorem placesOf_of_notMem (h : c ∉ cs) : placesOf c cs = [] := by
  refine List.filterMap_eq_nil_iff.2 fun e he => if_neg ?_
  exact ne_of_mem_of_not_mem (List.fst_mem_of_mem_zipIdx he) h

theorem withChars_self (t : StyledText) : t.withChars t.chars = t := by
  simp [withChars]

section Visible

variable (h : IsVisible t.chars)

include h

theorem lines_of_isVisible : t.lines = [t] := by
  rw [lines, placesOf_of_notMem (h.ne (by decide))]

theorem expandTabs_of_isVisible : t.expandTabs = t := by
  rw [expandTabs, placesOf_of_notMem (h.ne (by decide))]

theorem dropBlanksBeyond_of_isVisible (hroom : Text.width t.chars ≤ n) :
    t.dropBlanksBeyond n = t := by
  have hlength : t.chars.length ≤ max n (Text.trimRight t.chars).length :=
    Nat.le_trans h.length_le_width (Nat.le_trans hroom (Nat.le_max_left n _))
  rw [dropBlanksBeyond, List.take_of_length_le hlength, withChars_self]

end Visible

end StyledText

namespace Layout

variable {l : Layout} {t : StyledText} {cs : List Char} {pieces : List (List Char)}

theorem lines_ne_nil : l.lines t ≠ [] := by
  obtain ⟨line, rest, hlines⟩ := List.exists_cons_of_ne_nil t.lines_ne_nil
  rw [lines, hlines, List.flatMap_cons]
  simp only [ne_eq, List.append_eq_nil_iff, List.map_eq_nil_iff, not_and]
  intro hnil
  split at hnil
  · exact absurd hnil (StyledText.divide_ne_nil _)
  · cases hnil

theorem render_ne_nil : l.render t ≠ [] := by
  rw [render, ne_eq, List.map_eq_nil_iff]
  exact lines_ne_nil

theorem width_trimRight_le (h : IsVisible cs) : Text.width (Text.trimRight cs) ≤ Text.width cs := by
  have hsplit : cs = Text.trimRight cs ++ (cs.reverse.takeWhile Text.isBlank).reverse := by
    rw [Text.trimRight, ← List.reverse_append, List.takeWhile_append_dropWhile, List.reverse_reverse]
  rw [hsplit] at h
  have hwidth := h.width_append
  rw [← hsplit] at hwidth
  omega

/-- Words for which there is room are not broken. -/
theorem breaksFrom_eq_nil (place used : Nat) (h : IsVisible pieces.flatten)
    (hroom : used + Text.width pieces.flatten ≤ l.columns) : l.breaksFrom place used pieces = [] := by
  induction pieces generalizing place used with
  | nil => rfl
  | cons word rest ih =>
    rw [List.flatten_cons] at h hroom
    obtain ⟨hword, hrest⟩ := isVisible_append.1 h
    have htrim := width_trimRight_le hword
    rw [h.width_append] at hroom
    have hfits : used + Text.width (Text.trimRight word) ≤ l.columns := by omega
    rw [breaksFrom, if_pos hfits]
    exact ih _ _ hrest (by omega)

theorem breaks_eq_nil (h : IsVisible cs) (hroom : Text.width cs ≤ l.columns) :
    l.breaks cs = [] := by
  have hwords := flatten_words cs
  exact breaksFrom_eq_nil 0 0 (by rwa [hwords]) (by rw [hwords]; omega)

theorem lines_of_isVisible (h : IsVisible t.chars) (hroom : Text.width t.chars ≤ l.columns) :
    l.lines t = [l.align t] := by
  rw [lines, StyledText.lines_of_isVisible h, List.flatMap_singleton]
  simp only [StyledText.expandTabs_of_isVisible h, breaks_eq_nil h hroom, StyledText.divide,
    ite_self, List.map_singleton, StyledText.dropBlanksBeyond_of_isVisible h hroom]

/-- On the left the text stays as it is, and spaces are put behind it. -/
theorem align_left (hleft : l.alignment = .left) (hroom : Text.width t.chars ≤ l.columns) :
    l.align t = t.padRight (l.columns - Text.width t.chars) := by
  unfold align
  simp only [hleft, shorten, if_pos hroom]

end Layout

end HousePuzzle
