import HousePuzzle.Proofs.Console.Layout
import HousePuzzle.Proofs.Console.Table

/-!
Tables for which there is room. Every row takes one line, in which each text has the width of its
column, and no text is cut or broken.
-/

namespace HousePuzzle.Table

open Text (IsVisible isVisible_append charWidth)

variable {columns limit : Nat}

section Lines

/-- A text with spaces at its sides, filled up to the width of its column. -/
def padded (room : Nat) (cs : List Char) : List Char :=
  ' ' :: cs ++ List.replicate (room - Text.width cs) ' ' ++ [' ']

/-- The cells of a row, with spaces between them and at the sides. -/
def line (cells : List (List Char)) : List Char :=
  ' ' :: [' '].intercalate cells ++ [' ']

variable {c : Sized} {s : StyledText} {room : Nat}

theorem fitParts_eq {parts : List (List Char)} (room : Nat) (h : IsVisible parts.flatten) (hwidth : Text.width parts.flatten = room) :
    StyledText.fitParts room parts = parts ++ [[]] := by
  have hparts : StyledText.partsWidth parts = room := by
    rw [StyledText.partsWidth, h.total_parts, hwidth]
  rw [StyledText.fitParts, StyledText.cropParts, hparts, if_pos (Nat.le_refl room), Nat.sub_self,
    List.replicate_zero]

theorem chars_padRight (s : StyledText) (n : Nat) :
    (s.padRight n).chars = s.chars ++ List.replicate n ' ' := rfl

theorem isVisible_padRight (h : IsVisible s.chars) (n : Nat) : IsVisible (s.padRight n).chars :=
  isVisible_append.2 ⟨h, Text.isVisible_replicate (by decide) n⟩

theorem width_padRight (h : IsVisible s.chars) (hroom : Text.width s.chars ≤ room) :
    Text.width (s.padRight (room - Text.width s.chars)).chars = room := by
  have hall := isVisible_padRight h (room - Text.width s.chars)
  rw [chars_padRight] at hall ⊢
  rw [hall.width_append, Text.width_spaces]
  exact Nat.add_sub_cancel' hroom

theorem isVisible_padded {cs : List Char} (h : IsVisible cs) (room : Nat) :
    IsVisible (padded room cs) := by
  have hspace : IsVisible [' '] := by decide
  exact isVisible_append.2 ⟨isVisible_append.2 ⟨isVisible_append.2 ⟨hspace, h⟩,
    Text.isVisible_replicate (by decide) _⟩, hspace⟩

theorem width_padded {cs : List Char} (h : IsVisible cs) (hroom : Text.width cs ≤ room) :
    Text.width (padded room cs) = room + padding := by
  have hall := isVisible_padded h room
  have hone : Text.width [' '] = 1 := Text.width_spaces 1
  obtain ⟨hbody, _⟩ := isVisible_append.1 hall
  obtain ⟨hfront, _⟩ := isVisible_append.1 hbody
  have hspace : IsVisible ([' '] ++ cs) := hfront
  have hfrontWidth : Text.width (' ' :: cs) = Text.width [' '] + Text.width cs :=
    hspace.width_append
  rw [padded, hall.width_append, hbody.width_append, hfrontWidth, Text.width_spaces, hone, padding]
  omega

/-- A text for which the column has room takes one line. -/
theorem exists_cellLines_eq (room : Nat) (hleft : c.alignment = .left) (hc : c.width = room + padding)
    (hpos : 0 < room) (h : IsVisible s.chars) (hroom : Text.width s.chars ≤ room) :
    ∃ parts, cellLines c s = [parts] ∧ parts.flatten = padded room s.chars := by
  have hinner : StyledText.fitParts room (s.padRight (room - Text.width s.chars)).parts =
      (s.padRight (room - Text.width s.chars)).parts ++ [[]] := by
    refine fitParts_eq room ?_ ?_ <;> rw [StyledText.flatten_parts]
    · exact isVisible_padRight h _
    · exact width_padRight h hroom
  have hflatten : ([' '] :: ((s.padRight (room - Text.width s.chars)).parts ++ [[]]) ++
      [[' ']]).flatten = padded room s.chars := by
    simp [StyledText.flatten_parts, padded, StyledText.padRight, StyledText.append,
      StyledText.plain]
  have houter := fitParts_eq c.width (by rw [hflatten]; exact isVisible_padded h room)
    (by rw [hflatten, width_padded h hroom, hc])
  have hcolumns : c.width - padding = room := by rw [hc, Nat.add_sub_cancel]
  have hlines : cellLines c s = [[' '] :: ((s.padRight (room - Text.width s.chars)).parts ++ [[]]) ++
      [[' ']] ++ [[]]] := by
    unfold cellLines
    simp only [hcolumns, if_neg (Nat.ne_of_gt hpos)]
    rw [Layout.lines_of_isVisible h hroom, Layout.align_left hleft hroom, List.map_singleton, hinner,
      houter]
  refine ⟨_, hlines, ?_⟩
  rw [List.flatten_append, hflatten]
  simp

theorem foldl_max_eq {ns : List Nat} {k : Nat} (h : ∀ n ∈ ns, n ≤ k) : ns.foldl max k = k := by
  induction ns with
  | nil => rfl
  | cons n ns ih =>
    obtain ⟨hn, hns⟩ := List.forall_mem_cons.1 h
    rw [List.foldl_cons, Nat.max_eq_left hn, ih hns]

theorem flatten_intercalate (sep : List (List Char)) (lists : List (List (List Char))) :
    (sep.intercalate lists).flatten = sep.flatten.intercalate (lists.map List.flatten) := by
  induction lists with
  | nil => rfl
  | cons first rest ih =>
    cases rest with
    | nil => simp [List.intercalate]
    | cons second rest =>
      simp only [List.intercalate, List.map_cons, List.intersperse_cons_cons, List.flatten_cons,
        List.flatten_append] at ih ⊢
      rw [ih]

/-- A column on the left, with room for each of its texts. -/
structure Sized.Fits (c : Sized) : Prop where
  left : c.alignment = .left
  wide : padding < c.width
  visible : ∀ s ∈ c.texts, IsVisible s.chars
  room : ∀ s ∈ c.texts, Text.width s.chars + padding ≤ c.width

/-- What stands in a row of a column. -/
def Sized.cell (row : Nat) (c : Sized) : List Char :=
  padded (c.width - padding) ((c.texts[row]?.map (·.chars)).getD [])

/-- The line that a column has in a row, in its parts. -/
def Sized.parts (row : Nat) (c : Sized) : List (List Char) :=
  ((c.texts[row]?.map (cellLines c)).getD []).headD []

theorem Sized.Fits.cellLines_eq {row : Nat} (h : c.Fits) (hrow : row < c.texts.length) :
    (c.texts[row]?.map (cellLines c)).getD [] = [c.parts row] ∧
      (c.parts row).flatten = c.cell row := by
  have hmem : c.texts[row] ∈ c.texts := List.getElem_mem hrow
  have hwide := h.wide
  have hroom := h.room _ hmem
  obtain ⟨ps, hlines, hflatten⟩ := exists_cellLines_eq (c.width - padding) h.left
    (by omega) (by omega) (h.visible _ hmem) (by omega)
  simp [Sized.parts, Sized.cell, List.getElem?_eq_getElem hrow, hlines, hflatten]

/-- A row takes one line, in which its cells stand one behind the other. -/
theorem rowLines_eq {sized : List Sized} {row : Nat}
    (h : ∀ c ∈ sized, c.Fits ∧ row < c.texts.length) :
    rowLines sized row = [framed ([[' ']].intercalate (sized.map (Sized.parts row)))] := by
  have hcells : (sized.map fun c => ([List.replicate c.width ' '],
      (c.texts[row]?.map (cellLines c)).getD [])) =
      sized.map fun c => ([List.replicate c.width ' '], [c.parts row]) :=
    List.map_congr_left fun c hc => by rw [((h c hc).1.cellLines_eq (h c hc).2).1]
  have hheight : (sized.map fun _ : Sized => 1).foldl max 1 = 1 := by
    refine foldl_max_eq fun n hn => ?_
    obtain ⟨c, _, rfl⟩ := List.mem_map.1 hn
    exact Nat.le_refl 1
  unfold rowLines
  simp only [hcells, List.map_map, Function.comp_def, List.length_singleton, hheight]
  simp

theorem flatten_row {sized : List Sized} {row : Nat}
    (h : ∀ c ∈ sized, c.Fits ∧ row < c.texts.length) :
    (framed ([[' ']].intercalate (sized.map (Sized.parts row)))).flatten =
      line (sized.map (Sized.cell row)) := by
  have hcells : (sized.map (Sized.parts row)).map List.flatten = sized.map (Sized.cell row) := by
    rw [List.map_map]
    exact List.map_congr_left fun c hc => ((h c hc).1.cellLines_eq (h c hc).2).2
  rw [framed, List.flatten_append, List.flatten_cons, flatten_intercalate, hcells, line]
  simp

theorem flatten_cropParts {columns : Nat} {ps : List (List Char)} (h : IsVisible ps.flatten)
    (hwidth : Text.width ps.flatten ≤ columns) :
    (StyledText.cropParts columns ps).flatten = ps.flatten := by
  rw [StyledText.cropParts, StyledText.partsWidth, h.total_parts, if_pos hwidth]

theorem isVisible_intercalate {cells : List (List Char)} (h : ∀ cs ∈ cells, IsVisible cs) :
    IsVisible ([' '].intercalate cells) := by
  have hspace : IsVisible [' '] := by decide
  induction cells with
  | nil => exact fun _ hc => absurd hc List.not_mem_nil
  | cons first rest ih =>
    obtain ⟨hfirst, hrest⟩ := List.forall_mem_cons.1 h
    cases rest with
    | nil => simpa [List.intercalate] using hfirst
    | cons second rest =>
      have hlater := ih hrest
      simp only [List.intercalate, List.intersperse_cons_cons, List.flatten_cons] at hlater ⊢
      exact isVisible_append.2 ⟨hfirst, isVisible_append.2 ⟨hspace, hlater⟩⟩

theorem width_intercalate {cells : List (List Char)} (h : ∀ cs ∈ cells, IsVisible cs) :
    Text.width ([' '].intercalate cells) = Text.total (cells.map Text.width) + (cells.length - 1) := by
  have hone : Text.width [' '] = 1 := Text.width_spaces 1
  have hvisible := isVisible_intercalate h
  induction cells with
  | nil => rfl
  | cons first rest ih =>
    obtain ⟨_, hrest⟩ := List.forall_mem_cons.1 h
    cases rest with
    | nil => simp [List.intercalate, Text.total]
    | cons second rest =>
      have hlater := ih hrest (isVisible_intercalate hrest)
      simp only [List.intercalate, List.intersperse_cons_cons, List.flatten_cons] at hlater hvisible ⊢
      obtain ⟨_, hbehind⟩ := isVisible_append.1 hvisible
      rw [hvisible.width_append, hbehind.width_append, hone, hlater]
      simp only [List.map_cons, Text.total_cons, List.length_cons]
      omega

/-- The rule under the headings of columns of some widths. -/
def rule (widths : List Nat) : List Char :=
  ' ' :: List.replicate (Text.total widths + (widths.length - 1)) '─' ++ [' ']

section Rows

variable {sized : List Sized} {columns row : Nat}

theorem Sized.Fits.isVisible_cell (h : c.Fits) (hrow : row < c.texts.length) :
    IsVisible (c.cell row) ∧ Text.width (c.cell row) = c.width := by
  have hmem : c.texts[row] ∈ c.texts := List.getElem_mem hrow
  have hwide := h.wide
  have hroom := h.room _ hmem
  have hcell : c.cell row = padded (c.width - padding) c.texts[row].chars := by
    simp [Sized.cell, List.getElem?_eq_getElem hrow]
  rw [hcell, width_padded (h.visible _ hmem) (by omega)]
  exact ⟨isVisible_padded (h.visible _ hmem) _, by omega⟩

theorem isVisible_framed {cs : List Char} (h : IsVisible cs) : IsVisible (' ' :: cs ++ [' ']) := by
  have hspace : IsVisible [' '] := by decide
  exact isVisible_append.2 ⟨isVisible_append.2 ⟨hspace, h⟩, hspace⟩

theorem width_framed {cs : List Char} (h : IsVisible cs) :
    Text.width (' ' :: cs ++ [' ']) = Text.width cs + 2 := by
  have hone : Text.width [' '] = 1 := Text.width_spaces 1
  have hall := isVisible_framed h
  obtain ⟨hfront, _⟩ := isVisible_append.1 hall
  have hsplit : IsVisible ([' '] ++ cs) := hfront
  have hfrontWidth : Text.width (' ' :: cs) = Text.width [' '] + Text.width cs :=
    hsplit.width_append
  rw [hall.width_append, hfrontWidth, hone]
  omega

/-- There is room for every row if there is room for the columns and a space beside each. -/
theorem isVisible_row (hne : sized ≠ []) (h : ∀ c ∈ sized, c.Fits ∧ row < c.texts.length) :
    IsVisible (line (sized.map (Sized.cell row))) ∧
      Text.width (line (sized.map (Sized.cell row))) =
        Text.total (sized.map (·.width)) + (sized.length + 1) := by
  have hcells : ∀ cs ∈ sized.map (Sized.cell row), IsVisible cs := by
    intro cs hcs
    obtain ⟨c, hc, rfl⟩ := List.mem_map.1 hcs
    exact ((h c hc).1.isVisible_cell (h c hc).2).1
  have hwidths : (sized.map (Sized.cell row)).map Text.width = sized.map (·.width) := by
    rw [List.map_map]
    exact List.map_congr_left fun c hc => ((h c hc).1.isVisible_cell (h c hc).2).2
  have hlength := List.length_pos_iff.2 hne
  have hinner := isVisible_intercalate hcells
  refine ⟨isVisible_framed hinner, ?_⟩
  rw [line, width_framed hinner, width_intercalate hcells, hwidths, List.length_map]
  omega

theorem rowCount_eq {count : Nat} (hne : sized ≠ []) (h : ∀ c ∈ sized, c.texts.length = count) :
    rowCount sized = count := by
  obtain ⟨c, rest, rfl⟩ := List.exists_cons_of_ne_nil hne
  obtain ⟨hc, hrest⟩ := List.forall_mem_cons.1 h
  rw [rowCount, List.map_cons, List.foldl_cons, hc, Nat.zero_max]
  refine foldl_max_eq fun n hn => ?_
  obtain ⟨d, hd, rfl⟩ := List.mem_map.1 hn
  exact Nat.le_of_eq (hrest d hd)

/-- Nothing is cut off a row for which there is room. -/
theorem cropParts_rowLines (hne : sized ≠ []) (h : ∀ c ∈ sized, c.Fits ∧ row < c.texts.length)
    (hroom : Text.total (sized.map (·.width)) + (sized.length + 1) ≤ columns) :
    (rowLines sized row).map (fun line => (StyledText.cropParts columns line).flatten) =
      [line (sized.map (Sized.cell row))] := by
  have hflatten := flatten_row h
  obtain ⟨hvisible, hwidth⟩ := isVisible_row hne h
  rw [rowLines_eq h, List.map_singleton, flatten_cropParts, hflatten]
  · rw [hflatten]
    exact hvisible
  · rw [hflatten, hwidth]
    exact hroom

theorem isVisible_rule {widths : List Nat} (hne : widths ≠ []) :
    IsVisible (rule widths) ∧
      Text.width (rule widths) = Text.total widths + (widths.length + 1) := by
  have hline : IsVisible (List.replicate (Text.total widths + (widths.length - 1)) '─') :=
    Text.isVisible_replicate (by decide +kernel) _
  have hlength := List.length_pos_iff.2 hne
  refine ⟨isVisible_framed hline, ?_⟩
  rw [rule, width_framed hline, Text.width_replicate (by decide +kernel)]
  omega

theorem flatten_ruleLine (sized : List Sized) :
    (ruleLine sized).flatten = rule (sized.map (·.width)) := by
  simp [ruleLine, rule, framed]

theorem cropParts_ruleLine (hne : sized ≠ [])
    (hroom : Text.total (sized.map (·.width)) + (sized.length + 1) ≤ columns) :
    (StyledText.cropParts columns (ruleLine sized)).flatten = rule (sized.map (·.width)) := by
  obtain ⟨hvisible, hwidth⟩ := isVisible_rule (mt List.map_eq_nil_iff.1 hne)
  rw [flatten_cropParts, flatten_ruleLine]
  · rw [flatten_ruleLine]
    exact hvisible
  · rw [flatten_ruleLine, hwidth, List.length_map]
    exact hroom

/-- A table for which there is room, line by line. -/
theorem layOut_eq {count : Nat} (hne : sized ≠ [])
    (h : ∀ c ∈ sized, c.Fits ∧ c.texts.length = count + 1)
    (hroom : Text.total (sized.map (·.width)) + (sized.length + 1) ≤ columns) :
    layOut columns sized = [] :: line (sized.map (Sized.cell 0)) :: rule (sized.map (·.width)) ::
      ((List.range count).map fun i => line (sized.map (Sized.cell (i + 1)))) ++ [[]] := by
  have hcount : rowCount sized = count + 1 := rowCount_eq hne fun c hc => (h c hc).2
  have hcrop (row : Nat) (hrow : row < count + 1) : (rowLines sized row).map
      (fun line => (StyledText.cropParts columns line).flatten) =
        [line (sized.map (Sized.cell row))] :=
    cropParts_rowLines hne (fun c hc => ⟨(h c hc).1, (h c hc).2 ▸ hrow⟩) hroom
  have hbody : ((List.range count).flatMap fun i => rowLines sized (i + 1)).map
      (fun line => (StyledText.cropParts columns line).flatten) =
        (List.range count).map fun i => line (sized.map (Sized.cell (i + 1))) := by
    rw [List.map_flatMap, ← List.flatMap_singleton' (List.map _ _), List.flatMap_map]
    exact List.flatMap_congr fun i hi => hcrop (i + 1) (Nat.succ_lt_succ (List.mem_range.1 hi))
  have hempty : (StyledText.cropParts columns []).flatten = [] := rfl
  unfold layOut
  simp only [hcount, Nat.add_sub_cancel, List.map_append, List.map_cons, List.map_nil,
    hcrop 0 (Nat.succ_pos count), hbody, cropParts_ruleLine hne hroom, hempty]
  rfl

end Rows

end Lines

section Widths

variable {sized : List Sized}

/-- Where nothing is in excess, nothing is taken off. -/
theorem reduce_zero (shares : Nat) (columns : List (Nat × Nat × Bool)) :
    reduce 0 shares columns = columns.map Prod.fst := by
  induction columns generalizing shares with
  | nil => rfl
  | cons column rest ih =>
    obtain ⟨width, most, shared⟩ := column
    rw [reduce]
    split
    · next hpart =>
      simp only [Bool.and_eq_true, decide_eq_true_eq] at hpart
      have hquotient : roundedQuotient 0 shares = 0 := by
        simp [roundedQuotient, Nat.pos_of_ne_zero hpart.2]
      simp [hquotient, ih]
    · simp [ih]

/-- Columns for which there is room keep their widths. -/
theorem widths_of_total_le {columns : List (Nat × Bool)}
    (h : Text.total (columns.map Prod.fst) ≤ limit) :
    widths limit columns = columns.map Prod.fst := by
  unfold widths
  simp only [Nat.sub_eq_zero_of_le h, narrow, reduceBy, reduce_zero, List.map_map]
  exact List.map_congr_left fun _ _ => rfl

theorem settle_of_total_le (h : Text.total (sized.map (·.width)) ≤ limit) :
    settle limit sized = sized := by
  have hfst : (sized.map fun c => (c.width, c.wraps)).map Prod.fst = sized.map (·.width) := by
    rw [List.map_map]
    rfl
  have hwidths : widths limit (sized.map fun c => (c.width, c.wraps)) =
      (sized.map fun c => (c.width, c.wraps)).map Prod.fst :=
    widths_of_total_le (by rwa [hfst])
  rw [settle, hwidths, hfst, ← List.map_prod_left_eq_zip, List.map_map]
  exact List.map_id _

end Widths

section Room

variable {c : Column} {shown : List (List Char)} {s : StyledText} {cell : Cell} {cs : List Char}

theorem charWidth_of_lineEnds {x : Char} (h : lineEnds.has x = true) : charWidth x = 0 := by
  have hx : Char.ofNat x.toNat = x := Char.ofNat_toNat x
  simp only [lineEnds, Text.CharSet.has_cons, Text.CharSet.has_nil, Bool.and_eq_true,
    Bool.or_eq_true, decide_eq_true_eq, Bool.or_false] at h
  have hcases : x.toNat < 0x20 ∨ x.toNat = 0x85 ∨ x.toNat = 0x2028 ∨ x.toNat = 0x2029 := by omega
  rcases hcases with hlow | heq | heq | heq
  · have hascii : x.toNat < 0x7F := by omega
    rw [charWidth, if_pos hascii, if_pos hlow]
  all_goals
    rw [← hx, heq]
    decide +kernel

theorem linesToMeasure_of_isVisible (h : IsVisible cs) : linesToMeasure cs = [cs] := by
  induction cs with
  | nil => rfl
  | cons x cs ih =>
    obtain ⟨hx, hcs⟩ := List.forall_mem_cons.1 h
    have hend : lineEnds.has x = false :=
      Bool.eq_false_iff.2 fun hhas => hx (charWidth_of_lineEnds hhas)
    rw [linesToMeasure, hend, ih hcs]
    rfl

theorem naturalWidth_of_isVisible (h : IsVisible s.chars) : naturalWidth s = Text.width s.chars := by
  rw [naturalWidth, linesToMeasure_of_isVisible h]
  simp

/-- A cell that shows a text, each character of which takes columns. -/
def Shows (cell : Cell) (cs : List Char) : Prop :=
  ∃ s, cell.text = .ok s ∧ s.chars = cs ∧ IsVisible cs

/-- The columns that the widest of some texts takes. -/
def room (shown : List (List Char)) : Nat :=
  (shown.map Text.width).foldl max 0

theorem le_foldl_max {ns : List Nat} {n k : Nat} (h : n ∈ ns ∨ n ≤ k) : n ≤ ns.foldl max k := by
  induction ns generalizing k with
  | nil => simpa using h
  | cons m ns ih =>
    rw [List.foldl_cons]
    rcases h with hmem | hle
    · rcases List.mem_cons.1 hmem with rfl | hmem
      · exact ih (.inr (Nat.le_max_right k _))
      · exact ih (.inl hmem)
    · exact ih (.inr (Nat.le_trans hle (Nat.le_max_left k m)))

theorem width_le_room (h : cs ∈ shown) : Text.width cs ≤ room shown :=
  le_foldl_max (.inl (List.mem_map_of_mem h))

theorem exists_texts {cells : List Cell} (h : List.Forall₂ Shows cells shown) :
    ∃ texts, cells.mapM Cell.text = .ok texts ∧ texts.map (·.chars) = shown ∧
      ∀ s ∈ texts, IsVisible s.chars := by
  induction h with
  | nil => exact ⟨[], rfl, rfl, by simp⟩
  | cons hcell _ ih =>
    obtain ⟨s, hs, rfl, hvisible⟩ := hcell
    obtain ⟨texts, htexts, rfl, hrest⟩ := ih
    refine ⟨s :: texts, ?_, rfl, List.forall_mem_cons.2 ⟨hvisible, hrest⟩⟩
    rw [List.mapM_cons, hs, htexts]
    rfl

/-- A column that has been read, with what its texts show. -/
structure Sized.Holds (s : Sized) (shown : List (List Char)) : Prop where
  fits : s.Fits
  width : s.width = room shown + padding
  shown : s.texts.map (·.chars) = shown

theorem exists_size_eq (hleft : c.alignment = .left) (h : List.Forall₂ Shows c.texts shown)
    (hpos : 0 < room shown) (hlimit : room shown + padding ≤ limit) :
    ∃ s : Sized, size limit c = .ok s ∧ s.Holds shown := by
  obtain ⟨texts, htexts, rfl, hvisible⟩ := exists_texts h
  have hnatural : (texts.map naturalWidth).foldl max 0 = room (texts.map (·.chars)) := by
    rw [room, List.map_map]
    exact congrArg (·.foldl max 0)
      (List.map_congr_left fun s hs => naturalWidth_of_isVisible (hvisible s hs))
  have hwidth : (c.sized limit texts).width = room (texts.map (·.chars)) + padding := by
    rw [Column.sized, hnatural]
    exact Nat.min_eq_left hlimit
  refine ⟨c.sized limit texts, by rw [size_eq, htexts]; rfl, ⟨hleft, ?_, hvisible, ?_⟩, hwidth, rfl⟩
  · rw [hwidth]
    omega
  · intro s hs
    rw [hwidth]
    exact Nat.add_le_add_right (width_le_room (List.mem_map_of_mem hs)) padding

theorem Sized.Holds.cell_eq {s : Sized} (h : s.Holds shown) (row : Nat) :
    s.cell row = padded (room shown) (shown.getD row []) := by
  rw [Sized.cell, h.width, ← h.shown]
  simp [List.getD]

variable {t : Table} {grid : List (List (List Char))}

/-- Every text of such a table can be shown. -/
theorem exists_shown
    (h : List.Forall₂ (fun c texts => c.alignment = .left ∧ List.Forall₂ Shows c.texts texts)
      t grid) : ∃ texts, t.cells.mapM Cell.text = .ok texts := by
  induction h with
  | nil => exact ⟨[], rfl⟩
  | cons hcolumn _ ih =>
    obtain ⟨texts, htexts, _⟩ := exists_texts hcolumn.2
    obtain ⟨rest, hrest⟩ := ih
    refine ⟨texts ++ rest, ?_⟩
    rw [cells, List.flatMap_cons, List.mapM_append, htexts, ← cells, hrest]
    rfl

theorem exists_read
    (h : List.Forall₂ (fun c texts => c.alignment = .left ∧ List.Forall₂ Shows c.texts texts)
      t grid) (hgrid : ∀ texts ∈ grid, 0 < room texts ∧ room texts + padding ≤ limit) :
    ∃ read : List Sized, t.mapM (size limit) = .ok read ∧ List.Forall₂ Sized.Holds read grid := by
  induction h with
  | nil => exact ⟨[], rfl, .nil⟩
  | cons hcolumn _ ih =>
    obtain ⟨⟨hpos, hlimit⟩, hgrid⟩ := List.forall_mem_cons.1 hgrid
    obtain ⟨s, hs, hholds⟩ := exists_size_eq hcolumn.1 hcolumn.2 hpos hlimit
    obtain ⟨read, hread, hrest⟩ := ih hgrid
    refine ⟨s :: read, ?_, .cons hholds hrest⟩
    rw [List.mapM_cons, hs, hread]
    rfl

theorem fits_of_holds {read : List Sized} {count : Nat} (h : List.Forall₂ Sized.Holds read grid)
    (hcount : ∀ texts ∈ grid, texts.length = count) :
    ∀ s ∈ read, s.Fits ∧ s.texts.length = count := by
  induction h with
  | nil => simp
  | cons hs _ ih =>
    obtain ⟨htexts, hcount⟩ := List.forall_mem_cons.1 hcount
    refine List.forall_mem_cons.2 ⟨⟨hs.fits, ?_⟩, ih hcount⟩
    rw [← htexts, ← hs.shown, List.length_map]

theorem map_of_holds {read : List Sized} {α : Type} {f : Sized → α} {g : List (List Char) → α}
    (h : List.Forall₂ Sized.Holds read grid) (hfg : ∀ s texts, s.Holds texts → f s = g texts) :
    read.map f = grid.map g := by
  induction h with
  | nil => rfl
  | cons hs _ ih => rw [List.map_cons, List.map_cons, hfg _ _ hs, ih]

/-- A row of a table, each of whose columns shows some texts. -/
def rowOf (grid : List (List (List Char))) (row : Nat) : List Char :=
  line (grid.map fun texts => padded (room texts) (texts.getD row []))

/-- A table for which there is room shows all its texts, each row in a line of its own. -/
theorem render_eq_ok {count : Nat} (hne : t ≠ [])
    (h : List.Forall₂ (fun c texts => c.alignment = .left ∧ List.Forall₂ Shows c.texts texts) t grid)
    (hgrid : ∀ texts ∈ grid, 0 < room texts ∧ texts.length = count + 1)
    (hroom : Text.total (grid.map fun texts => room texts + padding) + (grid.length + 1) ≤
      columns) :
    t.render columns = .ok ([] :: rowOf grid 0 ::
      rule (grid.map fun texts => room texts + padding) ::
        ((List.range count).map fun i => rowOf grid (i + 1)) ++ [[]]) := by
  have hlength : t.length = grid.length := h.length_eq
  have hlimit : ∀ texts ∈ grid, 0 < room texts ∧ room texts + padding ≤ columns - (t.length + 1) := by
    intro texts htexts
    have hle := Text.le_total (List.mem_map_of_mem (f := fun texts => room texts + padding) htexts)
    exact ⟨(hgrid texts htexts).1, by omega⟩
  obtain ⟨read, hread, hholds⟩ := exists_read h hlimit
  have hfits := fits_of_holds hholds fun texts htexts => (hgrid texts htexts).2
  have hwidths : read.map (·.width) = grid.map fun texts => room texts + padding :=
    map_of_holds hholds fun _ _ hs => hs.width
  have hrow (row : Nat) : line (read.map (Sized.cell row)) = rowOf grid row :=
    congrArg line (map_of_holds hholds fun _ _ hs => hs.cell_eq row)
  have hreadLength : read.length = grid.length := hholds.length_eq
  have hreadNe : read ≠ [] := by
    rw [ne_eq, ← List.length_eq_zero_iff, hreadLength, ← hlength, List.length_eq_zero_iff]
    exact hne
  have htotal : Text.total (read.map (·.width)) ≤ columns - (t.length + 1) := by
    rw [hwidths]
    omega
  rw [render_eq, hread, Except.map, settle_of_total_le htotal,
    layOut_eq hreadNe hfits (by rw [hwidths, hreadLength]; exact hroom), hwidths]
  simp only [hrow]

end Room

end HousePuzzle.Table
