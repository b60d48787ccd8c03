import HousePuzzle.Console.Table
import HousePuzzle.Proofs.Traversal

/-!
Tables are read before they are set into lines, so only a text that cannot be read keeps a table
from being shown.
-/

namespace HousePuzzle

/-- The texts of a column, the heading first. -/
def Column.texts (c : Column) : List Cell :=
  .markup c.heading :: c.cells

/-- A column that has been read. -/
def Column.sized (limit : Nat) (c : Column) (texts : List StyledText) : Table.Sized :=
  ⟨min ((texts.map Table.naturalWidth).foldl max 0 + Table.padding) limit, c.alignment, c.wraps,
    texts⟩

namespace Table

variable {t : Table} {columns limit : Nat} {e : Markup.Error}

/-- All texts of a table in the order in which they are read. -/
def cells (t : Table) : List Cell :=
  t.flatMap Column.texts

/-- The columns with the widths that they get. -/
def settle (limit : Nat) (read : List Sized) : List Sized :=
  (read.zip (widths limit (read.map fun c => (c.width, c.wraps)))).map
    fun (c, width) => { c with width }

def rowCount (sized : List Sized) : Nat :=
  (sized.map (·.texts.length)).foldl max 0

/-- The lines of a table whose columns have their widths. -/
def layOut (columns : Nat) (sized : List Sized) : List (List Char) :=
  let rows := (List.range (rowCount sized - 1)).flatMap fun i => rowLines sized (i + 1)
  ([] :: rowLines sized 0 ++ ruleLine sized :: rows ++ [[]]).map fun line =>
    (StyledText.cropParts columns line).flatten

theorem size_eq (limit : Nat) (c : Column) :
    size limit c = (c.texts.mapM Cell.text).map (c.sized limit) := by
  unfold size Column.texts
  cases (Cell.markup c.heading :: c.cells).mapM Cell.text <;> rfl

/-- Only reading its texts may keep a table from being shown. -/
theorem render_eq (columns : Nat) (t : Table) :
    t.render columns = (t.mapM (size (columns - (t.length + 1)))).map fun read =>
      layOut columns (settle (columns - (t.length + 1)) read) := by
  unfold render
  simp only
  cases t.mapM (size (columns - (t.length + 1))) <;> rfl

/-- The texts of a table are those of its columns. -/
theorem mapM_cells (limit : Nat) (t : Table) :
    t.cells.mapM Cell.text = (t.mapM (size limit)).map fun read => read.flatMap (·.texts) := by
  induction t with
  | nil => rfl
  | cons c t ih =>
    rw [cells, List.flatMap_cons, List.mapM_append, List.mapM_cons, size_eq, ← cells, ih]
    cases c.texts.mapM Cell.text with
    | error e => rfl
    | ok texts =>
      cases t.mapM (size limit) with
      | error e => rfl
      | ok read => rfl

theorem exists_render_eq_ok_iff :
    (∃ lines, t.render columns = .ok lines) ↔ ∃ texts, t.cells.mapM Cell.text = .ok texts := by
  rw [render_eq, mapM_cells (columns - (t.length + 1))]
  simp [Except.map_eq_ok_iff]

theorem render_eq_error_iff :
    t.render columns = .error e ↔ t.cells.mapM Cell.text = .error e := by
  rw [render_eq, mapM_cells (columns - (t.length + 1)), Except.map_eq_error_iff,
    Except.map_eq_error_iff]

end Table

end HousePuzzle
