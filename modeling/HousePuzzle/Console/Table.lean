import HousePuzzle.Console.Layout
import HousePuzzle.Console.Markup

/-!
Tables: columns with a heading, a rule under the headings, an empty line above and below. A column
is as wide as its widest line. If all columns together are too wide, the widest ones that may wrap
give way first, and then all of them.
-/

namespace HousePuzzle

inductive Cell
  | markup (text : String)
  | plain (text : String)

def Cell.text : Cell → Except Markup.Error StyledText
  | .markup text => Markup.render text
  | .plain text => .ok (.plain (text.toList.filter Markup.isShown))

structure Column where
  heading : String
  alignment : Alignment
  wraps : Bool
  cells : List Cell

abbrev Table := List Column

namespace Table

/-- Characters that end a line when a text is measured; only a line feed ends one that is shown. -/
def lineEnds : Text.CharSet :=
  [(0x0A, 0x0D), (0x1C, 0x1E), (0x85, 0x85), (0x2028, 0x2029)]

def linesToMeasure : List Char → List (List Char)
  | [] => [[]]
  | c :: rest =>
    if lineEnds.has c then [] :: linesToMeasure rest
    else
      match linesToMeasure rest with
      | [] => [[c]]
      | line :: lines => (c :: line) :: lines

/-- Tabulators take no column here. -/
def naturalWidth (t : StyledText) : Nat :=
  ((linesToMeasure t.chars).map Text.width).foldl max 0

/-- A column whose texts have been read, the heading first, with the space at its sides. -/
structure Sized where
  width : Nat
  alignment : Alignment
  wraps : Bool
  texts : List StyledText

def padding : Nat := 2

def size (limit : Nat) (c : Column) : Except Markup.Error Sized := do
  let texts ← (.markup c.heading :: c.cells).mapM Cell.text
  let width := (texts.map naturalWidth).foldl max 0 + padding
  return ⟨min width limit, c.alignment, c.wraps, texts⟩

/-- The whole number nearest to a quotient, the even one of two. -/
def roundedQuotient (a b : Nat) : Nat :=
  let q := a / b
  if 2 * (a % b) < b || (2 * (a % b) = b && q % 2 = 0) then q else q + 1

/-- Takes `excess` off the widths that have a share, in equal parts, but no more than `most`. -/
def reduce (excess shares : Nat) : List (Nat × Nat × Bool) → List Nat
  | [] => []
  | (width, most, shared) :: rest =>
    if shared && most ≠ 0 && shares ≠ 0 then
      let part := min most (roundedQuotient excess shares)
      (width - part) :: reduce (excess - part) (shares - 1) rest
    else width :: reduce excess shares rest

def reduceBy (excess : Nat) (columns : List (Nat × Nat × Bool)) : List Nat :=
  reduce excess (columns.countP fun (_, most, shared) => shared && most ≠ 0) columns

/-- The widest columns that may wrap shrink to the next width below, again and again. -/
def narrow (limit : Nat) : Nat → List (Nat × Bool) → List (Nat × Bool)
  | 0, columns => columns
  | fuel + 1, columns =>
    let excess := Text.total (columns.map Prod.fst) - limit
    let wrapping := (columns.filter Prod.snd).map Prod.fst
    let widest := wrapping.foldl max 0
    let next := (wrapping.filter (· ≠ widest)).foldl max 0
    if excess = 0 || widest = next then columns
    else
      let most := min excess (widest - next)
      let widths := reduceBy excess
        (columns.map fun (width, wraps) => (width, most, wraps && width = widest))
      narrow limit fuel (widths.zip (columns.map Prod.snd))

def widths (limit : Nat) (columns : List (Nat × Bool)) : List Nat :=
  let narrowed := (narrow limit (Text.total (columns.map Prod.fst) - limit) columns).map Prod.fst
  reduceBy (Text.total narrowed - limit) (narrowed.map fun width => (width, width, true))

/--
The lines of a cell in their parts. A column that has room for the space at its sides only shows
nothing.
-/
def cellLines (c : Sized) (t : StyledText) : List (List (List Char)) :=
  let columns := c.width - padding
  if columns = 0 then []
  else
    ((⟨columns, c.wraps, false, c.alignment⟩ : Layout).lines t).map fun line =>
      StyledText.fitParts c.width ([' '] :: StyledText.fitParts columns line.parts ++ [[' ']])

def framed (inner : List (List Char)) : List (List Char) :=
  [' '] :: inner ++ [[' ']]

/-- Headings stand at the bottom of their row, all other cells at the top. -/
def rowLines (columns : List Sized) (row : Nat) : List (List (List Char)) :=
  let cells := columns.map fun c =>
    ([List.replicate c.width ' '], ((c.texts[row]?).map (cellLines c)).getD [])
  let height := (cells.map (·.2.length)).foldl max 1
  (List.range height).map fun i =>
    framed ([[' ']].intercalate (cells.map fun (blank, lines) =>
      let above := if row = 0 then height - lines.length else 0
      if i < above then blank else lines.getD (i - above) blank))

def ruleLine (columns : List Sized) : List (List Char) :=
  framed [List.replicate (Text.total (columns.map (·.width)) + (columns.length - 1)) '─']

/-- The columns are read one after the other, each from its heading down. The lines around the table
would hold nothing but blanks; blanks at the end of a line are left out there. -/
def render (columns : Nat) (t : Table) : Except Markup.Error (List (List Char)) := do
  let limit := columns - (t.length + 1)
  let sized ← t.mapM (size limit)
  let sized := (sized.zip (widths limit (sized.map fun c => (c.width, c.wraps)))).map
    fun (c, width) => { c with width }
  let count := (sized.map (·.texts.length)).foldl max 0
  let rows := (List.range (count - 1)).flatMap fun i => rowLines sized (i + 1)
  return ([] :: rowLines sized 0 ++ ruleLine sized :: rows ++ [[]]).map fun line =>
    (StyledText.cropParts columns line).flatten

end Table

end HousePuzzle
