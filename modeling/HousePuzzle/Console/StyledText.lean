import HousePuzzle.Text.Blank
import HousePuzzle.Text.Fit

/-!
Texts parts of which have a style. The styles themselves are not shown, but the last setting of a
line measures it part by part, so the places where styles begin and end are kept.
-/

namespace HousePuzzle

/-- A stretch is the place where a style begins and the place behind its end. -/
structure StyledText where
  chars : List Char
  stretches : List (Nat × Nat)

namespace StyledText

def plain (cs : List Char) : StyledText :=
  ⟨cs, []⟩

/-- The part between two places, with what falls into it of every stretch. -/
def slice (t : StyledText) (first past : Nat) : StyledText :=
  ⟨(t.chars.drop first).take (past - first),
    (t.stretches.map fun (a, b) => (a - first, min (b - first) (past - first))).filter
      fun (a, b) => a < b⟩

def divide (t : StyledText) : List Nat → List StyledText
  | [] => [t]
  | places =>
    ((0 :: places).zip (places ++ [t.chars.length])).map fun (first, past) => t.slice first past

def placesOf (c : Char) (cs : List Char) : List Nat :=
  cs.zipIdx.filterMap fun (d, i) => if d = c then some i else none

def lines (t : StyledText) : List StyledText :=
  match placesOf '\n' t.chars with
  | [] => [t]
  | places =>
    ((0 :: places.map (· + 1)).zip (places ++ [t.chars.length])).map
      fun (first, past) => t.slice first past

def append (t s : StyledText) : StyledText :=
  ⟨t.chars ++ s.chars,
    t.stretches ++ s.stretches.map fun (a, b) => (a + t.chars.length, b + t.chars.length)⟩

def concat (parts : List StyledText) : StyledText :=
  parts.foldl append (plain [])

/-- Styles that reach the end of the text go on in the spaces behind it. -/
def extend (t : StyledText) (spaces : Nat) : StyledText :=
  ⟨t.chars ++ List.replicate spaces ' ', t.stretches.map fun (a, b) =>
    (a, if b = t.chars.length then b + spaces else b)⟩

def tabWidth : Nat := 8

/-- A part that ends in a tabulator goes on to the next stop. -/
def fillTabs (column : Nat) : List StyledText → List StyledText
  | [] => []
  | part :: rest =>
    if part.chars.getLast? = some '\t' then
      let part := { part with chars := part.chars.dropLast ++ [' '] }
      let column := column + Text.width part.chars
      let gap := (tabWidth - column % tabWidth) % tabWidth
      part.extend gap :: fillTabs (column + gap) rest
    else part :: fillTabs (column + Text.width part.chars) rest

def expandTabs (t : StyledText) : StyledText :=
  match placesOf '\t' t.chars with
  | [] => t
  | places => concat (fillTabs 0 (t.divide (places.map (· + 1))))

/-- Other characters in place of the text's own. Of a longer text the stretches are cut off. -/
def withChars (t : StyledText) (cs : List Char) : StyledText :=
  if cs.length < t.chars.length then
    ⟨cs, (t.stretches.filter fun (a, _) => a < cs.length).map fun (a, b) => (a, min b cs.length)⟩
  else ⟨cs, t.stretches⟩

def trimRight (t : StyledText) : StyledText :=
  t.withChars (Text.trimRight t.chars)

/-- Blanks at the end are dropped, if the text is longer than `length` and as far as it is. -/
def dropBlanksBeyond (t : StyledText) (length : Nat) : StyledText :=
  t.withChars (t.chars.take (max length (Text.trimRight t.chars).length))

def padLeft (t : StyledText) (spaces : Nat) : StyledText :=
  (plain (List.replicate spaces ' ')).append t

def padRight (t : StyledText) (spaces : Nat) : StyledText :=
  t.append (plain (List.replicate spaces ' '))

/-- `place` is the place of the first character. -/
def partsFrom (ends : List Nat) (place : Nat) : List Char → List (List Char)
  | [] => []
  | c :: rest =>
    match partsFrom ends (place + 1) rest with
    | [] => [[c]]
    | part :: parts =>
      if ends.contains (place + 1) then [c] :: part :: parts else (c :: part) :: parts

/-- The text in parts, at the ends of which a style begins or ends. -/
def parts (t : StyledText) : List (List Char) :=
  partsFrom (t.stretches.flatMap fun (a, b) => [a, b]) 0 t.chars

def partsWidth (parts : List (List Char)) : Nat :=
  Text.total (parts.map Text.width)

def takeParts : Nat → List (List Char) → List (List Char)
  | _, [] => []
  | columns, part :: rest =>
    if Text.width part < columns then part :: takeParts (columns - Text.width part) rest
    else [Text.fit columns part]

/-- Parts cut to a number of columns, each measured by itself. -/
def cropParts (columns : Nat) (parts : List (List Char)) : List (List Char) :=
  if partsWidth parts ≤ columns then parts else takeParts columns parts

def fitParts (columns : Nat) (parts : List (List Char)) : List (List Char) :=
  cropParts columns parts ++ [List.replicate (columns - partsWidth parts) ' ']

theorem flatten_partsFrom (ends : List Nat) (place : Nat) (cs : List Char) :
    (partsFrom ends place cs).flatten = cs := by
  induction cs generalizing place with
  | nil => rfl
  | cons c rest ih =>
    have := ih (place + 1)
    simp only [partsFrom]
    split
    · simp_all
    · split <;> simp_all

/-- Parts leave no character out. -/
theorem flatten_parts (t : StyledText) : t.parts.flatten = t.chars :=
  flatten_partsFrom _ 0 t.chars

end StyledText

end HousePuzzle
