import HousePuzzle.Console.StyledText

/-!
Texts set into lines. A line may break before a word; what is still too long is broken anywhere, or
cut with dots at its end.
-/

namespace HousePuzzle

inductive Alignment
  | free
  | left
  | right
  deriving DecidableEq

/-- With `folds` a word that is too long for a line is broken, else it is cut. -/
structure Layout where
  columns : Nat
  wraps : Bool
  folds : Bool
  alignment : Alignment

namespace Layout

/-- `inWord` tells whether there has been a word before. -/
def wordsFrom (inWord : Bool) : List Char → List (List Char)
  | [] => []
  | c :: rest =>
    match wordsFrom (inWord || !Text.isBlank c) rest with
    | [] => [[c]]
    | word :: words =>
      if inWord && Text.isBlank c && word.head?.any (!Text.isBlank ·) then [c] :: word :: words
      else (c :: word) :: words

/-- Words with the blanks behind them, the first one also with the blanks in front of it. -/
def words (cs : List Char) : List (List Char) :=
  wordsFrom false cs

/-- A text is not broken at its start. -/
def breakAt (place : Nat) : List Nat :=
  if place = 0 then [] else [place]

def piecePlaces (place : Nat) : List (List Char) → List Nat
  | [] => []
  | piece :: rest => breakAt place ++ piecePlaces (place + piece.length) rest

/-- `used` are the columns taken in the line at whose end the next word stands. -/
def breaksFrom (l : Layout) (place used : Nat) : List (List Char) → List Nat
  | [] => []
  | word :: rest =>
    let past := place + word.length
    let needed := Text.width (Text.trimRight word)
    if used + needed ≤ l.columns then breaksFrom l past (used + Text.width word) rest
    else if l.columns < needed then
      if l.folds then
        let pieces := Text.chop l.columns word
        piecePlaces place pieces ++
          breaksFrom l past ((pieces.getLast?.map Text.width).getD used) rest
      else breakAt place ++ breaksFrom l past (Text.width word) rest
    else if used = 0 || place = 0 then breaksFrom l past used rest
    else place :: breaksFrom l past (Text.width word) rest

def breaks (l : Layout) (cs : List Char) : List Nat :=
  breaksFrom l 0 0 (words cs)

def shorten (l : Layout) (t : StyledText) : StyledText :=
  if Text.width t.chars ≤ l.columns then t
  else if l.folds then t.withChars (Text.fit l.columns t.chars)
  else t.withChars (Text.fit (l.columns - 1) t.chars ++ ['…'])

def align (l : Layout) (t : StyledText) : StyledText :=
  match l.alignment with
  | .free => l.shorten t
  | .left =>
    let t := l.shorten t
    t.padRight (l.columns - Text.width t.chars)
  | .right =>
    let t := l.shorten t.trimRight
    t.padLeft (l.columns - Text.width t.chars)

def lines (l : Layout) (t : StyledText) : List StyledText :=
  t.lines.flatMap fun line =>
    let line := line.expandTabs
    let pieces := if l.wraps then line.divide (l.breaks line.chars) else [line]
    pieces.map fun piece => l.align (piece.dropBlanksBeyond l.columns)

def render (l : Layout) (t : StyledText) : List (List Char) :=
  (l.lines t).map fun line => (StyledText.cropParts l.columns line.parts).flatten

theorem flatten_wordsFrom (inWord : Bool) (cs : List Char) :
    (wordsFrom inWord cs).flatten = cs := by
  induction cs generalizing inWord with
  | nil => rfl
  | cons c rest ih =>
    have := ih (inWord || !Text.isBlank c)
    simp only [wordsFrom]
    split
    · simp_all
    · split <;> simp_all

/-- Words leave no character out. -/
theorem flatten_words (cs : List Char) : (words cs).flatten = cs :=
  flatten_wordsFrom false cs

end Layout

end HousePuzzle
