import HousePuzzle.Assoc
import HousePuzzle.Console.Colour
import HousePuzzle.Text.Blank

/-!
Styles as lists of words: properties, also denied, a colour, a colour of the ground after `on`, and
a link. A style has one name, whatever the order of its words.
-/

namespace HousePuzzle

/-- Of a property that is named more than once the last word counts. -/
structure Style where
  properties : List (String × Bool)
  colour? : Option String
  ground? : Option String
  link? : Option String

namespace Style

/-- The properties in the order of their names in a style, with their short names. -/
def propertyNames : List (String × Option String) :=
  [("bold", some "b"), ("dim", some "d"), ("italic", some "i"), ("underline", some "u"),
   ("blink", none), ("blink2", none), ("reverse", some "r"), ("conceal", some "c"),
   ("strike", some "s"), ("underline2", some "uu"), ("frame", none), ("encircle", none),
   ("overline", some "o")]

def property? (word : String) : Option String :=
  (propertyNames.find? fun (name, short?) => name = word || short? = some word).map Prod.fst

def words (cs : List Char) : List (List Char) :=
  ((cs.map fun c => if Text.isBlank c then ' ' else c) |> Text.splitAtChar ' ').filter
    (!·.isEmpty)

/-- The words after `not` and `link` are taken as they stand, all others in small letters. -/
def addWords (s : Style) : List String → Except Numeral.Error (Option Style)
  | [] => .ok (some s)
  | word :: rest =>
    match Text.lower word, rest with
    | "on", ground :: rest => do
      let ground := Text.lower ground
      if ← Colour.isColour ground.toList then addWords { s with ground? := some ground } rest
      else return none
    | "not", property :: rest =>
      match property? property with
      | some name => addWords { s with properties := Assoc.insert name false s.properties } rest
      | none => .ok none
    | "link", target :: rest => addWords { s with link? := some target } rest
    | "on", [] | "not", [] | "link", [] => .ok none
    | word, rest =>
      match property? word with
      | some name => addWords { s with properties := Assoc.insert name true s.properties } rest
      | none => do
        if ← Colour.isColour word.toList then addWords { s with colour? := some word } rest
        else return none

def read? (cs : List Char) : Except Numeral.Error (Option Style) :=
  if Text.trimChars cs = "none".toList then .ok (some ⟨[], none, none, none⟩)
  else addWords ⟨[], none, none, none⟩ ((words cs).map String.ofList)

def name (s : Style) : String :=
  let kept := propertyNames.filterMap fun (name, _) =>
    (Assoc.get? name s.properties).map fun holds => if holds then name else "not " ++ name
  let parts := kept ++ s.colour?.toList ++ (s.ground?.map ("on " ++ ·)).toList ++
    (s.link?.map ("link " ++ ·)).toList
  if parts.isEmpty then "none" else " ".intercalate parts

/-- The name of the style that a text describes, or the text in small letters. -/
def normalName (cs : List Char) : Except Numeral.Error String := do
  match ← read? cs with
  | some s => return s.name
  | none => return Text.lower (String.ofList (Text.trimChars cs))

end Style

end HousePuzzle
