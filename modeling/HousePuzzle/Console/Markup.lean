import HousePuzzle.Console.Emoji
import HousePuzzle.Console.Handler
import HousePuzzle.Console.Style
import HousePuzzle.Console.StyledText

/-!
Text with style tags, as in `[bold]two[/bold] houses`. A tag opens with a bracket and one of
`a` to `z`, `#`, `/`, `@`, and runs to the next closing bracket; brackets before anything else are
text. A backslash before a tag makes it text, and two are one backslash. What is shown is the text
without its tags and with pictures for their names, if every closing tag closes something.
-/

namespace HousePuzzle.Markup

inductive Piece
  | text (cs : List Char)
  | tag (position : Nat) (body : List Char)

inductive Error
  | unmatched (body : List Char) (position : Nat)
  | nothingOpen (position : Nat)
  | numeral (e : Numeral.Error)
  | handler (e : Handler.Error)
  deriving DecidableEq

def Error.message : Error → String
  | .unmatched body position =>
    "closing tag '[" ++ String.ofList body ++ "]' at position " ++ Numeral.writeNat position ++
      " doesn't match any open tag"
  | .nothingOpen position =>
    "closing tag '[/]' at position " ++ Numeral.writeNat position ++ " has nothing to close"
  | .numeral e => e.message
  | .handler e => e.message

def isTagStart (c : Char) : Bool :=
  ('a' ≤ c && c ≤ 'z') || c = '#' || c = '/' || c = '@'

/-- What stands in the brackets of a tag at the start of the text. -/
def tagBody? : List Char → Option (List Char)
  | '[' :: c :: rest =>
    let body := (c :: rest).takeWhile fun d => d ≠ ']' && d ≠ '['
    if isTagStart c && ((c :: rest).drop body.length).head? = some ']' then some body else none
  | _ => none

/-- A backslash before a bracket is dropped. -/
def unescape : List Char → List Char
  | '\\' :: '[' :: rest => '[' :: unescape rest
  | c :: rest => c :: unescape rest
  | [] => []

/-- `run` is the text since the last tag, backwards. -/
def pieces (run : List Char) (position : Nat) : List Char → List Piece
  | [] => [.text (unescape run.reverse)]
  | c :: rest =>
    let slashes := ((c :: rest).takeWhile (· = '\\')).length
    let behind := (c :: rest).drop slashes
    match tagBody? behind with
    | some body =>
      let next := pieces [] (position + slashes + body.length + 2) (behind.drop (body.length + 2))
      .text (unescape run.reverse) :: .text (List.replicate (slashes / 2) '\\') ::
        (if slashes % 2 = 0 then .tag (position + slashes) body
          else .text ('[' :: body ++ [']'])) :: next
    | none => pieces (c :: run) (position + 1) rest
termination_by cs => cs.length
decreasing_by all_goals (simp only [List.length_cons, List.length_drop]; omega)

structure Tag where
  name : String
  parameters? : Option (List Char)
  place : Nat

/-- The name of a tag ends at an equals sign. -/
def split (body : List Char) : List Char × Option (List Char) :=
  match Text.cutAtChar? '=' body with
  | some (name, parameters) => (name, some parameters)
  | none => (body, none)

def normalName (cs : List Char) : Except Error String :=
  (Style.normalName cs).mapError .numeral

/-- Characters that would move the cursor are not shown. -/
def isShown (c : Char) : Bool :=
  !([0x07, 0x08, 0x0B, 0x0C, 0x0D].contains c.toNat)

def addText (t : StyledText) (cs : List Char) : StyledText :=
  { t with chars := t.chars ++ (Emoji.replace cs).filter isShown }

def close (t : StyledText) (tag : Tag) : StyledText :=
  { t with stretches := t.stretches ++ [(tag.place, t.chars.length)] }

/-- The parameters of a handler are read when its tag is closed. -/
def checked (tag : Tag) : Except Error Unit :=
  match tag.parameters? with
  | some raw =>
    if Handler.isHandler tag.name then (Handler.check raw).mapError .handler else .ok ()
  | none => .ok ()

/-- The tag that a closing tag closes, and those that stay open. -/
def closed? (opened : List Tag) (name : String) : Option (Tag × List Tag) :=
  (opened.find? (·.name = name)).map (·, opened.eraseP (·.name = name))

/-- `opened` holds the tags that are open, the innermost first, and `behind` those that have been
closed, the last first; a closing tag with a name closes the innermost of that name. All tags are
closed at the end. -/
def shown (t : StyledText) (opened behind : List Tag) :
    List Piece → Except Error (StyledText × List Tag)
  | [] => .ok (opened.foldl close t, opened.reverse ++ behind)
  | .text cs :: rest => shown (addText t cs) opened behind rest
  | .tag position body :: rest =>
    match split body with
    | ('/' :: name, _) =>
      if (Text.trimChars name).isEmpty then
        match opened with
        | [] => .error (.nothingOpen position)
        | tag :: opened => do
          checked tag
          shown (close t tag) opened (tag :: behind) rest
      else do
        match closed? opened (← normalName name) with
        | some (tag, opened) =>
          checked tag
          shown (close t tag) opened (tag :: behind) rest
        | none => .error (.unmatched body position)
    | (name, parameters?) => do
      shown t (⟨← normalName name, parameters?, t.chars.length⟩ :: opened) behind rest

/-- A tag with parameters names the style that its name and they make up together. -/
def Tag.style (tag : Tag) : List Char :=
  tag.name.toList ++ (tag.parameters?.map (' ' :: ·)).getD []

/-- In a text of one line every stretch is drawn, and else those that hold more than line ends. -/
def isDrawn (t : StyledText) (stretch : Nat × Nat) : Bool :=
  !t.chars.contains '\n' ||
    ((t.chars.take stretch.2).drop stretch.1).any (· ≠ '\n')

/-- The styles are read when the text has no more tags, in the order of their places. -/
def render (text : String) : Except Error StyledText := do
  let (t, tags) ← shown (.plain []) [] [] (pieces [] 0 text.toList)
  let drawn := (tags.zip t.stretches.reverse).filter (isDrawn t ·.2)
  (drawn.mergeSort (·.2.1 ≤ ·.2.1)).forM fun (tag, _) => discard (normalName tag.style)
  pure t

end HousePuzzle.Markup
