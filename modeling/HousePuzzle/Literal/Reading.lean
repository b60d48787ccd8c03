import HousePuzzle.Literal.Grammar
import HousePuzzle.Literal.Quotation
import Std.Data.HashMap

/-!
Reading a text by the grammar. A text is read once for what it says; if it says nothing, it is read
again for what is wrong with it.
-/

namespace HousePuzzle.Literal

/-- What a part of the grammar makes of the tokens from a place on. -/
inductive Outcome
  | read (ts : List Tree) (next : Nat)
  | failed
  /-- No other choice is tried. -/
  | stuck

/-- What has been read so far: how many tokens have been asked for, and what the rules have made of
the places. -/
structure Memory where
  reach : Nat
  known : Std.HashMap (Rule × Nat) Outcome

/-- Behind the last token stands what stopped the reading of tokens. -/
structure Source where
  tokens : Array Token
  atEnd : Mistake

abbrev Reader := ExceptT Mistake (StateM Memory)

def Source.token (s : Source) (place : Nat) : Reader Token :=
  match s.tokens[place]? with
  | some t => do
    modify fun m => { m with reach := max m.reach (place + 1) }
    pure t
  | none => throw s.atEnd

def Token.isMark (t : Token) (m : String) : Bool :=
  (t.kind = .mark || t.kind = .name) && t.text = m.toList

def Token.isName (t : Token) : Bool :=
  t.kind = .name && !Grammar.keywords.contains (String.ofList t.text)

/-- A name also counts as a keyword that it starts. -/
def Token.isSoftKeyword (t : Token) : Bool :=
  t.kind = .name && Grammar.softKeywords.any (t.text.isPrefixOf ·.toList)

/-- Whole numbers in decimal are limited in length. -/
def Token.numberTree (t : Token) : Except Mistake Tree :=
  let digits := t.text.filter Text.isAsciiDigit
  let isDecimal := t.text.all fun c => Text.isAsciiDigit c || c = '_'
  if isDecimal && Numeral.digitLimit < digits.length then .error (.longNumber digits.length)
  else .ok (.node (.number (isIn (t.text.getLastD ' ') "jJ")) [])

def Source.take (s : Source) (place : Nat) (fits : Token → Bool)
    (make : Token → Except Mistake (List Tree)) : Reader Outcome := do
  let t ← s.token place
  if fits t then
    match make t with
    | .ok ts => pure (.read ts (place + 1))
    | .error m => throw m
  else pure .failed

def Outcome.settled : Outcome → Outcome
  | .stuck => .failed
  | o => o

/-- What a rule has made of a place is remembered. -/
def remembered (r : Rule) (place : Nat) (read : Reader Outcome) : Reader Outcome := do
  match (← get).known[(r, place)]? with
  | some o => pure o
  | none =>
    let o := (← read).settled
    modify fun m => { m with known := m.known.insert (r, place) o }
    pure o

def inOrder (read : Grammar → Nat → Reader Outcome) : List Grammar → Nat → Reader Outcome
  | [], place => pure (.read [] place)
  | g :: gs, place => do
    match ← read g place with
    | .read ts next =>
      match ← inOrder read gs next with
      | .read us behind => pure (.read (ts ++ us) behind)
      | o => pure o
    | o => pure o

def firstOf (read : Grammar → Nat → Reader Outcome) : List Grammar → Nat → Reader Outcome
  | [], _ => pure .failed
  | g :: gs, place => do
    match ← read g place with
    | .failed => firstOf read gs place
    | o => pure o.settled

def repeated (read : Nat → Reader Outcome) : Nat → Nat → Reader Outcome
  | 0, place => pure (.read [] place)
  | fuel + 1, place => do
    match ← read place with
    | .read ts next =>
      match ← repeated read fuel next with
      | .read us behind => pure (.read (ts ++ us) behind)
      | o => pure o
    | _ => pure (.read [] place)

def step? (read : Grammar → Nat → Reader Outcome) (place : Nat) :
    List (Form × Grammar) → Reader (Option (Form × List Tree × Nat))
  | [] => pure none
  | (form, g) :: rest => do
    match ← read g place with
    | .read ts next => pure (some (form, ts, next))
    | _ => step? read place rest

def grown (step? : Nat → Reader (Option (Form × List Tree × Nat))) :
    Nat → List Tree → Nat → Reader Outcome
  | 0, ts, place => pure (.read ts place)
  | fuel + 1, ts, place => do
    match ← step? place with
    | some (form, us, next) => grown step? fuel [.node form (ts ++ us)] next
    | none => pure (.read ts place)

/-- The strings in a row are joined when they have been read. -/
def Rule.make : Rule → List Tree → Except Mistake (List Tree)
  | .strings, ts => do
    pure [← joined (ts.filterMap fun t => t.name?.map fun s => .ofToken s.toList)]
  | _, ts => .ok ts

/-- The fuel bounds how deep the parts of the grammar are nested. -/
def Source.read (s : Source) : Nat → Bool → Grammar → Nat → Reader Outcome
  | 0, _, _, _ => pure .failed
  | fuel + 1, again, g, place =>
    let read := s.read fuel again
    match g with
    | .mark m => s.take place (·.isMark m) fun _ => .ok []
    | .name => s.take place Token.isName fun t => .ok [.node (.name (String.ofList t.text)) []]
    | .softKeyword => s.take place Token.isSoftKeyword fun _ => .ok []
    | .number => s.take place (·.kind = .number) fun t => t.numberTree.map ([·])
    | .quotation =>
      s.take place (·.kind = .quotation) fun t => .ok [.node (.name (String.ofList t.text)) []]
    | .newline => s.take place (·.kind = .newline) fun _ => .ok []
    | .ending => s.take place (·.kind = .ending) fun _ => .ok []
    | .inBrackets =>
      let depth := (s.tokens[place - 1]?.map Token.depth).getD 0
      pure (if depth = 0 then .stuck else .read [] place)
    | .rule r => remembered r place do
        match ← read r.body place with
        | .read ts next =>
          match r.make ts with
          | .ok ts => pure (.read ts next)
          | .error m => throw m
        | o => pure o
    | .seq gs => inOrder read gs place
    | .first gs => firstOf read gs place
    | .optional g => do
      match ← read g place with
      | .read ts next => pure (.read ts next)
      | _ => pure (.read [] place)
    | .many g => repeated (read g) fuel place
    | .ahead g => do
      match ← read g place with
      | .read _ _ => pure (.read [] place)
      | _ => pure .failed
    | .notAhead g => do
      match ← read g place with
      | .read _ _ => pure .failed
      | _ => pure (.read [] place)
    | .commit g behind => do
      match ← read g place with
      | .read ts next =>
        match ← read behind next with
        | .read us last => pure (.read (ts ++ us) last)
        | _ => pure .stuck
      | o => pure o
    | .node form g => do
      match ← read g place with
      | .read ts next => pure (.read [.node form ts] next)
      | o => pure o
    | .grow g steps => do
      match ← read g place with
      | .read ts next => grown (step? read · steps) fuel ts next
      | o => pure o
    | .again g => if again then return (← read g place).settled else pure .failed
    | .plain g => s.read fuel false g place
    | .fault f g => do
      match ← read g place with
      | .read ts _ =>
        match f ts with
        | some m => throw m
        | none => pure .stuck
      | o => pure o

/-- More than the parts of the grammar that are nested for one token. -/
def grammarDepth : Nat := 200

def Source.readWhole (s : Source) (again : Bool) (reach : Nat) : Except Mistake Outcome × Nat :=
  let (o, m) := (s.read (grammarDepth * (s.tokens.size + 1)) again Grammar.whole 0).run ⟨reach, {}⟩
  (o, m.reach)

/-- A mistake in a token behind the place where the grammar goes wrong counts more, and so does a
bracket of an earlier line that is never closed. -/
def overruled (t : Tokens) (line : Nat) (m : Mistake) : Mistake :=
  match t.stop?, t.brackets with
  | some (.mistake m), _ => m
  | some _, (c, opened) :: _ => if opened < line then .unclosed c else m
  | _, _ => m

/-- What counts when the grammar tells a mistake. No bracket overrules it where the text ends with
the last token that has been asked for. -/
def judged (t : Tokens) (last : Token) (isAll : Bool) (m : Mistake) : Mistake :=
  if t.stop?.any (·.meaning t.brackets = m) then m
  else
    match t.stop? with
    | some .unfinished =>
      if isAll && last.kind ≠ .quotation then m else overruled t last.line m
    | _ => overruled t last.line m

/-- What is wrong with a text that the grammar does not fit, without telling why. The `deciding`
token is the last one that the first reading has asked for. -/
def unread (t : Tokens) (deciding last : Token) : Mistake :=
  match deciding.kind with
  | .indent => .unexpectedIndent
  | .dedent => .unexpectedDedent
  | _ => overruled t last.line .unexpected

def parse (cs : List Char) : Except Mistake Tree :=
  let t := tokens cs
  let s : Source := ⟨t.list.toArray, (t.stop?.map (·.meaning t.brackets)).getD .unexpected⟩
  let last := fun reach => s.tokens[reach - 1]?.getD ⟨.ending, [], 1, 0⟩
  match s.readWhole false 0 with
  | (.ok (.read [tree] _), _) => .ok tree
  | (.error m, reach) => .error (judged t (last reach) (reach = s.tokens.size) m)
  | (.ok _, first) =>
    match s.readWhole true first with
    | (.error m, reach) => .error (judged t (last reach) (reach = s.tokens.size) m)
    | (.ok _, reach) => .error (unread t (last first) (last reach))

end HousePuzzle.Literal
