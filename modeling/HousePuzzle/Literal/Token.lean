import HousePuzzle.Literal.Mistake
import HousePuzzle.Text.Identifier

/-!
The tokens of a literal's text. What stops the reading of tokens matters if the grammar asks for the
token there; a mistake in a token matters also behind the place where the grammar goes wrong.
-/

namespace HousePuzzle.Literal

open Text

inductive Token.Kind
  | name
  | number
  | quotation
  | mark
  | newline
  | indent
  | dedent
  | ending
  deriving DecidableEq

/-- `depth` counts the brackets that are open behind the token. -/
structure Token where
  kind : Token.Kind
  text : List Char
  line : Nat
  depth : Nat

abbrev Bracket := Char × Nat

inductive Stop
  | mistake (m : Mistake)
  | continuation
  | unfinished
  | dedent
  | indent

/-- The tokens of a text, what stopped the reading, and the brackets that were open then, the
innermost first. -/
structure Tokens where
  list : List Token
  stop? : Option Stop
  brackets : List Bracket

/-- What the stop means when the next token is asked for. -/
def Stop.meaning : Stop → List Bracket → Mistake
  | .mistake m, _ => m
  | .continuation, _ => .continuation
  | .unfinished, [] => .unfinished
  | .unfinished, (c, _) :: _ => .unclosed c
  | .dedent, _ => .strayDedent
  | .indent, _ => .mixedIndent

def isNameStart (c : Char) : Bool :=
  c.isAlpha || c = '_' || 128 ≤ c.toNat

def isNameChar (c : Char) : Bool :=
  c.isAlphanum || c = '_' || 128 ≤ c.toNat

def misfit? : List Char → Option Char
  | [] => none
  | c :: rest => if startsIdentifier c then rest.find? (!continuesIdentifier ·) else some c

/-! ## Numbers -/

def NumberKind.isDigit : NumberKind → Char → Bool
  | .hexadecimal, c => isAsciiDigit c || ('a' ≤ c.toLower && c.toLower ≤ 'f')
  | .octal, c => '0' ≤ c && c ≤ '7'
  | .binary, c => c = '0' || c = '1'
  | _, c => isAsciiDigit c

def NumberKind.mistake (kind : NumberKind) (c : Char) : Mistake :=
  if isAsciiDigit c then .digit c kind else .number kind

/-- What follows the digits of a number; a single underscore may stand before a digit. At the
`start` a digit is due. -/
def digits (kind : NumberKind) (start : Bool) : List Char → Except Mistake (List Char)
  | [] => if start then .error (.number kind) else .ok []
  | '_' :: rest =>
    match rest with
    | [] => .error (.number kind)
    | c :: rest => if kind.isDigit c then digits kind false rest else .error (kind.mistake c)
  | c :: rest =>
    if kind.isDigit c then digits kind false rest
    else if start || isAsciiDigit c then .error (kind.mistake c)
    else .ok (c :: rest)

def isIn (c : Char) (s : String) : Bool :=
  s.toList.contains c

/-- Words that may follow a number without a space, and whether other letters may follow them. -/
def glued : List (String × Bool) :=
  [("and", false), ("else", false), ("for", false), ("if", true), ("in", true), ("is", true),
    ("not", false), ("or", false)]

def startsGlued (cs : List Char) : Bool :=
  glued.any fun (word, goesOn) =>
    word.toList.isPrefixOf cs && (goesOn || !((cs.drop word.length).head?.any isNameChar))

def checkEnd (kind : NumberKind) (cs : List Char) : Except Mistake (List Char) :=
  match cs with
  | [] => .ok []
  | c :: _ =>
    if c.toNat < 128 && isNameChar c && !startsGlued cs then .error (.number kind) else .ok cs

def imaginary (cs : List Char) : Except Mistake (List Char) :=
  match cs with
  | [] => .ok []
  | c :: rest => if isIn c "jJ" then checkEnd .imaginary rest else checkEnd .decimal cs

/-- An exponent counts only with a digit in it. -/
def exponent (cs : List Char) : Except Mistake (List Char) :=
  match cs with
  | [] => .ok []
  | c :: rest =>
    if !isIn c "eE" then imaginary cs
    else
      match rest with
      | [] => checkEnd .decimal cs
      | d :: rest =>
        if isIn d "+-" then
          match rest with
          | [] => .error (.number .decimal)
          | d :: _ =>
            if isAsciiDigit d then digits .decimal true rest >>= imaginary
            else .error (.number .decimal)
        else if isAsciiDigit d then digits .decimal true (d :: rest) >>= imaginary
        else checkEnd .decimal cs

def fraction (cs : List Char) : Except Mistake (List Char) :=
  match cs with
  | [] => .ok []
  | c :: _ => if isAsciiDigit c then digits .decimal true cs >>= exponent else exponent cs

def decimal (cs : List Char) : Except Mistake (List Char) := do
  let rest ← digits .decimal true cs
  match rest with
  | '.' :: rest => fraction rest
  | _ =>
    let whole := cs.take (cs.length - rest.length)
    let goesOn := match rest with
      | c :: _ => isIn c "eEjJ"
      | [] => false
    if !goesOn && whole.head? = some '0' && whole.any fun c => c ≠ '0' && c ≠ '_' then
      .error .leadingZeros
    else exponent rest

def number (cs : List Char) : Except Mistake (List Char) :=
  let based := fun kind rest => digits kind true rest >>= checkEnd kind
  match cs with
  | '.' :: rest => fraction rest
  | '0' :: c :: rest =>
    if isIn c "xX" then based .hexadecimal rest
    else if isIn c "oO" then based .octal rest
    else if isIn c "bB" then based .binary rest
    else decimal cs
  | _ => decimal cs

/-! ## Strings -/

/-- The letters in front of a quotation mark, in small letters. -/
def quotationPrefixes : List String :=
  ["b", "u", "r", "f", "br", "rb", "fr", "rf"]

def quotationLetters? (cs : List Char) : Option (List Char) :=
  let letters := cs.takeWhile Char.isAlpha
  let small := String.ofList (letters.map Char.toLower)
  let known := letters.isEmpty || quotationPrefixes.contains small
  match cs.drop letters.length with
  | c :: _ => if known && isIn c "'\"" then some letters else none
  | [] => none

/-- What follows a string, from behind its opening mark, and the line where it ends. A character
behind a backslash does not end it, nor does a line if the mark is a triple one. -/
def quotation (quote : Char) (triple : Bool) (line : Nat) :
    List Char → Except Mistake (List Char × Nat)
  | [] => .error (.unterminated triple line)
  | ['\\'] => .error (.unterminated triple line)
  | '\\' :: c :: rest => quotation quote triple (if c = '\n' then line + 1 else line) rest
  | c :: rest =>
    if c = quote && !triple then .ok (rest, line)
    else if c = quote && rest.take 2 = [quote, quote] then .ok (rest.drop 2, line)
    else if c = '\n' then
      if triple then quotation quote triple (line + 1) rest
      else .error (.unterminated triple line)
    else quotation quote triple line rest
termination_by cs => cs.length

def quotationBody (line : Nat) : List Char → Except Mistake (List Char × Nat)
  | c :: d :: e :: rest =>
    if d ≠ c then quotation c false line (d :: e :: rest)
    else if e = c then quotation c true line rest
    else .ok (e :: rest, line)
  | c :: rest => if rest = [c] then .ok ([], line) else quotation c false line rest
  | [] => .ok ([], line)

/-! ## Signs -/

/-- Signs of more than one character, the longest first. -/
def longMarks : List (List Char) :=
  ["**=", "...", "//=", "<<=", ">>=", "!=", "%=", "&=", "**", "*=", "+=", "-=", "->", "//", "/=",
    ":=", "<<", "<=", "<>", "==", ">=", ">>", "@=", "^=", "|="].map String.toList

def mark (cs : List Char) : List Char :=
  (longMarks.find? (·.isPrefixOf cs)).getD (cs.take 1)

def closing? : Char → Option Char
  | '(' => some ')'
  | '\x7b' => some '\x7d'
  | '[' => some ']'
  | _ => none

def isClosing (c : Char) : Bool :=
  isIn c ")]\x7d"

/-- No more brackets than these may be open. -/
def depthLimit : Nat := 200

def bracketsBehind (brackets : List Bracket) (line : Nat) (c : Char) :
    Except Mistake (List Bracket) :=
  if (closing? c).isSome then
    if brackets.length < depthLimit then .ok ((c, line) :: brackets) else .error .tooDeep
  else if isClosing c then
    match brackets with
    | [] => .error (.unmatched c)
    | (opening, first) :: rest =>
      if closing? opening = some c then .ok rest
      else .error (.mismatched c opening (if first = line then none else some first))
  else if Text.isPrintable c then .ok brackets
  else .error (.character c)

/-! ## Lines -/

/-- The columns that a line starts at, with tabs of eight columns and of one. -/
structure Indent where
  wide : Nat
  narrow : Nat
  deriving DecidableEq

/-- What follows the blanks at the start of a line, and its line. The columns before a backslash
that continues the line are `held`, if there are any. -/
def lineStart (held : Nat) (here : Indent) (line : Nat) :
    List Char → Except Stop (Indent × List Char × Nat)
  | ' ' :: rest => lineStart held ⟨here.wide + 1, here.narrow + 1⟩ line rest
  | '\t' :: rest => lineStart held ⟨(here.wide / 8 + 1) * 8, here.narrow + 1⟩ line rest
  | '\x0c' :: rest => lineStart held ⟨0, 0⟩ line rest
  | '\\' :: rest =>
    match rest with
    | ['\n'] => .error .unfinished
    | '\n' :: rest => lineStart (if held = 0 then here.wide else held) here (line + 1) rest
    | _ => .error .continuation
  | cs => .ok (if held = 0 then here else ⟨held, held⟩, cs, line)

/-- How the indentation changes at a line, and the indentations that hold then. -/
def reindent (held : List Indent) (here : Indent) :
    Except Stop (Option Token.Kind × Nat × List Indent) :=
  let top := held.head?.getD ⟨0, 0⟩
  if here.wide = top.wide then
    if here.narrow = top.narrow then .ok (none, 0, held) else .error .indent
  else if top.wide < here.wide then
    if top.narrow < here.narrow then .ok (some .indent, 1, here :: held) else .error .indent
  else
    let kept := held.dropWhile (here.wide < ·.wide)
    let top := kept.head?.getD ⟨0, 0⟩
    if here.wide ≠ top.wide then .error .dedent
    else if here.narrow ≠ top.narrow then .error .indent
    else .ok (some .dedent, held.length - kept.length, kept)

/-! ## Texts -/

structure Cursor where
  line : Nat
  brackets : List Bracket
  indents : List Indent
  isFresh : Bool
  isBlank : Bool

abbrev Step := List Token × Cursor × List Char

def freshStep (k : Cursor) (cs : List Char) : Except Stop Step := do
  let (here, rest, line) ← lineStart 0 ⟨0, 0⟩ k.line cs
  let isBlank := match rest with
    | c :: _ => isIn c "#\n"
    | [] => false
  let next := { k with line, isFresh := false, isBlank }
  if isBlank || !k.brackets.isEmpty then pure ([], next, rest)
  else
    let (kind?, count, indents) ← reindent k.indents here
    pure ((kind?.map fun kind => List.replicate count ⟨kind, [], line, 0⟩).getD [],
      { next with indents }, rest)

def tokenStep (k : Cursor) (c : Char) (rest : List Char) : Except Mistake Step := do
  let cs := c :: rest
  let step := fun kind (k : Cursor) line (behind : List Char) =>
    ([Token.mk kind (cs.take (cs.length - behind.length)) line k.brackets.length], k, behind)
  match quotationLetters? cs with
  | some letters =>
    let (behind, line) ← quotationBody k.line (cs.drop letters.length)
    pure (step .quotation { k with line } k.line behind)
  | none =>
    if isNameStart c then
      let text := cs.takeWhile isNameChar
      match if text.all (·.toNat < 128) then none else misfit? text with
      | some c => .error (.character c)
      | none => pure (step .name k k.line (cs.drop text.length))
    else if isAsciiDigit c || (c = '.' && (rest.head?.map isAsciiDigit).getD false) then
      pure (step .number k k.line (← number cs))
    else
      let text := mark cs
      let brackets ← if text.length = 1 then bracketsBehind k.brackets k.line c else pure k.brackets
      pure (step .mark { k with brackets } k.line (cs.drop text.length))

def inLineStep (k : Cursor) (cs : List Char) : Except Stop Step :=
  match cs with
  | [] => if k.brackets.isEmpty then .ok ([⟨.ending, [], k.line, 0⟩], k, []) else .error .unfinished
  | '\n' :: rest =>
    .ok (if k.isBlank || !k.brackets.isEmpty then [] else [⟨.newline, [], k.line, 0⟩],
      { k with line := k.line + 1, isFresh := true }, rest)
  | '\\' :: rest =>
    match rest with
    | ['\n'] => .error .unfinished
    | '\n' :: rest => .ok ([], { k with line := k.line + 1 }, rest)
    | _ => .error .continuation
  | c :: rest => (tokenStep k c rest).mapError .mistake

/-- Blanks in a line separate tokens, and so does a comment at its end. -/
def skipBlanks (cs : List Char) : List Char :=
  let cs := cs.dropWhile fun c => isIn c " \t\x0c"
  if cs.head? = some '#' then cs.dropWhile (· ≠ '\n') else cs

/-- The fuel is spent on tokens and lines. -/
def scan : Nat → Cursor → List Char → Tokens
  | 0, k, _ => ⟨[], some .unfinished, k.brackets⟩
  | fuel + 1, k, cs =>
    match if k.isFresh then freshStep k cs else inLineStep k (skipBlanks cs) with
    | .error stop => ⟨[], some stop, k.brackets⟩
    | .ok (found, next, rest) =>
      if found.any (·.kind = .ending) then ⟨found, none, []⟩
      else
        let t := scan fuel next rest
        { t with list := found ++ t.list }

/-- All line ends count as one. -/
def unifyLines : List Char → List Char
  | '\r' :: '\n' :: rest => '\n' :: unifyLines rest
  | '\r' :: rest => '\n' :: unifyLines rest
  | c :: rest => c :: unifyLines rest
  | [] => []

def tokens (cs : List Char) : Tokens :=
  let cs := unifyLines cs
  scan (2 * cs.length + 2) ⟨1, [], [], true, false⟩ cs

end HousePuzzle.Literal
