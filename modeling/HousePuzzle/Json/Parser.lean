import HousePuzzle.Json.Token

/-!
JSON documents from text. The reader takes one token at a time; what it holds is the stack of
lists and objects that are open, and what must come next. So whatever it refuses, it can name by
what it waited for.
-/

namespace HousePuzzle.Json

inductive Expected
  | value
  | key
  | colon
  | comma
  | ending
  deriving DecidableEq

inductive SyntaxFault
  | expecting (e : Expected)
  | string (f : StringFault)
  | byteOrderMark
  deriving DecidableEq

inductive ParseError
  | syntaxFault (fault : SyntaxFault) (line column offset : Nat)
  | longNumeral (digits : Nat)
  deriving DecidableEq

def SyntaxFault.text : SyntaxFault → String
  | .expecting .value => "Expecting value"
  | .expecting .key => "Expecting property name enclosed in double quotes"
  | .expecting .colon => "Expecting ':' delimiter"
  | .expecting .comma => "Expecting ',' delimiter"
  | .expecting .ending => "Extra data"
  | .string .unterminated => "Unterminated string starting at"
  | .string .control => "Invalid control character at"
  | .string .escape => "Invalid \\escape"
  | .string .unicodeEscape => "Invalid \\uXXXX escape"
  | .byteOrderMark => "Unexpected UTF-8 BOM (decode using utf-8-sig)"

def ParseError.message : ParseError → String
  | .syntaxFault fault line column offset =>
    fault.text ++ ": line " ++ Numeral.writeNat line ++ " column " ++ Numeral.writeNat column ++
      " (char " ++ Numeral.writeNat offset ++ ")"
  | .longNumeral digits => (Numeral.Error.tooLong digits).message

/-- A list or an object that is open, its members in order; an object may hold the key whose value
is awaited. -/
inductive Frame
  | arr (items : List Json)
  | obj (fields : List (String × Json)) (key : String)

inductive State
  | value (stack : List Frame)
  | firstItem (stack : List Frame)
  | key (fields : List (String × Json)) (stack : List Frame)
  | firstKey (stack : List Frame)
  | colon (fields : List (String × Json)) (key : String) (stack : List Frame)
  | afterItem (items : List Json) (stack : List Frame)
  | afterField (fields : List (String × Json)) (stack : List Frame)
  | done (v : Json)

def State.expected : State → Expected
  | .value _ | .firstItem _ => .value
  | .key _ _ | .firstKey _ => .key
  | .colon _ _ _ => .colon
  | .afterItem _ _ | .afterField _ _ => .comma
  | .done _ => .ending

/-- A value is complete: it goes into what is open around it. -/
def State.complete (v : Json) : List Frame → State
  | [] => .done v
  | .arr items :: stack => .afterItem (items ++ [v]) stack
  | .obj fields k :: stack => .afterField (Assoc.insert k v fields) stack

inductive Refusal
  | fault (f : SyntaxFault) (position : Nat)
  | longNumeral (digits : Nat)

def State.startValue (stack : List Frame) (l : Lexeme) : Except Refusal State :=
  match l.token with
  | .str s => .ok (complete (.str s) stack)
  | .scalar v => .ok (complete v stack)
  | .openArr => .ok (.firstItem stack)
  | .openObj => .ok (.firstKey stack)
  | .badString f p => .error (.fault (.string f) p)
  | .longNumeral digits => .error (.longNumeral digits)
  | _ => .error (.fault (.expecting .value) l.position)

def State.startKey (fields : List (String × Json)) (stack : List Frame) (l : Lexeme) :
    Except Refusal State :=
  match l.token with
  | .str s => .ok (.colon fields s stack)
  | .badString f p => .error (.fault (.string f) p)
  | _ => .error (.fault (.expecting .key) l.position)

def State.step (s : State) (l : Lexeme) : Except Refusal State :=
  match s, l.token with
  | .value stack, _ => startValue stack l
  | .firstItem stack, .closeArr => .ok (complete (.arr []) stack)
  | .firstItem stack, _ => startValue (.arr [] :: stack) l
  | .key fields stack, _ => startKey fields stack l
  | .firstKey stack, .closeObj => .ok (complete (.obj []) stack)
  | .firstKey stack, _ => startKey [] stack l
  | .colon fields k stack, .colon => .ok (.value (.obj fields k :: stack))
  | .afterItem items stack, .comma => .ok (.value (.arr items :: stack))
  | .afterItem items stack, .closeArr => .ok (complete (.arr items) stack)
  | .afterField fields stack, .comma => .ok (.key fields stack)
  | .afterField fields stack, .closeObj => .ok (complete (.obj fields) stack)
  | s, _ => .error (.fault (.expecting s.expected) l.position)

/-- Lines and columns count from one. -/
def locate (cs : List Char) (fault : SyntaxFault) (offset : Nat) : ParseError :=
  let before := cs.take offset
  .syntaxFault fault (before.count '\n' + 1) ((before.reverse.takeWhile (· ≠ '\n')).length + 1) offset

def Refusal.locate (cs : List Char) : Refusal → ParseError
  | .fault f position => Json.locate cs f position
  | .longNumeral digits => .longNumeral digits

def parseChars (cs : List Char) : Except ParseError Json :=
  if cs.head? = some '\uFEFF' then .error (locate cs .byteOrderMark 0)
  else
    match (tokens 0 cs).foldlM State.step (.value []) with
    | .error r => .error (r.locate cs)
    | .ok (.done v) => .ok v
    | .ok s => .error (locate cs (.expecting s.expected) cs.length)

def parse (text : String) : Except ParseError Json :=
  parseChars text.toList

end HousePuzzle.Json
