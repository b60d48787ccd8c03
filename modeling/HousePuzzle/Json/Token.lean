import HousePuzzle.Json

/-!
The tokens of a JSON text with the positions where they start. A text that holds something
malformed has the fault as its last token; the fault is reported only where a value could stand.
-/

namespace HousePuzzle.Json

open Text (isAsciiDigit digitsValue digitValue?)

inductive StringFault
  | unterminated
  | control
  | escape
  | unicodeEscape
  deriving DecidableEq

inductive Token
  | openArr
  | closeArr
  | openObj
  | closeObj
  | colon
  | comma
  | str (s : String)
  | scalar (v : Json)
  | badString (f : StringFault) (position : Nat)
  | longNumeral (digits : Nat)
  | junk

structure Lexeme where
  position : Nat
  token : Token

def isSpace (c : Char) : Bool :=
  c = ' ' || c = '\t' || c = '\n' || c = '\r'

def simpleEscape? : Char → Option Char
  | '"' => some '"'
  | '\\' => some '\\'
  | '/' => some '/'
  | 'b' => some '\x08'
  | 'f' => some '\x0c'
  | 'n' => some '\n'
  | 'r' => some '\r'
  | 't' => some '\t'
  | _ => none

def hexValue? (c : Char) : Option Nat :=
  if '0' ≤ c && c ≤ '9' then some (c.toNat - '0'.toNat)
  else if 'a' ≤ c && c ≤ 'f' then some (c.toNat - 'a'.toNat + 10)
  else if 'A' ≤ c && c ≤ 'F' then some (c.toNat - 'A'.toNat + 10)
  else none

def hexFour? (cs : List Char) : Option Nat :=
  match cs.take 4 |>.mapM hexValue? with
  | some [a, b, c, d] => some (((a * 16 + b) * 16 + c) * 16 + d)
  | _ => none

/-- A surrogate without a partner stands for no character. It is read as U+FFFD, since a text here
is one of characters; a text of code points would keep it. -/
def unitChar (n : Nat) : Char :=
  if 0xD800 ≤ n && n < 0xE000 then '\uFFFD' else Char.ofNat n

/-- The low surrogate that completes a high one, if the text goes on with its escape. -/
def lowSurrogate? : List Char → Option (Except Unit Nat)
  | '\\' :: 'u' :: rest =>
    if rest.length ≤ 4 then none
    else
      match hexFour? rest with
      | none => some (.error ())
      | some n => if 0xDC00 ≤ n && n < 0xE000 then some (.ok n) else none
  | _ => none

/-- A string from behind its opening quote: its characters, and the position behind its closing
quote. -/
def stringBody (position : Nat) : List Char → Except (StringFault × Nat) (List Char × Nat)
  | [] => .error (.unterminated, position)
  | '"' :: _ => .ok ([], position + 1)
  | ['\\'] => .error (.unterminated, position)
  | '\\' :: 'u' :: rest =>
    if rest.length ≤ 4 then .error (.unicodeEscape, position + 1)
    else
      match hexFour? rest with
      | none => .error (.unicodeEscape, position + 1)
      | some n =>
        let low := if 0xD800 ≤ n && n < 0xDC00 then lowSurrogate? (rest.drop 4) else none
        match low with
        | some (.error _) => .error (.unicodeEscape, position + 7)
        | some (.ok l) => do
          let (cs, stop) ← stringBody (position + 12) (rest.drop 10)
          pure (Char.ofNat (0x10000 + (n - 0xD800) * 0x400 + (l - 0xDC00)) :: cs, stop)
        | none => do
          let (cs, stop) ← stringBody (position + 6) (rest.drop 4)
          pure (unitChar n :: cs, stop)
  | '\\' :: c :: rest =>
    match simpleEscape? c with
    | none => .error (.escape, position)
    | some d => do
      let (cs, stop) ← stringBody (position + 2) rest
      pure (d :: cs, stop)
  | c :: rest =>
    if c.toNat < 0x20 then .error (.control, position)
    else do
      let (cs, stop) ← stringBody (position + 1) rest
      pure (c :: cs, stop)
termination_by cs => cs.length
decreasing_by all_goals (simp only [List.length_cons, List.length_drop]; omega)

structure Spelling where
  whole : List Char
  fraction : List Char
  exponent : Option (Bool × List Char)

def wholePart : List Char → List Char × List Char
  | '0' :: rest => (['0'], rest)
  | cs => (cs.takeWhile isAsciiDigit, cs.dropWhile isAsciiDigit)

/-- A point counts only with a digit behind it. -/
def fractionPart : List Char → List Char × List Char
  | '.' :: rest =>
    match rest.takeWhile isAsciiDigit with
    | [] => ([], '.' :: rest)
    | digits => (digits, rest.dropWhile isAsciiDigit)
  | cs => ([], cs)

def exponentSign : List Char → Bool × List Char
  | '-' :: rest => (true, rest)
  | '+' :: rest => (false, rest)
  | cs => (false, cs)

/-- An exponent counts only with a digit in it. -/
def exponentPart : List Char → Option (Bool × List Char) × List Char
  | [] => (none, [])
  | c :: rest =>
    if c = 'e' || c = 'E' then
      let (negative, body) := exponentSign rest
      match body.takeWhile isAsciiDigit with
      | [] => (none, c :: rest)
      | digits => (some (negative, digits), body.dropWhile isAsciiDigit)
    else (none, c :: rest)

def spelling? (cs : List Char) : Option (Spelling × List Char) :=
  match wholePart cs with
  | ([], _) => none
  | (whole, cs) =>
    let (fraction, cs) := fractionPart cs
    let (exponent, cs) := exponentPart cs
    some (⟨whole, fraction, exponent⟩, cs)

def digitsNat (cs : List Char) : Nat :=
  digitsValue (cs.map fun c => c.toNat - '0'.toNat)

/-- A number without fraction and exponent is whole, and then its length is limited. -/
def Spelling.value (negative : Bool) (s : Spelling) : Except Nat Json :=
  match s.fraction, s.exponent with
  | [], none =>
    if s.whole.length > Numeral.digitLimit then .error s.whole.length
    else .ok (.int (Numeral.signed negative (digitsNat s.whole)))
  | fraction, exponent =>
    let scale := match exponent with
      | none => 0
      | some (negative, digits) => Numeral.signed negative (digitsNat digits)
    .ok (.float (.ofDecimal negative (digitsNat (s.whole ++ fraction)) (scale - fraction.length)))

def keywords : List (List Char × Json) :=
  [("null".toList, .null), ("true".toList, .bool true), ("false".toList, .bool false),
   ("NaN".toList, .float .nan), ("Infinity".toList, .float (.infinite false)),
   ("-Infinity".toList, .float (.infinite true))]

/-- A keyword or a number in front, and the count of its characters. -/
def scalar? (cs : List Char) : Option (Except Nat Json × Nat) :=
  match keywords.find? fun k => k.1.isPrefixOf cs with
  | some (k, v) => some (.ok v, k.length)
  | none =>
    let (negative, body) := match cs with
      | '-' :: rest => (true, rest)
      | _ => (false, cs)
    (spelling? body).map fun (s, after) => (s.value negative, cs.length - after.length)

def punctuation? : Char → Option Token
  | '[' => some .openArr
  | ']' => some .closeArr
  | '\x7b' => some .openObj
  | '\x7d' => some .closeObj
  | ':' => some .colon
  | ',' => some .comma
  | _ => none

def tokens (position : Nat) : List Char → List Lexeme
  | [] => []
  | c :: rest =>
    if isSpace c then tokens (position + 1) rest
    else
      match punctuation? c with
      | some t => ⟨position, t⟩ :: tokens (position + 1) rest
      | none =>
        if c = '"' then
          match stringBody (position + 1) rest with
          | .error (.unterminated, _) => [⟨position, .badString .unterminated position⟩]
          | .error (f, p) => [⟨position, .badString f p⟩]
          | .ok (cs, stop) =>
            ⟨position, .str (String.ofList cs)⟩ :: tokens stop (rest.drop (stop - (position + 1)))
        else
          match scalar? (c :: rest) with
          | none => [⟨position, .junk⟩]
          | some (.error digits, _) => [⟨position, .longNumeral digits⟩]
          | some (.ok v, count) =>
            ⟨position, .scalar v⟩ :: tokens (position + count) (rest.drop (count - 1))
termination_by cs => cs.length
decreasing_by all_goals (simp only [List.length_cons, List.length_drop]; omega)

end HousePuzzle.Json
