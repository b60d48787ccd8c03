import HousePuzzle.Literal.Token
import HousePuzzle.Literal.Tree

/-!
What strings in a row mean together. Strings of bytes and of text do not mix, bytes are ASCII, and
an escape must be complete unless the string is a raw one.
-/

namespace HousePuzzle.Literal

open Text

structure Quotation where
  letters : List Char
  body : List Char

def Quotation.ofToken (text : List Char) : Quotation :=
  let letters := text.takeWhile Char.isAlpha
  let quoted := text.drop letters.length
  let isTriple := 6 ≤ quoted.length && quoted.take 3 = List.replicate 3 (quoted.headD '"')
  let width := if isTriple then 3 else 1
  ⟨letters.map Char.toLower, (quoted.drop width).take (quoted.length - 2 * width)⟩

def Quotation.isBytes (q : Quotation) : Bool :=
  q.letters.contains 'b'

def Quotation.isRaw (q : Quotation) : Bool :=
  q.letters.contains 'r'

def Quotation.isFormatted (q : Quotation) : Bool :=
  q.letters.contains 'f'

def hexDigits (cs : List Char) : List Char :=
  cs.takeWhile NumberKind.hexadecimal.isDigit

def hexValue (cs : List Char) : Nat :=
  cs.foldl (fun n c => 16 * n + (if isAsciiDigit c then c.toNat - '0'.toNat
    else c.toLower.toNat - 'a'.toNat + 10)) 0

/-- How many characters behind a backslash and its letter belong to a complete escape, or how many
belong to the incomplete one. -/
def escape (c : Char) (rest : List Char) : Except (Nat × EscapeFault) Nat :=
  let coded := fun count fault =>
    let found := hexDigits (rest.take count)
    if found.length < count then .error (found.length, fault)
    else if 0x10FFFF < hexValue found then .error (count, .beyondUnicode)
    else .ok count
  match c with
  | 'x' => coded 2 .twoDigits
  | 'u' => coded 4 .fourDigits
  | 'U' => coded 8 .eightDigits
  | 'N' =>
    match rest with
    | '\x7b' :: name =>
      let name := name.takeWhile (· ≠ '\x7d')
      if rest.length ≤ name.length + 1 then .error (rest.length, .noName)
      else if name.isEmpty then .error (1, .noName)
      else .ok (name.length + 2)
    | _ => .error (0, .noName)
  | _ => .ok 0

/-- The width of a character where positions are counted: outside ASCII it is spelled with ten. -/
def spelledWidth (c : Char) : Nat :=
  if c.toNat < 128 then 1 else 10

def spelledLength (cs : List Char) : Nat :=
  cs.foldl (fun n c => n + spelledWidth c) 0

def textMistake? (position : Nat) : List Char → Option Mistake
  | [] => none
  | '\\' :: c :: rest =>
    if 128 ≤ c.toNat then textMistake? (position + 6 + spelledWidth c) rest
    else
      match escape c rest with
      | .error (count, fault) =>
        some (.textEscape position (position + 1 + spelledLength (rest.take count)) fault)
      | .ok count =>
        textMistake? (position + 2 + spelledLength (rest.take count)) (rest.drop count)
  | c :: rest => textMistake? (position + spelledWidth c) rest
termination_by cs => cs.length
decreasing_by all_goals (simp only [List.length_cons, List.length_drop]; omega)

def bytesMistake? (position : Nat) : List Char → Option Mistake
  | [] => none
  | '\\' :: c :: rest =>
    if c = 'x' && (hexDigits (rest.take 2)).length < 2 then some (.bytesEscape position)
    else bytesMistake? (position + 2) rest
  | _ :: rest => bytesMistake? (position + 1) rest

def Quotation.mistake? (q : Quotation) : Option Mistake :=
  if q.isFormatted then none
  else if q.isBytes then
    if q.body.any (128 ≤ ·.toNat) then some .wideBytes
    else if q.isRaw then none
    else bytesMistake? 0 q.body
  else if q.isRaw then none
  else textMistake? 0 q.body

def checkQuotations (isBytes : Bool) : List Quotation → Except Mistake Unit
  | [] => .ok ()
  | q :: qs =>
    match q.mistake? with
    | some m => .error m
    | none => if q.isBytes = isBytes then checkQuotations isBytes qs else .error .mixedStrings

def joined (qs : List Quotation) : Except Mistake Tree := do
  let isBytes := (qs.head?.map Quotation.isBytes).getD false
  checkQuotations isBytes qs
  let form : Form :=
    if isBytes then .bytes else if qs.any Quotation.isFormatted then .formatted else .text
  pure (.node form [])

end HousePuzzle.Literal
