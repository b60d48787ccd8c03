import HousePuzzle.Numeral

/-!
Text in UTF-8, one octet at a time, and lines. A character that has begun owes octets, and the
next of them must lie between two bounds; the bounds leave out long forms, surrogates and what is
above the last code point.
-/

namespace HousePuzzle.Utf8

inductive Reason
  | start
  | continuation
  | ending
  deriving DecidableEq

/-- `count` octets from position `first` on form no character. -/
structure Fault where
  octet : Nat
  first : Nat
  count : Nat
  reason : Reason
  deriving DecidableEq

def Reason.text : Reason → String
  | .start => "invalid start byte"
  | .continuation => "invalid continuation byte"
  | .ending => "unexpected end of data"

def Fault.message (f : Fault) : String :=
  let place :=
    if f.count = 1 then
      "byte 0x" ++ String.ofList (Text.hex 2 f.octet) ++ " in position " ++ Numeral.writeNat f.first
    else
      "bytes in position " ++ Numeral.writeNat f.first ++ "-" ++
        Numeral.writeNat (f.first + f.count - 1)
  "'utf-8' codec can't decode " ++ place ++ ": " ++ f.reason.text

/-- A character of which `taken` octets are read: what they say, and what the next one must be. -/
structure Pending where
  lead : Nat
  taken : Nat
  owed : Nat
  value : Nat
  low : Nat
  high : Nat

def begin? (b : Nat) : Option Pending :=
  if b < 0x80 then some ⟨b, 1, 0, b, 0x80, 0xBF⟩
  else if b < 0xC2 then none
  else if b < 0xE0 then some ⟨b, 1, 1, b - 0xC0, 0x80, 0xBF⟩
  else if b < 0xF0 then
    some ⟨b, 1, 2, b - 0xE0, if b = 0xE0 then 0xA0 else 0x80, if b = 0xED then 0x9F else 0xBF⟩
  else if b < 0xF5 then
    some ⟨b, 1, 3, b - 0xF0, if b = 0xF0 then 0x90 else 0x80, if b = 0xF4 then 0x8F else 0xBF⟩
  else none

def Pending.next? (p : Pending) (b : Nat) : Option Pending :=
  if p.low ≤ b ∧ b ≤ p.high then
    some ⟨p.lead, p.taken + 1, p.owed - 1, p.value * 0x40 + (b - 0x80), 0x80, 0xBF⟩
  else none

/-- `first` is the position of the character that is pending, or else of the next one. -/
def decodeFrom (first : Nat) : Option Pending → List Nat → Except Fault (List Char)
  | none, [] => .ok []
  | some p, [] => .error ⟨p.lead, first, p.taken, .ending⟩
  | none, b :: rest =>
    match begin? b with
    | none => .error ⟨b, first, 1, .start⟩
    | some p =>
      if p.owed = 0 then (Char.ofNat p.value :: ·) <$> decodeFrom (first + 1) none rest
      else decodeFrom first (some p) rest
  | some p, b :: rest =>
    match p.next? b with
    | none => .error ⟨p.lead, first, p.taken, .continuation⟩
    | some q =>
      if q.owed = 0 then (Char.ofNat q.value :: ·) <$> decodeFrom (first + q.taken) none rest
      else decodeFrom first (some q) rest

def decode (octets : List Nat) : Except Fault (List Char) :=
  decodeFrom 0 none octets

/-- Every line ends with a single line feed, however it ended before. -/
def unifyLines : List Char → List Char
  | [] => []
  | '\r' :: '\n' :: rest => '\n' :: unifyLines rest
  | '\r' :: rest => '\n' :: unifyLines rest
  | c :: rest => c :: unifyLines rest

end HousePuzzle.Utf8
