import HousePuzzle.Binary64

/-!
Binary floating-point numbers from text: blanks around it, a sign, digits with a point among or
beside them, an exponent, single underscores between digits; or the words for what is not finite.
-/

namespace HousePuzzle.Binary64

open Text
open Numeral (isPadding isGrouped splitSign)

def isRunStart (cs : List Char) : Bool :=
  (cs.head?.map Numeral.isRunChar).getD false

/-- Digits and underscores in front; underscores only between digits. -/
def digitRun? (cs : List Char) : Option (List Nat × List Char) :=
  if isRunStart cs then
    let run := cs.takeWhile Numeral.isRunChar
    if isGrouped run then some (run.filterMap digitValue?, cs.dropWhile Numeral.isRunChar) else none
  else some ([], cs)

def exponent? : List Char → Option (Int × List Char)
  | [] => some (0, [])
  | c :: rest =>
    if c = 'e' || c = 'E' then do
      let (negative, body) := splitSign rest
      let (digits, after) ← digitRun? body
      if digits.isEmpty then none else some (Numeral.signed negative (digitsValue digits), after)
    else some (0, c :: rest)

def decimal? (negative : Bool) (cs : List Char) : Option Binary64 := do
  let (whole, cs) ← digitRun? cs
  let (fraction, cs) ← match cs with
    | '.' :: rest => digitRun? rest
    | _ => some ([], cs)
  let (scale, cs) ← exponent? cs
  if (whole.isEmpty && fraction.isEmpty) || !cs.isEmpty then none
  else some (ofDecimal negative (digitsValue (whole ++ fraction)) (scale - fraction.length))

def word? (negative : Bool) (cs : List Char) : Option Binary64 :=
  let w := String.ofList (cs.map Char.toLower)
  if w = "inf" || w = "infinity" then some (.infinite negative)
  else if w = "nan" then some .nan
  else none

def read? (text : String) : Option Binary64 :=
  let cs := text.toList.dropWhile isPadding
  let cs := (cs.reverse.dropWhile isPadding).reverse
  let (negative, body) := splitSign cs
  word? negative body <|> decimal? negative body

def malformedMessage (text : String) : String :=
  "could not convert string to float: " ++ quoted text

end HousePuzzle.Binary64
