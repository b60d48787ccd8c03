import HousePuzzle.Text.Blank
import HousePuzzle.Text.Digit
import HousePuzzle.Text.Quoted

/-!
Whole numbers as text. They are written in decimal. What is read may have blanks around it, a
sign, digits of any script and single underscores between digits, but not more than `digitLimit`
digits.
-/

namespace HousePuzzle.Numeral

open Text

inductive Error
  | malformed (text : String)
  | tooLong (digits : Nat)
  | unwritable
  deriving DecidableEq

def digitLimit : Nat := 4300

/-- Messages quote no more than this many characters of a malformed text. -/
def quoteLimit : Nat := 200

def writeNat (n : Nat) : String :=
  String.ofList (Nat.toDigits 10 n)

/-- There is no limit to what is written here: whole numbers come from documents that were read, and
those are short. -/
def write : Int → String
  | .ofNat n => writeNat n
  | .negSucc n => "-" ++ writeNat (n + 1)

def Error.message : Error → String
  | .malformed text =>
    "invalid literal for int() with base 10: " ++
      String.ofList ((quotedChars text.toList).take quoteLimit)
  | .tooLong digits =>
    "Exceeds the limit (" ++ writeNat digitLimit ++
      " digits) for integer string conversion: value has " ++ writeNat digits ++
      " digits; use sys.set_int_max_str_digits() to increase the limit"
  | .unwritable =>
    "Exceeds the limit (" ++ writeNat digitLimit ++
      " digits) for integer string conversion; use sys.set_int_max_str_digits() to increase the limit"

/-- A number with more digits than are read is not written either. -/
def writeShort (n : Int) : Except Error String :=
  if digitLimit < (Nat.toDigits 10 n.natAbs).length then .error .unwritable else .ok (write n)

/-- The information separators are blank elsewhere, but not around a number. -/
def isPadding (c : Char) : Bool :=
  isBlank c && !(0x1C ≤ c.toNat && c.toNat ≤ 0x1F)

def isRunChar (c : Char) : Bool :=
  c = '_' || (digitValue? c).isSome

/-- Every underscore has a digit before and after it, and there is a digit. -/
def isGrouped : List Char → Bool
  | [] => false
  | ['_'] => false
  | [_] => true
  | '_' :: _ => false
  | _ :: '_' :: rest => isGrouped rest
  | _ :: rest => isGrouped rest

/-- A sign in front, and what it stands before. -/
def splitSign : List Char → Bool × List Char
  | '-' :: rest => (true, rest)
  | '+' :: rest => (false, rest)
  | cs => (false, cs)

def signed (negative : Bool) (n : Nat) : Int :=
  if negative then -(n : Int) else n

/-- What the run of digits looks like comes first, then how many digits there are, and last what
stands behind them. Newer interpreters look behind the digits before they count them, so that a text
with too many digits and something else behind them is malformed and not too long. -/
def read (text : String) : Except Error Int :=
  let (negative, body) := splitSign (text.toList.dropWhile isPadding)
  let run := body.takeWhile isRunChar
  let digits := run.filterMap digitValue?
  if !isGrouped run then .error (.malformed text)
  else if digits.length > digitLimit then .error (.tooLong digits.length)
  else if (body.dropWhile isRunChar).all isPadding then .ok (signed negative (digitsValue digits))
  else .error (.malformed text)

@[simp] theorem toList_writeNat (n : Nat) : (writeNat n).toList = Nat.toDigits 10 n := by
  simp [writeNat]

end HousePuzzle.Numeral
