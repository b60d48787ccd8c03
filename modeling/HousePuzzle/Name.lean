/-!
Names that a puzzle may give: a category names a predicate of the program, a value a term. Each
form is also met with one line feed behind it.
-/

namespace HousePuzzle.Name

/-- The category that every puzzle has: its values are the numbers of the houses. -/
def position : String := "position"

/-- Predicates of the program, and the category of positions. -/
def reserved : List String := ["assign", "house", "next_to", position]

def negation : String := "not"

def isSmall (c : Char) : Bool :=
  'a' ≤ c && c ≤ 'z'

def isDigit (c : Char) : Bool :=
  '0' ≤ c && c ≤ '9'

def isWordChar (c : Char) : Bool :=
  isSmall c || ('A' ≤ c && c ≤ 'Z') || isDigit c || c = '_'

/-- Underscores, a small letter, then any word characters. -/
def isConstantForm (cs : List Char) : Bool :=
  match cs.dropWhile (· = '_') with
  | [] => false
  | c :: rest => isSmall c && rest.all isWordChar

def isValueForm (cs : List Char) : Bool :=
  !cs.isEmpty && cs.all isWordChar

def isDigitsForm (cs : List Char) : Bool :=
  !cs.isEmpty && cs.all isDigit

/-- Digits without a zero in front, or zero itself. -/
def isNumeralForm : List Char → Bool
  | ['0'] => true
  | c :: rest => c ≠ '0' && isDigit c && rest.all isDigit
  | [] => false

def hasForm (form : List Char → Bool) (s : String) : Bool :=
  form s.toList || (s.toList.getLast? = some '\n' && form s.toList.dropLast)

def isPredicate (s : String) : Bool :=
  hasForm isConstantForm s && s ≠ negation

def isValue (s : String) : Bool :=
  hasForm isValueForm s

def isDigits (s : String) : Bool :=
  hasForm isDigitsForm s

end HousePuzzle.Name
