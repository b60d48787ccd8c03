import HousePuzzle.Name
import HousePuzzle.Text.Blank

/-!
Terms of the program. A value that reads as a constant or as a number in canonical form stands for
itself; any other would be a variable, another number or a keyword, and is put in quotes.
-/

namespace HousePuzzle

inductive Term
  | plain (text : String)
  | quoted (text : String)
  deriving DecidableEq

namespace Term

def isPlain (value : String) : Bool :=
  value ≠ Name.negation &&
    (Name.hasForm Name.isConstantForm value || Name.hasForm Name.isNumeralForm value)

def ofValue (value : String) : Term :=
  if isPlain value then .plain value else .quoted value

def render : Term → String
  | .plain text => text
  | .quoted text => "\"" ++ text ++ "\""

def value : Term → String
  | .plain text => text
  | .quoted text => text

@[simp] theorem value_ofValue (v : String) : (ofValue v).value = v := by
  unfold ofValue
  split <;> rfl

def stripQuotes (cs : List Char) : List Char :=
  if 2 ≤ cs.length && cs.head? = some '"' && cs.getLast? = some '"' then cs.tail.dropLast else cs

/-- Reads a term back, whatever blanks are around it. -/
def unquote (text : String) : String :=
  String.ofList (stripQuotes (Text.trimChars text.toList))

end Term

end HousePuzzle
