import HousePuzzle.Assoc
import HousePuzzle.Text.Blank
import HousePuzzle.Text.Case
import HousePuzzle.Text.Split

/-!
Other names for categories. Names are compared without the blanks around them and in small
letters; a name that has an alias is replaced by it.
-/

namespace HousePuzzle

abbrev Aliases := List (String × String)

namespace Aliases

def standard : Aliases := [("drink", "beverage")]

/-- The part of an alias text that is no alias. -/
structure Malformed where
  item : String
  deriving DecidableEq

def Malformed.message (m : Malformed) : String :=
  "Nieprawidłowy alias kategorii: '" ++ m.item ++ "' (oczekiwano 'stara=nowa')."

def canonical (name : String) : String :=
  Text.lower (Text.trim name)

def rename (aliases : Aliases) (name : String) : String :=
  (Assoc.get? (canonical name) aliases).getD (canonical name)

def isBlankText (cs : List Char) : Bool :=
  (Text.trimChars cs).isEmpty

/-- The sides of the first equals sign, neither of them blank. -/
def readItem (item : List Char) : Except Malformed (String × String) :=
  match Text.cutAtChar? '=' item with
  | none => .error ⟨String.ofList item⟩
  | some (old, new) =>
    if isBlankText old || isBlankText new then .error ⟨String.ofList item⟩
    else .ok (canonical (String.ofList old), canonical (String.ofList new))

/-- Aliases with commas between them, as in `old=new,other=name`; blank items are skipped, and of
two aliases for a name the later holds. -/
def parse (text : String) : Except Malformed Aliases := do
  let items := (Text.splitAtChar ',' text.toList).map Text.trimChars
  return Assoc.ofList (← (items.filter (!·.isEmpty)).mapM readItem)

end Aliases

end HousePuzzle
