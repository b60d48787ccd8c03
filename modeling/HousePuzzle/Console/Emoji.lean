import HousePuzzle.Assoc
import HousePuzzle.Console.Emoji.Codes
import HousePuzzle.Text.Blank
import HousePuzzle.Text.Case
import HousePuzzle.Text.Split

/-!
Names of pictures between colons, as in `:smile:`, and the pictures in their place. A name may end
in the form that is wanted, as in `:heart-text:`. Names that mean no picture stay as they are.
-/

namespace HousePuzzle.Emoji

def pairs : List (List Char) → List (String × List Char)
  | name :: picture :: rest => (String.ofList name, picture) :: pairs rest
  | _ => []

def table : List (String × List Char) :=
  pairs ((Text.splitAtChar '\n' codes.toList).flatMap (Text.splitAtChar ' '))

/-- The endings of names, with the sign that asks for the form. -/
def forms : List (List Char × Char) :=
  [("-emoji".toList, '\ufe0f'), ("-text".toList, '\ufe0e')]

def splitForm (code : List Char) : List Char × List Char :=
  match forms.find? fun (ending, _) => ending.isSuffixOf code with
  | some (ending, sign) => (code.take (code.length - ending.length), [sign])
  | none => (code, [])

def picture? (code : List Char) : Option (List Char) :=
  let (name, sign) := splitForm code
  (Assoc.get? (Text.lower (String.ofList name)) table).map (· ++ sign)

/-- No blank stands between the colons of a name. -/
def replace : List Char → List Char
  | [] => []
  | c :: rest =>
    let code := rest.takeWhile (· ≠ ':')
    if c = ':' && code.length < rest.length && !code.any Text.isBlank then
      (picture? code).getD (c :: code ++ [c]) ++ replace (rest.drop (code.length + 1))
    else c :: replace rest
termination_by cs => cs.length
decreasing_by all_goals (simp only [List.length_cons, List.length_drop]; omega)

end HousePuzzle.Emoji
