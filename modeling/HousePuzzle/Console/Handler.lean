import HousePuzzle.Literal
import HousePuzzle.Text.Blank

/-!
Tags whose name starts with `@` name a handler. Its parameters are a literal, or a name and a
literal in brackets behind it; a name alone stands for no parameters. A handler changes nothing that
is shown, but its parameters must be well-formed.
-/

namespace HousePuzzle.Handler

open Text

/-- The parameters that are not well-formed, as they were read and as they stood in the tag. -/
inductive Error
  | malformed (parameters raw : List Char) (m : Literal.Mistake)
  | refused (raw : List Char) (r : Literal.Refusal)
  deriving DecidableEq

def Error.message : Error → String
  | .malformed parameters raw m =>
    "error parsing " ++ quoted (String.ofList parameters) ++ " in " ++ quoted (String.ofList raw) ++
      "; " ++ m.message
  | .refused raw r => "error parsing " ++ quoted (String.ofList raw) ++ "; " ++ r.message

def isHandler (name : String) : Bool :=
  name.startsWith "@"

/-- What stands behind a name with points, if it is in brackets and in one line. -/
def bracketed (cs : List Char) : List Char :=
  match cs.dropWhile fun c => c = '.' || isWordChar c with
  | [] => ['(', ')']
  | c :: rest =>
    if c = '(' && rest.getLast? = some ')' && !rest.contains '\n' then c :: rest else cs

def check (raw : List Char) : Except Error Unit :=
  if raw.isEmpty then .ok ()
  else
    let parameters := bracketed (trimChars raw)
    match Literal.read parameters with
    | .ok _ => .ok ()
    | .error (.malformed m) => .error (.malformed parameters raw m)
    | .error (.refused r) => .error (.refused raw r)

@[simp] theorem bracketed_nil : bracketed [] = ['(', ')'] := rfl

@[simp] theorem check_nil : check [] = .ok () := rfl

end HousePuzzle.Handler
