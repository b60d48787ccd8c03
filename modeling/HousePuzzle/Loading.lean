import HousePuzzle.Json.Parser
import HousePuzzle.SolverResult
import HousePuzzle.Utf8
import HousePuzzle.Validation

/-! Puzzles and answers of solvers from the octets of a file. -/

namespace HousePuzzle.Loading

inductive Error
  | encoding (f : Utf8.Fault)
  | json (file : String) (e : Json.ParseError)
  | noObject (file : String)
  deriving DecidableEq

def Error.message : Error → String
  | .encoding f => f.message
  | .json _ (.longNumeral digits) => (Json.ParseError.longNumeral digits).message
  | .json file e => "Błąd parsowania JSON (" ++ file ++ "): " ++ e.message
  | .noObject file => "Plik " ++ file ++ " nie zawiera obiektu JSON."

/-- A text that is not a JSON object makes a malformed file. Octets that are no text and numerals
that are too long are faults of another kind. -/
def Error.isMalformedFile : Error → Bool
  | .encoding _ => false
  | .json _ (.longNumeral _) => false
  | .json _ (.syntaxFault _ _ _ _) => true
  | .noObject _ => true

def readJson (file : String) (octets : List Nat) : Except Error Json := do
  let cs ← (Utf8.decode octets).mapError .encoding
  (Json.parseChars (Utf8.unifyLines cs)).mapError (.json file)

/-- The limit that an interpreter sets to the depth of its recursion is left out: a document may be
nested as deeply as it likes. -/
def readObject (file : String) (octets : List Nat) : Except Error (List (String × Json)) := do
  match ← readJson file octets with
  | .obj fields => return fields
  | _ => .error (.noObject file)

inductive PuzzleError
  | file (e : Error)
  | failure (e : Validation.Failure)
  deriving DecidableEq

def PuzzleError.message : PuzzleError → String
  | .file e => e.message
  | .failure e => e.message

def loadPuzzle (file : String) (octets : List Nat) (aliases : Aliases) :
    Except PuzzleError Checked := do
  let fields ← (readObject file octets).mapError .file
  (Checked.ofFields (some .puzzle) aliases fields).mapError .failure

inductive ResultError
  | file (e : Error)
  | content (e : SolverResult.ReadError)
  deriving DecidableEq

def ResultError.message : ResultError → String
  | .file e => e.message
  | .content e => e.message

def loadResult (file : String) (octets : List Nat) : Except ResultError SolverResult := do
  let fields ← (readObject file octets).mapError .file
  (SolverResult.ofJson (.obj fields)).mapError .content

end HousePuzzle.Loading
