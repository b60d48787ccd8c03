import HousePuzzle.Aliases
import HousePuzzle.Binary64.Reading
import HousePuzzle.Solving

/-! Settings from the environment. -/

namespace HousePuzzle

structure Environment where
  models? : Option String
  timeout? : Option String
  aliases? : Option String

/-- A timeout of zero is none. -/
structure Settings where
  models : Int
  timeout : Binary64
  aliases : Aliases

namespace Settings

inductive Error
  | models (e : Numeral.Error)
  | timeout (text : String)
  | aliases (e : Aliases.Malformed)
  deriving DecidableEq

def Error.cause : Error → String
  | .models e => e.message
  | .timeout text => Binary64.malformedMessage text
  | .aliases e => e.message

def Error.message (e : Error) : String :=
  "Nieprawidłowa konfiguracja środowiska: " ++ e.cause

def readModels : Option String → Except Error Int
  | none => .ok defaultModels
  | some text => (Numeral.read text).mapError .models

def readTimeout : Option String → Except Error Binary64
  | none => .ok (.zero false)
  | some text =>
    match Binary64.read? text with
    | some x => .ok x
    | none => .error (.timeout text)

def readAliases : Option String → Except Error Aliases
  | none => .ok .standard
  | some text => (Aliases.parse text).mapError .aliases

def ofEnvironment (env : Environment) : Except Error Settings := do
  let models ← readModels env.models?
  let timeout ← readTimeout env.timeout?
  let aliases ← readAliases env.aliases?
  return ⟨models, timeout, aliases⟩

end Settings

end HousePuzzle
