import HousePuzzle.Assoc
import HousePuzzle.Binary64.Reading
import HousePuzzle.Text.Split

/-!
The arguments of the command line. Options may be shortened as long as they stay clear, may take
their value from the same argument or from the next, and stand before or behind the file; two
dashes end them.
-/

namespace HousePuzzle.CommandLine

structure Flag where
  names : List String
  takesValue : Bool
  deriving DecidableEq

inductive Item
  | word (text : String)
  | terminator
  | flag (f : Flag) (name : String) (value? : Option String)
  | unknown

namespace Flag

def help : Flag := ⟨["-h", "--help"], false⟩
def version : Flag := ⟨["--version"], false⟩
def verbose : Flag := ⟨["--verbose", "-v"], false⟩
def jsonOutput : Flag := ⟨["--json-output"], false⟩
def includeNormalized : Flag := ⟨["--include-normalized"], false⟩
def output : Flag := ⟨["--output", "-o"], true⟩
def models : Flag := ⟨["--models", "-n"], true⟩
def timeout : Flag := ⟨["--timeout", "-t"], true⟩
def showProgram : Flag := ⟨["--show-program"], false⟩
def result : Flag := ⟨["--result", "-r"], true⟩

end Flag

def names (flags : List Flag) : List (String × Flag) :=
  flags.flatMap fun f => f.names.map (·, f)

/-- A dash and digits, perhaps with a point among them, is a number and no option. -/
def isNegativeNumber (cs : List Char) : Bool :=
  let isDigit (c : Char) := (Text.digitValue? c).isSome
  let cs := if cs.getLast? = some '\n' then cs.dropLast else cs
  match cs with
  | '-' :: body =>
    match body.dropWhile isDigit with
    | [] => !body.isEmpty
    | '.' :: fraction => !fraction.isEmpty && fraction.all isDigit
    | _ => false
  | _ => false

/-- The options that a shortened argument may mean, with the value in the same argument. -/
def candidates (flags : List Flag) (arg : String) : List Item :=
  match arg.toList with
  | '-' :: '-' :: _ =>
    let (stem, value?) := match Text.cutAtChar? '=' arg.toList with
      | some (stem, value) => (stem, some (String.ofList value))
      | none => (arg.toList, none)
    ((names flags).filter fun (name, _) => stem.isPrefixOf name.toList).map fun (name, f) =>
      .flag f name value?
  | cs =>
    let short := String.ofList (cs.take 2)
    (names flags).filterMap fun (name, f) =>
      if name = short then some (.flag f name (some (String.ofList (cs.drop 2))))
      else if cs.isPrefixOf name.toList then some (.flag f name none)
      else none

/-- What an argument is, unless it is a shortened option that may mean several. -/
def classify? (flags : List Flag) (arg : String) : Option Item :=
  if arg.toList.head? ≠ some '-' || arg = "-" then some (.word arg)
  else
    match Assoc.get? arg (names flags) with
    | some f => some (.flag f arg none)
    | none =>
      let exact := do
        let (stem, value) ← Text.cutAtChar? '=' arg.toList
        let f ← Assoc.get? (String.ofList stem) (names flags)
        return Item.flag f (String.ofList stem) (some (String.ofList value))
      match exact with
      | some item => some item
      | none =>
        match candidates flags arg with
        | [item] => some item
        | _ :: _ :: _ => none
        | [] =>
          if isNegativeNumber arg.toList || arg.toList.contains ' ' then some (.word arg)
          else some .unknown

def classifyAll? (flags : List Flag) : List String → Option (List Item)
  | [] => some []
  | arg :: rest =>
    if arg = "--" then some (.terminator :: rest.map .word)
    else do
      let item ← classify? flags arg
      return item :: (← classifyAll? flags rest)

def isShort (name : String) : Bool :=
  name.toList.drop 1 |>.head?.any (· ≠ '-')

/-- An option with its value. Two dashes are no value. -/
abbrev Setting := Flag × Option String

def setting (f : Flag) (value : String) : Setting :=
  (f, if value = "--" then none else some value)

/--
The options in one argument, and the last one apart if its value is the next argument. `text?` is
what follows the first option: its value, or the letters of more options if it takes none.
-/
def settings? (flags : List Flag) (f : Flag) :
    Option (List Char) → Option (List Setting × Option Flag)
  | none => some (if f.takesValue then ([], some f) else ([(f, none)], none))
  | some [] => if f.takesValue then some ([setting f ""], none) else none
  | some (c :: rest) =>
    if f.takesValue then some ([setting f (String.ofList (c :: rest))], none)
    else do
      let next ← Assoc.get? (String.ofList ['-', c]) (names flags)
      let (settings, last?) ← settings? flags next (if rest.isEmpty then none else some rest)
      return ((f, none) :: settings, last?)
termination_by text? => (text?.map List.length).getD 0
decreasing_by cases rest <;> simp

/-- Only short options may have letters behind them. -/
def read? (flags : List Flag) (f : Flag) (name : String) (value? : Option String) :
    Option (List Setting × Option Flag) :=
  if value?.isSome && !f.takesValue && !isShort name then none
  else settings? flags f (value?.map String.toList)

inductive Command
  | validate (file : String) (json normalized : Bool)
  | compile (file : String) (output? : Option String)
  | solve (file : String) (models? : Option Int) (timeout? : Option Binary64) (showProgram : Bool)
  | decode (file : String) (result? : Option String)
  | rules (file : String)
  deriving DecidableEq

def Command.inputs : Command → List String
  | .validate file _ _ | .compile file _ | .solve file _ _ _ | .rules file => [file]
  | .decode file result? => file :: result?.toList

inductive Invocation
  | malformed
  | help
  | version
  | run (c : Command)
  deriving DecidableEq

/-- The file and the options so far, and whether an argument has been left over. -/
structure Given where
  file? : Option String
  settings : List Setting
  leftOver : Bool

namespace Given

def none : Given := ⟨.none, [], false⟩

def leave (g : Given) : Given :=
  { g with leftOver := true }

def takeFile (g : Given) (file : String) : Given :=
  if g.file?.isNone then { g with file? := some file } else g.leave

def isReadable : Setting → Bool
  | (f, some value) =>
    if f = .models then (Numeral.read value).isOk
    else if f = .timeout then (Binary64.read? value).isSome
    else true
  | (_, .none) => true

/-- Help and the version are given at once, and a value that cannot be read ends the reading. -/
def take (g : Given) (s : Setting) : Except Invocation Given :=
  if s.1 = .help then .error .help
  else if s.1 = .version then .error .version
  else if isReadable s then .ok { g with settings := g.settings ++ [s] }
  else .error .malformed

def has (g : Given) (f : Flag) : Bool :=
  (Assoc.keys g.settings).contains f

/-- Of an option that is repeated the last one counts. -/
def last? (g : Given) (f : Flag) : Option String :=
  (Assoc.get? f g.settings.reverse).join

/-- Two dashes count with the file they stand at. -/
def collect (flags : List Flag) (g : Given) : List Item → Except Invocation Given
  | [] => .ok g
  | .flag f name value? :: rest =>
    match read? flags f name value? with
    | .none => .error .malformed
    | some (settings, .none) => do collect flags (← settings.foldlM take g) rest
    | some (settings, some f) =>
      match rest with
      | .word value :: rest => do
        collect flags (← (settings ++ [setting f value]).foldlM take g) rest
      | _ => .error .malformed
  | .terminator :: .word file :: rest => collect flags (g.takeFile file) rest
  | .word file :: .terminator :: rest =>
    if g.file?.isNone then collect flags (g.takeFile file) rest else collect flags g.leave rest
  | .word file :: rest => collect flags (g.takeFile file) rest
  | .terminator :: rest | .unknown :: rest => collect flags g.leave rest

def command? (g : Given) (name : String) : Option Command := do
  let file ← g.file?
  match name with
  | "validate" => return .validate file (g.has .jsonOutput) (g.has .includeNormalized)
  | "compile" => return .compile file (g.last? .output)
  | "solve" =>
    let models? := (g.last? .models).bind fun text => (Numeral.read text).toOption
    return .solve file models? ((g.last? .timeout).bind Binary64.read?) (g.has .showProgram)
  | "decode" => if g.has .result then return .decode file (g.last? .result) else .none
  | "rules" => return .rules file
  | _ => .none

end Given

def commandFlags : String → Option (List Flag)
  | "validate" => some [.help, .jsonOutput, .includeNormalized]
  | "compile" => some [.help, .output]
  | "solve" => some [.help, .models, .timeout, .showProgram]
  | "decode" => some [.help, .result]
  | "rules" => some [.help]
  | _ => none

def orMalformed {α : Type} (a? : Option α) : Except Invocation α :=
  a?.elim (.error .malformed) .ok

def readCommand (name : String) (args : List String) : Except Invocation Command := do
  let flags ← orMalformed (commandFlags name)
  let g ← Given.none.collect flags (← orMalformed (classifyAll? flags args))
  orMalformed (if g.leftOver then none else g.command? name)

def mainFlags : List Flag := [.help, .version, .verbose]

/-- The options before the command. What they leave over counts when the command has been read. -/
def readMain (leftOver : Bool) : List (String × Item) → Except Invocation Command
  | [] | (_, .terminator) :: _ => .error .malformed
  | (_, .word name) :: rest => do
    let c ← readCommand name (rest.map Prod.fst)
    orMalformed (if leftOver then none else some c)
  | (_, .unknown) :: rest => readMain true rest
  | (_, .flag f name value?) :: rest => do
    let (settings, _) ← orMalformed (read? mainFlags f name value?)
    let _ ← settings.foldlM Given.take Given.none
    readMain leftOver rest

def Invocation.ofArguments (args : List String) : Invocation :=
  let read : Except Invocation Command := do
    readMain false (args.zip (← orMalformed (classifyAll? mainFlags args)))
  match read with
  | .ok c => .run c
  | .error ended => ended

end HousePuzzle.CommandLine
