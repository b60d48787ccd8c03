import HousePuzzle.CommandLine.Arguments
import HousePuzzle.CommandLine.Place
import HousePuzzle.Console.Table
import HousePuzzle.Loading
import HousePuzzle.Settings

/-!
The commands. A run is a function of the arguments, the files, the environment and the solver; it
gives what is printed, the files that are written, what the solver was asked and how it ends.
-/

namespace HousePuzzle.CommandLine

/-- What a run finds around it. Files are given by their paths. -/
structure World where
  files : List (String × List Nat)
  environment : Environment
  solver : Solver

structure Effects where
  printed : List Char
  written : List (String × String)
  requests : List (Binary64 × Request)

inductive Fault
  | settings (e : Settings.Error)
  | puzzle (e : Loading.PuzzleError)
  | result (e : Loading.ResultError)
  | numeral (e : Numeral.Error)
  | status (name : String)
  | markup (e : Markup.Error)
  | path (path : String) (e : PathError)
  | noResult
  deriving DecidableEq

/-- The end of a run: an exit code, or a fault that nothing reports. -/
inductive Ending
  | exit (code : Nat)
  | fault (f : Fault)
  deriving DecidableEq

/-- What a command does on a screen of so many columns. -/
abbrev Shell := ReaderT Nat (ExceptT Ending (StateM Effects))

def Fault.message : Fault → String
  | .settings e => e.message
  | .puzzle e => e.message
  | .result e => e.message
  | .numeral e => e.message
  | .status name => (SolverFailure.unknownStatus name).message
  | .markup e => e.message
  | .path place e => e.message place
  | .noResult => "expected str, bytes or os.PathLike object, not list"

/-- Faults of the data, which the program reports itself; all others leave it. -/
def Fault.isReported : Fault → Bool
  | .settings _ | .numeral _ | .status _ | .markup (.numeral _) => true
  | .path _ .nullCharacter => true
  | .puzzle (.file _) | .result (.file _) => true
  | .puzzle (.failure e) => e.isWrongValue
  | .result (.content (.shape e)) => e.isWrongValue
  | .result (.content (.unexpected _)) | .markup _ | .path _ _ | .noResult => false

namespace Shell

def stop {α : Type} (e : Ending) : Shell α :=
  throw e

def ok {α : Type} (fault : ε → Fault) : Except ε α → Shell α
  | .ok a => pure a
  | .error e => stop (.fault (fault e))

def write (cs : List Char) : Shell Unit :=
  modify fun s => { s with printed := s.printed ++ cs }

def writeLines (lines : List (List Char)) : Shell Unit :=
  write (lines.flatMap (· ++ ['\n']))

def print (text : String) : Shell Unit := do
  let t ← ok .markup (Markup.render text)
  writeLines ((⟨← read, true, true, .free⟩ : Layout).render t)

def printTable (t : Table) : Shell Unit := do
  writeLines (← ok .markup (t.render (← read)))

/-- Only an exit code other than zero ends a run before its end. -/
def exit {α : Type} (code : Nat) : Shell α :=
  stop (.exit code)

end Shell

/-- What is there to read at a path, as it is shown. -/
structure Opened where
  path : String
  content : Except PathError (List Nat)

def Opened.name (o : Opened) : String :=
  Path.fileName o.path

def Opened.octets (o : Opened) : Shell (List Nat) :=
  Shell.ok (.path o.path) o.content

/-- The file at a path; the first words tell what is missing without it. -/
def open? (w : World) (missing path : String) : Shell Opened :=
  let path := Path.normalize path
  match Place.ofPath w.files path with
  | .file octets => return ⟨path, .ok octets⟩
  | .none .directory => return ⟨path, .error .directory⟩
  | .none .tooLong => Shell.stop (.fault (.path path .tooLong))
  | _ => do
    Shell.print ("[red]" ++ missing ++ ":[/red] " ++ path)
    Shell.exit 1

/-- A path at which there is a file or can be one. -/
def create (w : World) (path text : String) : Shell Unit :=
  let path := Path.normalize path
  match Place.ofPath w.files path with
  | .none e => Shell.stop (.fault (.path path e))
  | _ => modify fun s => { s with written := s.written ++ [(path, text)] }

def settings (w : World) : Shell Settings :=
  Shell.ok .settings (Settings.ofEnvironment w.environment)

/-- A malformed file is reported in the words given and ends the run. -/
def load (o : Opened) (words : String) (aliases : Aliases) : Shell Checked := do
  match Loading.loadPuzzle o.name (← o.octets) aliases with
  | .ok c => pure c
  | .error (.file e) => do
    if e.isMalformedFile then
      Shell.print ("[red]" ++ words ++ ":[/red] " ++ e.message)
      Shell.exit 1
    else Shell.stop (.fault (.puzzle (.file e)))
  | .error e => Shell.stop (.fault (.puzzle e))

def reportTable (errors : List Defect) : Table :=
  [⟨"Kod", .left, false, errors.map fun d => .markup d.code⟩,
    ⟨"Ścieżka", .left, false, errors.map fun d => .markup d.path⟩,
    ⟨"Komunikat", .left, true, errors.map fun d => .markup d.message⟩,
    ⟨"Poprawka", .left, true, errors.map fun d => .markup d.expectedFix⟩]

def showWarning (w : Warning) : Shell Unit :=
  Shell.print ("  [yellow]·[/yellow] " ++ w.message)

def showReport (r : Report) : Shell Unit := do
  if !r.errors.isEmpty then Shell.printTable (reportTable r.errors)
  if !r.warnings.isEmpty then
    Shell.print "[yellow]Ostrzeżenia:[/yellow]"
    r.warnings.forM showWarning

def showInvalid (o : Opened) (r : Report) : Shell Unit :=
  Shell.print ("[red]BŁĄD[/red]  Łamigłówka [bold]" ++ o.name ++ "[/bold] — " ++
    Numeral.writeNat r.errors.length ++ " błąd(ów).")

def loadValid (w : World) (path : String) (aliases : Aliases) : Shell (Puzzle × Report) := do
  let o ← open? w "Brak pliku łamigłówki" path
  let c ← load o "Błąd wczytywania łamigłówki" aliases
  match c.puzzle?, c.report.isValid with
  | some p, true => return (p, c.report)
  | _, _ =>
    showInvalid o c.report
    showReport c.report
    Shell.exit 1

def showWarnings (r : Report) : Shell Unit :=
  if r.warnings.isEmpty then pure () else showReport r

def compileText (p : Puzzle) : Shell String :=
  Shell.ok .numeral p.compile

def solutionTable (p : Puzzle) (houses : HouseAssignments) : Table :=
  let numbers : List Nat := (List.range p.houses.toNat).map fun i => i + 1
  let categories := p.domains.categories
  let column (c : String) : Column :=
    ⟨String.ofList (c.toList.map Char.toUpper), .left, false, numbers.map fun (h : Nat) =>
      .markup ((Assoc.get? c ((Assoc.get? (h : Int) houses).getD [])).getD "[dim]none[/dim]")⟩
  ⟨"DOM", .right, false, numbers.map fun h => .markup (Numeral.writeNat h)⟩ :: categories.map column

def outcomeStyle : Outcome → String
  | .solved => "green"
  | .noSolution => "red"
  | .unknown => "yellow"
  | .unexpectedOptimum => "magenta"

def showSolution (s : Solution) (p : Puzzle) : Shell Unit := do
  let style := outcomeStyle s.outcome
  Shell.print ("[" ++ style ++ "]" ++ s.outcome.message ++ "[/" ++ style ++ "]")
  match s.houses? with
  | none => pure ()
  | some houses =>
    Shell.printTable (solutionTable p houses)
    if s.moreModels then
      Shell.print ("[yellow]Istnieje więcej niż jeden model — rozwiązanie nie jest " ++
        "jednoznaczne (pokazano pierwszy).[/yellow]")
    else
      let count ← Shell.ok .numeral (Numeral.writeShort s.modelsCount)
      Shell.print ("  [dim]modeli: " ++ count ++ "[/dim]")

/-- A run that found no solution ends with code 2. -/
def conclude (s : Solution) (p : Puzzle) : Shell Unit := do
  showSolution s p
  if !s.isSolved then Shell.exit 2

def counts (p : Puzzle) : String × String × String :=
  (Numeral.write p.houses, Numeral.writeNat p.domains.categories.length,
    Numeral.writeNat p.rules.length)

def documentOf (c : Checked) (normalized : Bool) : Json :=
  .obj (c.report.fields ++
    match c.puzzle?, normalized with
    | some p, true => [("normalized_puzzle", p.toJson)]
    | _, _ => [])

def validate (w : World) (path : String) (json normalized : Bool) : Shell Unit := do
  let o ← open? w "Brak pliku łamigłówki" path
  let c ← load o "Błąd wczytywania" (← settings w).aliases
  match c.puzzle?, c.report.isValid with
  | some p, true =>
    let (houses, categories, rules) := counts p
    Shell.print ("[green]OK[/green]  Łamigłówka [bold]" ++ o.name ++ "[/bold] jest poprawna (" ++
      houses ++ " domów, " ++ categories ++ " kategorii, " ++ rules ++ " reguł).")
  | _, _ => showInvalid o c.report
  showReport c.report
  if json then Shell.write ((documentOf c normalized).indented.toList ++ ['\n'])
  if !c.report.isValid then Shell.exit 1

/-- Without a file the program is all that follows the warnings. -/
def compile (w : World) (path : String) (output? : Option String) : Shell Unit := do
  let (p, report) ← loadValid w path (← settings w).aliases
  showWarnings report
  let program ← compileText p
  match output? with
  | some output =>
    if output.isEmpty then Shell.write program.toList
    else
      create w output program
      Shell.print ("[green]Zapisano[/green] " ++ output)
  | none => Shell.write program.toList

def numbered (columns : Nat) (program : String) : List (List Char) :=
  let lines := Text.splitAtChar '\n' program.toList
  let width := (Nat.toDigits 10 lines.length).length + 2
  let room := columns - (width + 1)
  lines.zipIdx.map fun (line, i) =>
    Text.padLeft width ' ' (Nat.toDigits 10 (i + 1)) ++ ' ' ::
      (if Text.width line ≤ room then line else Text.fit room line)

def timeoutText (timeout : Binary64) : String :=
  if timeout.isZero then "—" else timeout.write

def showTask (p : Puzzle) (models : Int) (timeout : Binary64) : Shell Unit :=
  let (houses, categories, rules) := counts p
  Shell.print ("Łamigłówka: [bold]" ++ houses ++ "[/bold] domów, [bold]" ++ categories ++
    "[/bold] kategorii, [bold]" ++ rules ++ "[/bold] reguł   [dim](modele=" ++
    Numeral.write models ++ ", limit=" ++ timeoutText timeout ++ "s)[/dim]")

def ask (w : World) (timeout : Binary64) (request : Request) : Shell SolverResult := do
  modify fun s => { s with requests := s.requests ++ [(timeout, request)] }
  match w.solver request with
  | .ok r => return r
  | .error (.failed text) =>
    Shell.print ("[red]Błąd solvera:[/red] " ++ text)
    Shell.exit 1
  | .error (.unknownStatus name) => Shell.stop (.fault (.status name))

def solve (w : World) (path : String) (models? : Option Int) (timeout? : Option Binary64)
    (showProgram : Bool) : Shell Unit := do
  let s ← settings w
  let (p, report) ← loadValid w path s.aliases
  showWarnings report
  let program ← compileText p
  if showProgram then Shell.writeLines (numbered (← read) program)
  let models := models?.getD s.models
  let timeout := timeout?.getD s.timeout
  showTask p models timeout
  let result ← ask w timeout ⟨program, models⟩
  conclude (result.decode p.domains) p

def loadResult (o : Opened) : Shell SolverResult := do
  let refuse (message : String) : Shell SolverResult := do
    Shell.print ("[red]Błąd wyniku solvera:[/red] " ++ message)
    Shell.exit 1
  match Loading.loadResult o.name (← o.octets) with
  | .ok r => pure r
  | .error (.file e) =>
    if e.isMalformedFile then refuse e.message else Shell.stop (.fault (.result (.file e)))
  | .error (.content (.unexpected detail)) =>
    refuse (SolverResult.ReadError.unexpected detail).message
  | .error e => Shell.stop (.fault (.result e))

def decode (w : World) (path : String) (resultPath? : Option String) : Shell Unit := do
  let (p, _) ← loadValid w path (← settings w).aliases
  let resultPath ← Shell.ok id (resultPath?.elim (.error .noResult) .ok)
  let o ← open? w "Brak pliku wyniku" resultPath
  conclude ((← loadResult o).decode p.domains) p

def domainsTable (p : Puzzle) : Table :=
  let categories := p.domains.categories
  let values (c : String) := ", ".intercalate ((p.domains.values? c).getD [])
  [⟨"KATEGORIA", .left, false, categories.map .markup ++ [.plain Name.position]⟩,
    ⟨"WARTOŚCI", .left, true, (categories.map fun c => .markup (values c)) ++
      [.plain ("1.." ++ Numeral.write p.houses)]⟩]

def rulesTable (rules : List Rule) : Table :=
  let side (o : Operand) : Cell := .markup (o.category ++ ": " ++ o.value)
  [⟨"#", .right, false, (List.range rules.length).map fun i => .markup (Numeral.writeNat i)⟩,
    ⟨"LEWA", .left, false, rules.map fun r => side r.left⟩,
    ⟨"OPERATOR", .left, false, rules.map fun r => .plain r.operator.label⟩,
    ⟨"PRAWA", .left, false, rules.map fun r => side r.right⟩]

def rules (w : World) (path : String) : Shell Unit := do
  let (p, _) ← loadValid w path (← settings w).aliases
  Shell.writeLines [[]]
  Shell.printTable (domainsTable p)
  if p.rules.isEmpty then Shell.print "[yellow]Brak reguł.[/yellow]"
  else
    Shell.printTable (rulesTable p.rules)
    Shell.print ("  [dim]" ++ Numeral.writeNat p.rules.length ++ " reguł[/dim]\n")

def Command.run (w : World) : Command → Shell Unit
  | .validate file json normalized => CommandLine.validate w file json normalized
  | .compile file output? => CommandLine.compile w file output?
  | .solve file models? timeout? showProgram =>
    CommandLine.solve w file models? timeout? showProgram
  | .decode file result? => CommandLine.decode w file result?
  | .rules file => CommandLine.rules w file

def usage : String :=
  "usage: zebra [-h] [--version] [--verbose] <komenda> ..."

def versionText : String :=
  "zebra 0.1.0"

/-- Faults of the data end a command with code 1. -/
def guarded (command : Shell Unit) : Shell Unit :=
  tryCatch command fun
    | .fault f =>
      if f.isReported then do
        Shell.print ("[red]Błąd:[/red] " ++ f.message)
        Shell.exit 1
      else Shell.stop (.fault f)
    | e => Shell.stop e

/-- Arguments that are not well formed end the run with code 2. -/
def main (w : World) (args : List String) : Shell Unit :=
  match Invocation.ofArguments args with
  | .malformed => Shell.exit 2
  | .help => Shell.writeLines [usage.toList]
  | .version => Shell.writeLines [versionText.toList]
  | .run c => guarded (c.run w)

/-- What is proved of a run holds on a screen of any width, such as the usual one of 160 columns. If
nothing is said of the screen, it is so wide that few lines are broken. -/
def run (w : World) (args : List String) (columns : Nat := 4000) : Ending × Effects :=
  match ((main w args).run columns).run.run ⟨[], [], []⟩ with
  | (.ok (), effects) => (.exit 0, effects)
  | (.error e, effects) => (e, effects)

end HousePuzzle.CommandLine
