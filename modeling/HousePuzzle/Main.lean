import HousePuzzle.CommandLine.Run

/-! The program: reads its files and its environment, runs a command, prints and writes. -/

namespace HousePuzzle.Main

open CommandLine

/-- No solver is at hand, so every request is refused. -/
def noSolver : Solver :=
  fun _ => .error (.failed "clingo nie jest dostępne")

def environment : IO Environment := do
  return ⟨← IO.getEnv "ZEBRA_MODELS", ← IO.getEnv "ZEBRA_TIMEOUT",
    ← IO.getEnv "ZEBRA_CATEGORY_ALIASES"⟩

def inputs (args : List String) : List String :=
  match Invocation.ofArguments args with
  | .run c => c.inputs
  | _ => []

/-- The files that are there of those that the arguments name. -/
def files (args : List String) : IO (List (String × List Nat)) := do
  let mut found := []
  for input in inputs args do
    let path := Path.normalize input
    try
      let octets ← IO.FS.readBinFile path
      found := found ++ [(path, octets.toList.map (·.toNat))]
    catch _ => pure ()
  return found

def message : Ending → Option String
  | .exit _ => none
  | .fault f => some f.message

def exitCode : Ending → UInt32
  | .exit code => code.toUInt32
  | .fault _ => 1

end HousePuzzle.Main

def main (args : List String) : IO UInt32 := do
  let world := ⟨← HousePuzzle.Main.files args, ← HousePuzzle.Main.environment,
    HousePuzzle.Main.noSolver⟩
  let (ending, effects) := HousePuzzle.CommandLine.run world args
  for (path, text) in effects.written do
    IO.FS.writeFile path text
  IO.print (String.ofList effects.printed)
  if let some text := HousePuzzle.Main.message ending then
    IO.eprintln text
  return HousePuzzle.Main.exitCode ending
