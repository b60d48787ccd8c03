import HousePuzzle.Assoc
import HousePuzzle.CommandLine.Path
import HousePuzzle.Numeral
import HousePuzzle.Text.Quoted

/-!
What stands at a path. A path is followed step by step, from the directory of the run or from the
root; of what lies around that directory only the directories that every system has are known.
-/

namespace HousePuzzle.CommandLine

/-- Why there is no file to read or to write. -/
inductive PathError
  | directory
  | missing
  | belowFile
  | tooLong
  | nullCharacter
  deriving DecidableEq

def PathError.describe (path : String) (number : Nat) (words : String) : String :=
  "[Errno " ++ Numeral.writeNat number ++ "] " ++ words ++ ": " ++ Text.quoted path

def PathError.message (path : String) : PathError → String
  | .directory => describe path 21 "Is a directory"
  | .missing => describe path 2 "No such file or directory"
  | .belowFile => describe path 20 "Not a directory"
  | .tooLong => describe path 36 "File name too long"
  | .nullCharacter => "embedded null byte"

/-- `free` is a place where a file can be made. -/
inductive Place
  | file (octets : List Nat)
  | free
  | none (e : PathError)

/-- Where a path starts: in the directory of the run, somewhere above it, or at the root. -/
inductive Start
  | here
  | above
  | root
  deriving DecidableEq

structure Spot where
  start : Start
  steps : List (List Char)

/-- Two dots lead one step back; above the root there is the root. -/
def Spot.enter (s : Spot) (step : List Char) : Spot :=
  if step ≠ ['.', '.'] then { s with steps := s.steps ++ [step] }
  else if s.steps.isEmpty && s.start = .here then ⟨.above, []⟩
  else { s with steps := s.steps.dropLast }

namespace Place

/-- Octets in the name of a file. -/
def stepLimit : Nat := 255

/-- Octets in a path. -/
def pathLimit : Nat := 4095

def octetCount (cs : List Char) : Nat :=
  (String.ofList cs).utf8ByteSize

def systemDirectories : List String :=
  ["bin", "boot", "dev", "etc", "home", "lib", "media", "mnt", "opt", "proc", "root", "run", "sbin",
   "srv", "sys", "tmp", "usr", "var"]

/-- A file of the run, or the one that is empty and swallows what is written to it. -/
def file? (files : List (String × List Nat)) (s : Spot) : Option (List Nat) :=
  match s.start with
  | .here => Assoc.get? s.steps (files.map fun (path, octets) => (Path.parts path, octets))
  | .above => Option.none
  | .root => if s.steps = ["dev".toList, "null".toList] then some [] else Option.none

def isDirectory (files : List (String × List Nat)) (s : Spot) : Bool :=
  match s.start, s.steps with
  | _, [] => true
  | .here, steps => files.any fun (path, _) =>
    steps.isPrefixOf (Path.parts path) && steps.length < (Path.parts path).length
  | .root, [step] => systemDirectories.contains (String.ofList step)
  | _, _ => false

def follow (files : List (String × List Nat)) (s : Spot) : List (List Char) → Place
  | [] =>
    if isDirectory files s then .none .directory
    else (file? files s).elim .free .file
  | step :: rest =>
    if (file? files s).isSome then .none .belowFile
    else if !isDirectory files s then .none .missing
    else if stepLimit < octetCount step then .none .tooLong
    else follow files (s.enter step) rest

def ofPath (files : List (String × List Nat)) (path : String) : Place :=
  if path.toList.contains '\x00' then .none .nullCharacter
  else if pathLimit < (Path.normalize path).utf8ByteSize then .none .tooLong
  else follow files ⟨if (Path.root path).isEmpty then .here else .root, []⟩ (Path.parts path)

end Place

end HousePuzzle.CommandLine
