import HousePuzzle.Text.Split

/-! Paths of files, without steps that lead nowhere. -/

namespace HousePuzzle.Path

def parts (path : String) : List (List Char) :=
  (Text.splitAtChar '/' path.toList).filter fun part => !part.isEmpty && part ≠ ['.']

/-- Two slashes in front are a root of their own; any other number of them is one. -/
def root (path : String) : List Char :=
  let slashes := path.toList.takeWhile (· = '/')
  if slashes.length = 2 then slashes else slashes.take 1

def normalize (path : String) : String :=
  match root path ++ ['/'].intercalate (parts path) with
  | [] => "."
  | cs => String.ofList cs

def fileName (path : String) : String :=
  String.ofList ((parts path).getLastD [])

end HousePuzzle.Path
