import HousePuzzle.Text.Width

/-!
Texts set to a number of columns. A cut falls between clusters, never between a character and the
marks on it; half of a wide character is a space.
-/

namespace HousePuzzle.Text

/-- Characters that are shown as one, with the columns that they take. -/
structure Cluster where
  chars : List Char
  width : Nat

def Cluster.push (k : Cluster) (c : Char) (columns : Nat) : Cluster :=
  ⟨k.chars ++ [c], k.width + columns⟩

/-- `current` is the cluster that may go on. A joiner takes the next character into its cluster. -/
def clustersFrom (joined : Bool) (before? : Option Char) (current : Cluster) :
    List Char → List Cluster
  | [] => [current]
  | c :: rest =>
    if joined then clustersFrom false before? (current.push c 0) rest
    else if c = joiner then clustersFrom true before? (current.push c 0) rest
    else if c = pictureSign then
      if before?.any pictures.has then clustersFrom false none (current.push c 1) rest
      else clustersFrom false before? (current.push c 0) rest
    else if charWidth c = 0 then clustersFrom false before? (current.push c 0) rest
    else current :: clustersFrom false (some c) ⟨[c], charWidth c⟩ rest

def clusters : List Char → List Cluster
  | [] => []
  | c :: rest =>
    clustersFrom false (if charWidth c = 0 then none else some c) ⟨[c], charWidth c⟩ rest

def takeColumns : Nat → List Cluster → List Char
  | 0, _ | _, [] => []
  | columns, k :: rest =>
    if k.width ≤ columns then k.chars ++ takeColumns (columns - k.width) rest else [' ']

/-- The text with spaces behind it, or as much of it as the columns hold. -/
def fit (columns : Nat) (cs : List Char) : List Char :=
  if width cs ≤ columns then cs ++ List.replicate (columns - width cs) ' '
  else takeColumns columns (clusters cs)

def chopFrom (columns used : Nat) (line : List Char) : List Cluster → List (List Char)
  | [] => if used = 0 then [] else [line]
  | k :: rest =>
    if columns < used + k.width then line :: chopFrom columns k.width k.chars rest
    else chopFrom columns (used + k.width) (line ++ k.chars) rest

/-- The text in pieces, each as long as the columns allow. -/
def chop (columns : Nat) (cs : List Char) : List (List Char) :=
  chopFrom columns 0 [] (clusters cs)

end HousePuzzle.Text
