import HousePuzzle.Assoc
import HousePuzzle.Binary64

/-!
JSON documents. Whole numbers and binary numbers are told apart, and an object keeps the order of
its keys, each of which it has once.
-/

namespace HousePuzzle

inductive Json
  | null
  | bool (b : Bool)
  | int (n : Int)
  | float (x : Binary64)
  | str (s : String)
  | arr (items : List Json)
  | obj (fields : List (String × Json))
  deriving Inhabited

namespace Json

inductive Kind
  | null
  | bool
  | int
  | float
  | str
  | arr
  | obj
  deriving DecidableEq

def Kind.name : Kind → String
  | .null => "NoneType"
  | .bool => "bool"
  | .int => "int"
  | .float => "float"
  | .str => "str"
  | .arr => "list"
  | .obj => "dict"

def kind : Json → Kind
  | .null => .null
  | .bool _ => .bool
  | .int _ => .int
  | .float _ => .float
  | .str _ => .str
  | .arr _ => .arr
  | .obj _ => .obj

/-- A truth value counts as zero or one. -/
def asInt? : Json → Option Int
  | .int n => some n
  | .bool b => some (if b then 1 else 0)
  | _ => none

/-- Null, zero and whatever is empty count as absent. -/
def isPresent : Json → Bool
  | .null => false
  | .bool b => b
  | .int n => n ≠ 0
  | .float x => !x.isZero
  | .str s => !s.isEmpty
  | .arr items => !items.isEmpty
  | .obj fields => !fields.isEmpty

def sameScalar : Json → Json → Bool
  | .null, .null => true
  | .str a, .str b => a = b
  | .float x, .float y => x.sameValue y
  | .float x, b => (b.asInt?.map (x.equalsInt ·)).getD false
  | a, .float y => (a.asInt?.map (y.equalsInt ·)).getD false
  | a, b =>
    match a.asInt?, b.asInt? with
    | some m, some n => m = n
    | _, _ => false

mutual

/-- Numbers are the same when their values are, however they are spelled; objects when they give
the same value to the same keys, in any order. -/
def same : Json → Json → Bool
  | .arr as, .arr bs => sameItems as bs
  | .obj as, .obj bs => as.length = bs.length && sameFields as bs
  | a, b => sameScalar a b

def sameItems : List Json → List Json → Bool
  | [], [] => true
  | a :: as, b :: bs => same a b && sameItems as bs
  | _, _ => false

def sameFields : List (String × Json) → List (String × Json) → Bool
  | [], _ => true
  | (k, a) :: as, bs =>
    (match Assoc.get? k bs with
      | some b => same a b
      | none => false) && sameFields as bs

end

end Json

end HousePuzzle
