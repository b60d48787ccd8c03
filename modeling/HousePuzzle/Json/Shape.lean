import HousePuzzle.Json.Text

/-!
Looking into a document whose shape is not known: what is asked of a value, and why the value
cannot answer.
-/

namespace HousePuzzle.Json

inductive ShapeError
  | unindexed (k : Kind)
  | missing (field : String)
  | noMember (k : Kind) (wanted : String)
  | notIterable (k : Kind)
  | notNumeric (k : Kind)
  | badNumeral (e : Numeral.Error)
  | nanToInt
  | infiniteToInt
  deriving DecidableEq

def ShapeError.message : ShapeError → String
  | .unindexed .str => "string indices must be integers, not 'str'"
  | .unindexed .arr => "list indices must be integers or slices, not str"
  | .unindexed k => "'" ++ k.name ++ "' object is not subscriptable"
  | .missing field => Text.quoted field
  | .noMember k wanted => "'" ++ k.name ++ "' object has no attribute '" ++ wanted ++ "'"
  | .notIterable k => "'" ++ k.name ++ "' object is not iterable"
  | .notNumeric k =>
    "int() argument must be a string, a bytes-like object or a real number, not '" ++ k.name ++ "'"
  | .badNumeral e => e.message
  | .nanToInt => "cannot convert float NaN to integer"
  | .infiniteToInt => "cannot convert float infinity to integer"

/-- The sort of the value is right, but it holds no whole number. -/
def ShapeError.isWrongValue : ShapeError → Bool
  | .badNumeral _ | .nanToInt => true
  | _ => false

def field (d : Json) (name : String) : Except ShapeError Json :=
  match d with
  | .obj fields =>
    match Assoc.get? name fields with
    | some v => .ok v
    | none => .error (.missing name)
  | v => .error (.unindexed v.kind)

def fieldD (d : Json) (name : String) (default : Json) : Except ShapeError Json :=
  match d with
  | .obj fields => .ok ((Assoc.get? name fields).getD default)
  | v => .error (.noMember v.kind "get")

def entries : Json → Except ShapeError (List (String × Json))
  | .obj fields => .ok fields
  | v => .error (.noMember v.kind "items")

/-- The members one by one: items of a list, characters of a text, keys of an object. -/
def members : Json → Except ShapeError (List Json)
  | .arr items => .ok items
  | .str s => .ok (s.toList.map fun c => .str (String.singleton c))
  | .obj fields => .ok (fields.map fun f => .str f.1)
  | v => .error (.notIterable v.kind)

def toInt : Json → Except ShapeError Int
  | .int n => .ok n
  | .bool b => .ok (if b then 1 else 0)
  | .float (.finite s m q) => .ok (Binary64.truncate s m q)
  | .float (.infinite _) => .error .infiniteToInt
  | .float .nan => .error .nanToInt
  | .str s =>
    match Numeral.read s with
    | .ok n => .ok n
    | .error e => .error (.badNumeral e)
  | v => .error (.notNumeric v.kind)

end HousePuzzle.Json
