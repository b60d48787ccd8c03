import HousePuzzle.Literal.Reading

/-!
Literals: texts for values that are known without any names. They are constants, numbers with a
sign, complex numbers as a sum, strings, and tuples, sets and dictionaries of literals.
-/

namespace HousePuzzle.Literal

/-- A value as far as it decides whether a set can hold it. -/
inductive Value
  | simple
  | tuple (vs : List Value)
  | set
  | dict

inductive Refusal
  | nullCharacter
  | notLiteral
  | unhashable (kind : String)
  deriving DecidableEq

def Refusal.message : Refusal → String
  | .nullCharacter => "source code string cannot contain null bytes"
  | .notLiteral => "malformed node or string"
  | .unhashable kind => "unhashable type: '" ++ kind ++ "'"

mutual

/-- What keeps a value out of sets and from the keys of dictionaries. -/
def Value.unhashable? : Value → Option String
  | .simple => none
  | .tuple vs => anyUnhashable? vs
  | .set => some "set"
  | .dict => some "dict"

def anyUnhashable? : List Value → Option String
  | [] => none
  | v :: vs => v.unhashable?.or (anyUnhashable? vs)

end

def Value.asKey (v : Value) : Except Refusal Unit :=
  match v.unhashable? with
  | some kind => .error (.unhashable kind)
  | none => .ok ()

def Tree.isNumber (t : Tree) : Bool :=
  match t.form with
  | .number _ => true
  | _ => false

def Tree.isImaginary (t : Tree) : Bool :=
  t.form = .number true

def Tree.isSignedReal (t : Tree) : Bool :=
  match t with
  | .node .sign [operand] => operand.form = .number false
  | _ => t.form = .number false

mutual

def Tree.value : Tree → Except Refusal Value
  | .node form parts =>
    match form, parts with
    | .constant _, _ => .ok .simple
    | .number _, _ => .ok .simple
    | .text, _ => .ok .simple
    | .bytes, _ => .ok .simple
    | .tuple, ts => return .tuple (← values ts)
    | .set, ts => setValue ts
    | .dict, ts => dictValue ts
    | .call, [f] => if f.form = .name "set" then .ok .set else .error .notLiteral
    | .sum, [left, right] =>
      if left.isSignedReal && right.isImaginary then .ok .simple else .error .notLiteral
    | .sign, [operand] => if operand.isNumber then .ok .simple else .error .notLiteral
    | _, _ => .error .notLiteral

def values : List Tree → Except Refusal (List Value)
  | [] => .ok []
  | t :: ts => return (← t.value) :: (← values ts)

def setValue : List Tree → Except Refusal Value
  | [] => .ok .set
  | t :: ts => do
    (← t.value).asKey
    setValue ts

def dictValue : List Tree → Except Refusal Value
  | [] => .ok .dict
  | .node .entry [key, item] :: ts => do
    let k ← key.value
    let _ ← item.value
    k.asKey
    dictValue ts
  | _ :: _ => .error .notLiteral

end

/-- A text without a value is malformed or refused. -/
inductive Error
  | malformed (m : Mistake)
  | refused (r : Refusal)

def read (cs : List Char) : Except Error Value :=
  if cs.contains '\x00' then .error (.refused .nullCharacter)
  else do
    let t ← (parse cs).mapError .malformed
    t.value.mapError .refused

end HousePuzzle.Literal
