import HousePuzzle.Binary64.Shortest
import HousePuzzle.Json

/-! JSON documents as text: on one line, over indented lines, and as messages quote them. -/

namespace HousePuzzle.Json

open Text (hex quoted)

def escapedChar (c : Char) : List Char :=
  if c = '"' || c = '\\' then ['\\', c]
  else if c = '\n' then ['\\', 'n']
  else if c = '\r' then ['\\', 'r']
  else if c = '\t' then ['\\', 't']
  else if c = '\x0c' then ['\\', 'f']
  else if c = '\x08' then ['\\', 'b']
  else if c.toNat < 0x20 then '\\' :: 'u' :: hex 4 c.toNat
  else [c]

def escaped (s : String) : String :=
  String.ofList ('"' :: s.toList.flatMap escapedChar ++ ['"'])

def floatText : Binary64 → String
  | .nan => "NaN"
  | .infinite negative => if negative then "-Infinity" else "Infinity"
  | x => x.write

mutual

def compact : Json → String
  | .null => "null"
  | .bool b => if b then "true" else "false"
  | .int n => Numeral.write n
  | .float x => floatText x
  | .str s => escaped s
  | .arr items => "[" ++ ", ".intercalate (compactItems items) ++ "]"
  | .obj fields => "\x7b" ++ ", ".intercalate (compactFields fields) ++ "\x7d"

def compactItems : List Json → List String
  | [] => []
  | v :: rest => compact v :: compactItems rest

def compactFields : List (String × Json) → List String
  | [] => []
  | (k, v) :: rest => (escaped k ++ ": " ++ compact v) :: compactFields rest

end

def newline (depth : Nat) : String :=
  String.ofList ('\n' :: List.replicate (2 * depth) ' ')

/-- What stands between two brackets, each piece on a line of its own. -/
def block (depth : Nat) (opening closing : String) (pieces : List String) : String :=
  if pieces.isEmpty then opening ++ closing
  else
    opening ++ newline (depth + 1) ++ ("," ++ newline (depth + 1)).intercalate pieces ++
      newline depth ++ closing

mutual

def indentedAt (depth : Nat) : Json → String
  | .arr items => block depth "[" "]" (indentedItems (depth + 1) items)
  | .obj fields => block depth "\x7b" "\x7d" (indentedFields (depth + 1) fields)
  | v => compact v

def indentedItems (depth : Nat) : List Json → List String
  | [] => []
  | v :: rest => indentedAt depth v :: indentedItems depth rest

def indentedFields (depth : Nat) : List (String × Json) → List String
  | [] => []
  | (k, v) :: rest => (escaped k ++ ": " ++ indentedAt depth v) :: indentedFields depth rest

end

def indented (v : Json) : String :=
  indentedAt 0 v

mutual

def quotedText : Json → String
  | .null => "None"
  | .bool b => if b then "True" else "False"
  | .int n => Numeral.write n
  | .float x => x.write
  | .str s => quoted s
  | .arr items => "[" ++ ", ".intercalate (quotedItems items) ++ "]"
  | .obj fields => "\x7b" ++ ", ".intercalate (quotedFields fields) ++ "\x7d"

def quotedItems : List Json → List String
  | [] => []
  | v :: rest => quotedText v :: quotedItems rest

def quotedFields : List (String × Json) → List String
  | [] => []
  | (k, v) :: rest => (quoted k ++ ": " ++ quotedText v) :: quotedFields rest

end

/-- A value where a text is wanted: a text is itself, all else is as messages quote it. -/
def plainText : Json → String
  | .str s => s
  | v => quotedText v

@[simp] theorem plainText_str (s : String) : plainText (.str s) = s := rfl

end HousePuzzle.Json
