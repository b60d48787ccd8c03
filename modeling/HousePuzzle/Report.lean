import HousePuzzle.Puzzle.Document
import HousePuzzle.Schema

/-!
What is wrong with a puzzle, or may be. A defect holds what it is about; its code, its place and
its words follow from that. The number of houses is kept as it was given, for a report must also
speak of one that is no number.
-/

namespace HousePuzzle

structure ValuePlace where
  category : String
  index : Nat
  value : String

structure RulePlace where
  index : Nat
  side : Side
  operand : Operand

inductive Defect
  | schema (v : Schema.Violation)
  | unreadable (e : Puzzle.ReadError)
  | houseCount (given : Json)
  | reservedCategory (category : String)
  | categoryName (category : String)
  | emptyDomain (category : String) (houses : Json)
  | valueName (place : ValuePlace)
  | valueIsCategory (place : ValuePlace)
  | ambiguousValue (place : ValuePlace) (owner : String)
  | positionRange (place : RulePlace) (houses : Json)
  | unknownCategory (place : RulePlace) (known : List String)
  | foreignValue (place : RulePlace) (domain : List String)

inductive Warning
  | sizeMismatch (category : String) (size : Nat) (houses : Json)
  | voidRule (index : Nat) (rule : Rule)

structure Report where
  errors : List Defect
  warnings : List Warning

def Report.isValid (r : Report) : Bool :=
  r.errors.isEmpty

def domainPath (category : String) : String :=
  "/domains/" ++ category

def rulePath (index : Nat) : String :=
  "/rules/" ++ Numeral.writeNat index

def ValuePlace.path (p : ValuePlace) : String :=
  domainPath p.category ++ "/" ++ Numeral.writeNat p.index

def RulePlace.categoryPath (p : RulePlace) : String :=
  rulePath p.index ++ "/" ++ p.side.name ++ "Category"

def RulePlace.valuePath (p : RulePlace) : String :=
  rulePath p.index ++ "/" ++ p.side.name ++ "Value"

def ValuePlace.details (p : ValuePlace) : Json :=
  .obj [("category", .str p.category), ("value", .str p.value)]

def RulePlace.details (p : RulePlace) : Json :=
  .obj [("rule_index", .int p.index), ("side", .str p.side.name),
    ("category", .str p.operand.category), ("value", .str p.operand.value)]

namespace Defect

def code : Defect → String
  | schema _ | unreadable _ => "E_SCHEMA_VIOLATION"
  | houseCount _ => "E_HOUSE_COUNT_INVALID"
  | reservedCategory _ => "E_CATEGORY_RESERVED"
  | categoryName _ => "E_CATEGORY_NAME_INVALID"
  | emptyDomain _ _ => "E_DOMAIN_EMPTY"
  | valueName _ => "E_VALUE_NAME_INVALID"
  | valueIsCategory _ => "E_VALUE_EQUALS_CATEGORY"
  | ambiguousValue _ _ => "E_VALUE_AMBIGUOUS"
  | unknownCategory _ _ => "E_RULE_CATEGORY_UNKNOWN"
  | positionRange _ _ | foreignValue _ _ => "E_RULE_VALUE_NOT_IN_DOMAIN"

def path : Defect → String
  | schema v => v.place
  | unreadable _ => "/"
  | houseCount _ => "/houses"
  | reservedCategory c | categoryName c | emptyDomain c _ => domainPath c
  | valueName p | valueIsCategory p | ambiguousValue p _ => p.path
  | unknownCategory p _ => p.categoryPath
  | positionRange p _ | foreignValue p _ => p.valuePath

/-- The numbers in a message are those of the document, or count what is in it; in a document that
was read none is too long to be written. -/
def message : Defect → String
  | schema v => v.fault.message
  | unreadable e => e.message
  | houseCount given =>
    "Liczba domów musi być dodatnią liczbą całkowitą, podano " ++ given.quotedText ++ "."
  | reservedCategory c =>
    "Kategoria '" ++ c ++ "' jest zarezerwowana (zarezerwowane: " ++
      Text.quotedList Name.reserved ++ ")."
  | categoryName c =>
    "Nazwa kategorii '" ++ c ++
      "' nie jest nazwą predykatu ASP (^_*[a-z][A-Za-z0-9_]*$, różna od 'not')."
  | emptyDomain c _ => "Domena kategorii '" ++ c ++ "' jest pusta."
  | valueName p =>
    "Wartość '" ++ p.value ++ "' kategorii '" ++ p.category ++
      "' nie pasuje do wzorca ^[A-Za-z0-9_]+$."
  | valueIsCategory p => "Wartość '" ++ p.value ++ "' jest równa nazwie swojej kategorii."
  | ambiguousValue p owner =>
    "Wartość '" ++ p.value ++ "' występuje w kategoriach '" ++ owner ++ "' i '" ++
      p.category ++ "'."
  | positionRange p houses =>
    "Reguła " ++ Numeral.writeNat p.index ++ ": pozycja '" ++ p.operand.value ++ "' (" ++
      p.side.name ++ ") spoza zakresu 1.." ++ houses.plainText ++ "."
  | unknownCategory p _ =>
    "Reguła " ++ Numeral.writeNat p.index ++ ": kategoria '" ++ p.operand.category ++ "' (" ++
      p.side.name ++ ") nie jest zdefiniowana w domenach."
  | foreignValue p _ =>
    "Reguła " ++ Numeral.writeNat p.index ++ ": wartość '" ++ p.operand.value ++ "' (" ++
      p.side.name ++ ") nie należy do domeny '" ++ p.operand.category ++ "'."

def expectedFix : Defect → String
  | schema v => "Popraw naruszenie schematu JSON na ścieżce " ++ v.place ++ "."
  | unreadable _ => "Popraw strukturę pliku łamigłówki."
  | houseCount _ => "Ustaw 'houses' na liczbę >= 1."
  | reservedCategory c =>
    if c = Name.position then
      "Usuń kategorię 'position' — jej wartości wynikają z liczby domów."
    else "Zmień nazwę kategorii '" ++ c ++ "'."
  | categoryName c =>
    "Użyj małych liter, cyfr i '_' (zacznij od małej litery), np. '" ++ Text.lower c ++ "'."
  | emptyDomain c houses => "Podaj " ++ houses.plainText ++ " wartości dla '" ++ c ++ "'."
  | valueName _ => "Użyj wyłącznie liter, cyfr i '_'."
  | valueIsCategory _ => "Zmień wartość lub nazwę kategorii."
  | ambiguousValue _ _ => "Nadaj wartościom różnych kategorii różne nazwy."
  | positionRange _ houses => "Użyj numeru domu od 1 do " ++ houses.plainText ++ "."
  | unknownCategory p known =>
    "Dodaj domenę '" ++ p.operand.category ++ "' lub użyj jednej z: " ++ Text.quotedList known ++
      "."
  | foreignValue _ domain => "Użyj jednej z: " ++ Text.quotedList domain ++ "."

def details : Defect → Json
  | schema _ | unreadable _ => .null
  | houseCount given => .obj [("houses", given)]
  | reservedCategory c | categoryName c | emptyDomain c _ => .obj [("category", .str c)]
  | valueName p | valueIsCategory p => p.details
  | ambiguousValue p owner =>
    .obj [("value", .str p.value), ("categories", .arr [.str owner, .str p.category])]
  | positionRange p _ | unknownCategory p _ | foreignValue p _ => p.details

def toJson (d : Defect) : Json :=
  .obj [("code", .str d.code), ("path", .str d.path), ("message", .str d.message),
    ("expected_fix", .str d.expectedFix), ("details", d.details)]

end Defect

namespace Warning

def code : Warning → String
  | sizeMismatch _ _ _ => "W_SIZE_MISMATCH"
  | voidRule _ _ => "W_POSITION_SAME_NOOP"

def path : Warning → String
  | sizeMismatch c _ _ => domainPath c
  | voidRule i _ => rulePath i

/-- Fewer values than houses, or more. -/
def relation (size : Nat) (houses : Json) : String :=
  match houses.asInt? with
  | some n => if (size : Int) < n then "mniej" else "więcej"
  | none => "więcej"

def message : Warning → String
  | sizeMismatch c size houses =>
    "Kategoria '" ++ c ++ "' ma " ++ Numeral.writeNat size ++ " wartości, " ++
      relation size houses ++ " niż domów (" ++ houses.plainText ++
      ") — program będzie niespełnialny."
  | voidRule i r =>
    "Reguła " ++ Numeral.writeNat i ++ " (" ++ r.text ++
      ") łączy dwie pozycje operatorem 'same' — nie generuje żadnego ograniczenia."

def details : Warning → Json
  | sizeMismatch c size houses =>
    .obj [("category", .str c), ("size", .int size), ("houses", houses)]
  | voidRule i _ => .obj [("rule_index", .int i)]

def toJson (w : Warning) : Json :=
  .obj [("code", .str w.code), ("path", .str w.path), ("message", .str w.message),
    ("details", w.details)]

end Warning

namespace Report

def fields (r : Report) : List (String × Json) :=
  [("is_valid", .bool r.isValid), ("errors", .arr (r.errors.map Defect.toJson)),
    ("warnings", .arr (r.warnings.map Warning.toJson))]

/-- The first error in short, for whoever asked for a program of a puzzle that has errors. -/
def summary (r : Report) : String :=
  match r.errors with
  | d :: _ => d.code ++ ": " ++ d.message
  | [] => "Łamigłówka niepoprawna."

end Report

end HousePuzzle
