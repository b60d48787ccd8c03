import HousePuzzle.Program
import HousePuzzle.Proofs.Asp.Reading
import HousePuzzle.Proofs.Name

/-!
What the statements of a program mean as statements of answer set programming, and the tokens that
they are written with.
-/

namespace HousePuzzle

open Asp (Token)

namespace Term

/-- A term without quotes is a number or a constant, and one in quotes neither. -/
def symbol : Term → Asp.Symbol
  | .plain text =>
    if Name.isNumeralForm text.toList then .number (Nat.ofDigitChars 10 text.toList 0)
    else .constant text
  | .quoted text => .text text

/-- The text of the term is a single token. -/
def Readable : Term → Prop
  | .plain text => (Name.ConstantForm text.toList ∧ text ≠ Name.negation) ∨
      Name.isNumeralForm text.toList = true
  | .quoted text => ∀ c ∈ text.toList, Name.isWordChar c = true

def expr (t : Term) : Asp.Expr :=
  .symbol t.symbol

def assignment (t : Term) (x : String) : Asp.Atom :=
  ⟨"assign", [t.expr, .variable x]⟩

def assignmentTokens (t : Term) (x : String) : List Token :=
  [.symbol (.constant "assign"), .lparen, .symbol t.symbol, .comma, .variable x, .rparen]

end Term

namespace Place

def Readable : Place → Prop
  | .ofTerm t => t.Readable
  | .house n => 0 ≤ n

def literals (x : String) : Place → List Asp.Literal
  | .ofTerm t => [.holds (t.assignment x)]
  | .house _ => []

def expr (x : String) : Place → Asp.Expr
  | .ofTerm _ => .variable x
  | .house n => .symbol (.number n)

def bindingTokens (x : String) : Place → List Token
  | .ofTerm t => t.assignmentTokens x ++ [.comma]
  | .house _ => []

def token (x : String) : Place → Token
  | .ofTerm _ => .variable x
  | .house n => .symbol (.number n)

end Place

namespace Relation

def violationLiteral (left right : Asp.Expr) : Relation → Asp.Literal
  | .adjacent => .fails ⟨"next_to", [left, right]⟩
  | .rightOf => .compare .differ left (.plus right (.symbol (.number 1)))
  | .leftOf => .compare .differ left (.minus right (.symbol (.number 1)))

def violationTokens (left right : Token) : Relation → List Token
  | .adjacent =>
    [.negation, .symbol (.constant "next_to"), .lparen, left, .comma, right, .rparen]
  | .rightOf => [left, .differ, right, .plus, .symbol (.number 1)]
  | .leftOf => [left, .differ, right, .minus, .symbol (.number 1)]

end Relation

namespace Constraint

def Readable : Constraint → Prop
  | .together l r => l.Readable ∧ r.Readable
  | .at t n => t.Readable ∧ 0 ≤ n
  | .related _ l r => l.Readable ∧ r.Readable

/-- What must not hold together. -/
def literals : Constraint → List Asp.Literal
  | .together l r =>
    [.holds (l.assignment "H1"), .holds (r.assignment "H2"),
      .compare .differ (.variable "H1") (.variable "H2")]
  | .at t n =>
    [.holds (t.assignment "H"), .compare .differ (.variable "H") (.symbol (.number n))]
  | .related relation l r =>
    l.literals "H1" ++ r.literals "H2" ++ [relation.violationLiteral (l.expr "H1") (r.expr "H2")]

def tokens : Constraint → List Token
  | .together l r =>
    .implied :: (l.assignmentTokens "H1" ++ [.comma] ++ r.assignmentTokens "H2" ++
      [.comma, .variable "H1", .differ, .variable "H2"])
  | .at t n =>
    .implied :: (t.assignmentTokens "H" ++ [.comma, .variable "H", .differ, .symbol (.number n)])
  | .related relation l r =>
    .implied :: (l.bindingTokens "H1" ++ r.bindingTokens "H2" ++
      relation.violationTokens (l.token "H1") (r.token "H2"))

end Constraint

namespace Statement

def IsCategory (c : String) : Prop :=
  Name.ConstantForm c.toList ∧ c ≠ Name.negation

def Readable : Statement → Prop
  | .comment text => '\n' ∉ text.toList
  | .houses count => 0 ≤ count
  | .pool category terms => IsCategory category ∧ terms ≠ [] ∧ ∀ t ∈ terms, t.Readable
  | .placeEach category => IsCategory category
  | .fillEach category => IsCategory category
  | .constraint c => c.Readable
  | .blank | .neighbour _ | .showAssignments => True

def houseOf (x : String) : Asp.Atom :=
  ⟨"house", [.variable x]⟩

def placeRule (category : String) : Asp.Rule where
  head := .choice 1 ⟨"assign", [.variable "A", .variable "H"]⟩ [houseOf "H"] 1
  body := [.holds ⟨category, [.variable "A"]⟩]

def fillRule (category : String) : Asp.Rule where
  head := .none
  body := [.holds (houseOf "H"), .count (.variable "X")
    [⟨"assign", [.variable "X", .variable "H"]⟩, ⟨category, [.variable "X"]⟩] .differ 1]

def neighbourRule (e : Asp.Expr) : Asp.Rule where
  head := .atom ⟨"next_to", [.variable "X", .variable "Y"]⟩
  body := [.holds (houseOf "X"), .holds (houseOf "Y"), .compare .equal (.variable "X") e]

/-- The rule of a statement, if it states one. -/
def rule? : Statement → Option Asp.Rule
  | .houses count =>
    some ⟨.pool "house" [.range (.symbol (.number 1)) (.symbol (.number count))], []⟩
  | .pool category terms => some ⟨.pool category (terms.map fun t => .single t.expr), []⟩
  | .placeEach category => some (placeRule category)
  | .fillEach category => some (fillRule category)
  | .neighbour .right => some (neighbourRule (.plus (.variable "Y") (.symbol (.number 1))))
  | .neighbour .left => some (neighbourRule (.minus (.variable "Y") (.symbol (.number 1))))
  | .constraint c => some ⟨.none, c.literals⟩
  | .comment _ | .blank | .showAssignments => none

def meaning? : Statement → Option Asp.Statement
  | .showAssignments => some (.display "assign" 2)
  | s => s.rule?.map .rule

def neighbourTokens (sign : Token) : List Token :=
  [.symbol (.constant "next_to"), .lparen, .variable "X", .comma, .variable "Y", .rparen, .implied,
    .symbol (.constant "house"), .lparen, .variable "X", .rparen, .comma,
    .symbol (.constant "house"), .lparen, .variable "Y", .rparen, .comma,
    .variable "X", .equal, .variable "Y", sign, .symbol (.number 1)]

/-- The tokens before the dot. -/
def tokens : Statement → List Token
  | .houses count =>
    [.symbol (.constant "house"), .lparen, .symbol (.number 1), .range, .symbol (.number count),
      .rparen]
  | .pool category terms =>
    .symbol (.constant category) :: .lparen ::
      ([Token.semicolon].intercalate (terms.map fun t => [.symbol t.symbol]) ++ [.rparen])
  | .placeEach category =>
    [.symbol (.number 1), .lbrace, .symbol (.constant "assign"), .lparen, .variable "A", .comma,
      .variable "H", .rparen, .colon, .symbol (.constant "house"), .lparen, .variable "H", .rparen,
      .rbrace, .symbol (.number 1), .implied, .symbol (.constant category), .lparen, .variable "A",
      .rparen]
  | .fillEach category =>
    [.implied, .symbol (.constant "house"), .lparen, .variable "H", .rparen, .comma,
      .directive "count", .lbrace, .variable "X", .colon, .symbol (.constant "assign"), .lparen,
      .variable "X", .comma, .variable "H", .rparen, .comma, .symbol (.constant category), .lparen,
      .variable "X", .rparen, .rbrace, .differ, .symbol (.number 1)]
  | .neighbour .right => neighbourTokens .plus
  | .neighbour .left => neighbourTokens .minus
  | .constraint c => c.tokens
  | .showAssignments =>
    [.directive "show", .symbol (.constant "assign"), .slash, .symbol (.number 2)]
  | .comment _ | .blank => []

/-- A comment or a blank line has no tokens and no dot. -/
def lineTokens (s : Statement) : List Token :=
  if s.meaning?.isSome then s.tokens ++ [.dot] else []

end Statement

namespace Program

def Readable (p : Program) : Prop :=
  ∀ s ∈ p, s.Readable

def meaning (p : Program) : List Asp.Statement :=
  p.filterMap Statement.meaning?

def rules (p : Program) : List Asp.Rule :=
  p.filterMap Statement.rule?

end Program

end HousePuzzle
