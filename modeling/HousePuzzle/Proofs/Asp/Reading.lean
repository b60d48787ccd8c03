import HousePuzzle.Name
import HousePuzzle.Proofs.Asp.AnswerSet

/-!
Answer set programs from text: its tokens, and the statements that these form. What a program may
hold beyond that, such as functions and block comments, is not read.
-/

namespace HousePuzzle.Asp

inductive Token
  | symbol (s : Symbol)
  | variable (name : String)
  | directive (name : String)
  | negation
  | lparen
  | rparen
  | lbrace
  | rbrace
  | comma
  | semicolon
  | colon
  | implied
  | dot
  | range
  | equal
  | differ
  | plus
  | minus
  | slash
  deriving DecidableEq

/-- What stands between the last token and the next character. -/
inductive Mode
  | idle
  | percent
  | comment
  | word (cs : List Char)
  | digits (n : Nat)
  | text (cs : List Char)
  | directive (cs : List Char)
  | sign (c : Char)
  deriving DecidableEq

/-- A small letter first makes a constant, a capital one a variable; underscores do not count. -/
def Token.ofWord? (cs : List Char) : Option Token :=
  match cs.dropWhile (· = '_') with
  | [] => none
  | c :: _ =>
    if Name.isSmall c then
      some (if cs = ['n', 'o', 't'] then .negation else .symbol (.constant (String.ofList cs)))
    else if Name.isDigit c then none
    else some (.variable (String.ofList cs))

def Token.ofSign? : Char → Option Token
  | '(' => some .lparen
  | ')' => some .rparen
  | '{' => some .lbrace
  | '}' => some .rbrace
  | ',' => some .comma
  | ';' => some .semicolon
  | '=' => some .equal
  | '+' => some .plus
  | '-' => some .minus
  | '/' => some .slash
  | _ => none

namespace Mode

def digit (c : Char) : Nat :=
  c.toNat - '0'.toNat

/-- The first character of a token, or one between tokens. -/
def enter (c : Char) : Option (List Token × Mode) :=
  if Name.isDigit c then some ([], .digits (digit c))
  else if Name.isWordChar c then some ([], .word [c])
  else if c = ' ' || c = '\n' then some ([], .idle)
  else if c = '%' then some ([], .percent)
  else if c = '"' then some ([], .text [])
  else if c = '#' then some ([], .directive [])
  else if c = ':' || c = '.' || c = '!' then some ([], .sign c)
  else (Token.ofSign? c).map fun t => ([t], .idle)

/-- A token has ended before the character. -/
def leave (t : Option Token) (c : Char) : Option (List Token × Mode) := do
  let t ← t
  let (ts, m) ← enter c
  return (t :: ts, m)

def step (c : Char) : Mode → Option (List Token × Mode)
  | .idle => enter c
  | .percent => if c = '*' then none else some ([], if c = '\n' then .idle else .comment)
  | .comment => some ([], if c = '\n' then .idle else .comment)
  | .word cs =>
    if Name.isWordChar c then some ([], .word (cs ++ [c])) else leave (Token.ofWord? cs) c
  | .digits n =>
    if Name.isDigit c then some ([], .digits (10 * n + digit c))
    else leave (some (.symbol (.number n))) c
  | .text cs =>
    if c = '"' then some ([.symbol (.text (String.ofList cs))], .idle)
    else if c = '\\' || c = '\n' then none
    else some ([], .text (cs ++ [c]))
  | .directive cs =>
    if Name.isWordChar c then some ([], .directive (cs ++ [c]))
    else leave (some (.directive (String.ofList cs))) c
  | .sign ':' => if c = '-' then some ([.implied], .idle) else leave (some .colon) c
  | .sign '.' => if c = '.' then some ([.range], .idle) else leave (some .dot) c
  | .sign '!' => if c = '=' then some ([.differ], .idle) else none
  | .sign _ => none

/-- The end of the text ends a token, but neither a quoted text nor half a sign. -/
def finish : Mode → Option (List Token)
  | .idle | .percent | .comment => some []
  | .word cs => (Token.ofWord? cs).map ([·])
  | .digits n => some [.symbol (.number n)]
  | .directive cs => some [.directive (String.ofList cs)]
  | .sign '.' => some [.dot]
  | .sign ':' => some [.colon]
  | .text _ | .sign _ => none

end Mode

def scan : Mode → List Char → Option (List Token × Mode)
  | m, [] => some ([], m)
  | m, c :: cs => do
    let (ts, m) ← m.step c
    let (us, m) ← scan m cs
    return (ts ++ us, m)

def tokens (text : String) : Option (List Token) := do
  let (ts, m) ← scan .idle text.toList
  return ts ++ (← m.finish)

/-- What stands before and behind the first token of the given sort. -/
def cutAt? (t : Token) : List Token → Option (List Token × List Token)
  | [] => none
  | u :: us => if u = t then some ([], us) else (cutAt? t us).map fun (b, a) => (u :: b, a)

/-- Commas in parentheses and braces do not separate. -/
def separated : Nat → List Token → List (List Token)
  | _, [] => [[]]
  | depth, t :: ts =>
    match t, depth with
    | .comma, 0 => [] :: separated 0 ts
    | t, depth =>
      let depth := match t with
        | .lparen | .lbrace => depth + 1
        | .rparen | .rbrace => depth - 1
        | _ => depth
      match separated depth ts with
      | [] => [[t]]
      | piece :: pieces => (t :: piece) :: pieces

namespace Read

def primary : Token → Option Expr
  | .symbol s => some (.symbol s)
  | .variable x => some (.variable x)
  | _ => none

def expr : List Token → Option Expr
  | [t] => primary t
  | [t, .plus, u] => return .plus (← primary t) (← primary u)
  | [t, .minus, u] => return .minus (← primary t) (← primary u)
  | _ => none

def alternative : List Token → Option Alternative
  | [t, .range, u] => return .range (← primary t) (← primary u)
  | ts => (expr ts).map .single

/-- A name, and what stands in the parentheses behind it. -/
def applied : List Token → Option (String × List Token)
  | .symbol (.constant p) :: .lparen :: rest =>
    match cutAt? .rparen rest with
    | some (inner, []) => some (p, inner)
    | _ => none
  | _ => none

def atom (ts : List Token) : Option Atom := do
  let (p, inner) ← applied ts
  return ⟨p, ← (inner.splitOn .comma).mapM expr⟩

def atoms (ts : List Token) : Option (List Atom) :=
  (separated 0 ts).mapM atom

def count (inner : List Token) (c : Comparison) (bound : Nat) : Option Literal := do
  let (e, condition) ← cutAt? .colon inner
  return .count (← expr e) (← atoms condition) c bound

def comparison (ts : List Token) : Option Literal :=
  match cutAt? .differ ts, cutAt? .equal ts with
  | some (l, r), _ => return .compare .differ (← expr l) (← expr r)
  | none, some (l, r) => return .compare .equal (← expr l) (← expr r)
  | none, none => none

def literal : List Token → Option Literal
  | .negation :: ts => (atom ts).map .fails
  | .directive d :: .lbrace :: rest =>
    match decide (d = "count"), cutAt? .rbrace rest with
    | true, some (inner, [.differ, .symbol (.number (.ofNat n))]) => count inner .differ n
    | true, some (inner, [.equal, .symbol (.number (.ofNat n))]) => count inner .equal n
    | _, _ => none
  | ts =>
    match comparison ts with
    | some l => some l
    | none => (atom ts).map .holds

def body (ts : List Token) : Option (List Literal) :=
  (separated 0 ts).mapM literal

def choice (lower : Nat) (rest : List Token) : Option Head := do
  let (inner, behind) ← cutAt? .rbrace rest
  let (a, condition) ← cutAt? .colon inner
  match behind with
  | [.symbol (.number (.ofNat upper))] => return .choice lower (← atom a) (← atoms condition) upper
  | _ => none

def head : List Token → Option Head
  | .symbol (.number (.ofNat lower)) :: .lbrace :: rest => choice lower rest
  | ts => do
    let (p, inner) ← applied ts
    match (inner.splitOn .semicolon).mapM alternative with
    | some alternatives => return .pool p alternatives
    | none => (atom ts).map .atom

def rule (ts : List Token) : Option Rule :=
  match cutAt? .implied ts with
  | none => (head ts).map (⟨·, []⟩)
  | some ([], behind) => (body behind).map (⟨.none, ·⟩)
  | some (before, behind) => return ⟨← head before, ← body behind⟩

def statement : List Token → Option Statement
  | [.directive d, .symbol (.constant p), .slash, .symbol (.number (.ofNat n))] =>
    if d = "show" then some (.display p n) else none
  | ts => (rule ts).map .rule

/-- Every statement ends with a dot. -/
def statements : List Token → List Token → Option (List Statement)
  | [], [] => some []
  | _ :: _, [] => none
  | ts, .dot :: rest => return (← statement ts) :: (← statements [] rest)
  | ts, t :: rest => statements (ts ++ [t]) rest

end Read

def read (text : String) : Option (List Statement) :=
  (tokens text).bind (Read.statements [])

end HousePuzzle.Asp
