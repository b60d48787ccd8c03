import HousePuzzle.Literal.Tree

/-!
The grammar of expressions, of which literals are a part. Choices are ordered: the first that fits
is taken. Some choices hold only what is wrong, and say what; most of them count only when the text
has been read once without them.
-/

namespace HousePuzzle.Literal

/-- The parts of the grammar that are read once at each place. -/
inductive Rule
  | expression
  | starExpression
  | namedMistake
  | disjunction
  | conjunction
  | inversion
  | bitOr
  | bitXor
  | bitAnd
  | shift
  | sum
  | term
  | factor
  | awaited
  | primary
  | strings
  | arguments
  | target
  | plainTarget
  | targetPrimary
  deriving DecidableEq, Hashable

inductive Grammar
  | mark (s : String)
  | name
  | softKeyword
  | number
  | quotation
  | newline
  | ending
  /-- Nothing, behind a token with an open bracket. -/
  | inBrackets
  | rule (r : Rule)
  | seq (gs : List Grammar)
  | first (gs : List Grammar)
  | optional (g : Grammar)
  | many (g : Grammar)
  | ahead (g : Grammar)
  | notAhead (g : Grammar)
  /-- Once the first part fits, no other choice is tried. -/
  | commit (g behind : Grammar)
  | node (form : Form) (g : Grammar)
  /-- The operators of a level take what stands before them as their first part. -/
  | grow (g : Grammar) (steps : List (Form × Grammar))
  /-- What only a second reading tries. -/
  | again (g : Grammar)
  /-- What is read as in the first reading. -/
  | plain (g : Grammar)
  /-- What fits is a mistake, or else nothing that other choices could mend. -/
  | fault (f : List Tree → Option Mistake) (g : Grammar)

namespace Grammar

instance : Coe String Grammar := ⟨.mark⟩

instance : Coe Rule Grammar := ⟨.rule⟩

def keywords : List String :=
  ["False", "None", "True", "and", "as", "assert", "async", "await", "break", "class", "continue",
    "def", "del", "elif", "else", "except", "finally", "for", "from", "global", "if", "import",
    "in", "is", "lambda", "nonlocal", "not", "or", "pass", "raise", "return", "try", "while",
    "with", "yield"]

/-- Keywords at some places and names at others. -/
def softKeywords : List String :=
  ["_", "case", "match"]

def oneOrMore (g : Grammar) : Grammar :=
  .seq [g, .many g]

def separated (g : Grammar) : Grammar :=
  .seq [g, .many (.seq [",", g])]

def oneOf (marks : List String) : Grammar :=
  .first (marks.map .mark)

def wrong (m : Mistake) (gs : List Grammar) : Grammar :=
  .fault (fun _ => some m) (.seq gs)

def misnamed (f : String → Mistake) (gs : List Grammar) : Grammar :=
  .fault (fun ts => ts.head?.map fun t => f t.title) (.seq gs)

def expression : Grammar := Rule.expression

def disjunction : Grammar := Rule.disjunction

def bitOr : Grammar := Rule.bitOr

def assignment : Grammar :=
  .first [.node .assignment (.commit (.seq [.name, ":="]) expression)]

def unassigned : Grammar :=
  .first [assignment, .seq [expression, .notAhead ":="]]

def named : Grammar :=
  .first [assignment, .again Rule.namedMistake, .seq [expression, .notAhead ":="]]

def starred : Grammar :=
  .node .starred (.seq ["*", expression])

def starNamed : Grammar :=
  .first [.node .starred (.seq ["*", bitOr]), named]

def starNamedList : Grammar :=
  .seq [separated starNamed, .optional ","]

def starExpressions : Grammar :=
  .first [
    .node .tuple (.seq [Rule.starExpression, oneOrMore (.seq [",", Rule.starExpression]),
      .optional ","]),
    .node .tuple (.seq [Rule.starExpression, ","]),
    Rule.starExpression]

def yielded : Grammar :=
  .node .yielded
    (.first [.seq ["yield", "from", expression], .seq ["yield", .optional starExpressions]])

/-! ## Loops in expressions -/

def targetGoesOn : Grammar := oneOf ["(", "[", "."]

def targets : Grammar :=
  .first [
    .seq [Rule.target, .notAhead ","],
    .node .tuple (.seq [Rule.target, .many (.seq [",", Rule.target]), .optional ","])]

def targetAtom : Grammar :=
  .first [
    .name,
    .seq ["(", Rule.plainTarget, ")"],
    .node .tuple (.seq ["(",
      .optional (.first [
        .seq [Rule.target, oneOrMore (.seq [",", Rule.target]), .optional ","],
        .seq [Rule.target, ","]]),
      ")"])]

def loopBody : Grammar :=
  .seq [disjunction, .many (.seq ["if", disjunction])]

def loop : Grammar :=
  .first [
    .commit (.seq ["async", "for", targets, "in"]) loopBody,
    .commit (.seq ["for", targets, "in"]) loopBody,
    .again (.fault (fun ts => (ts.head?.bind Tree.misplaced?).map fun t => .assigned t.title)
      (.seq [.optional "async", "for", starExpressions]))]

def loops : Grammar := oneOrMore loop

def comprehensionMistake : Grammar :=
  .first [
    wrong .unpackingComprehension [oneOf ["(", "\x7b"], starred, loops],
    wrong .bareTarget ["\x7b", starNamed, ",", starNamedList, loops],
    wrong .bareTarget ["\x7b", starNamed, ",", loops]]

def generator : Grammar :=
  .first [
    .node .generator (.seq ["(", unassigned, loops, ")"]),
    .again comprehensionMistake]

/-! ## Brackets -/

def tuple : Grammar :=
  .node .tuple (.seq ["(", .optional (.seq [starNamed, ",", .optional starNamedList]), ")"])

def group : Grammar :=
  .first [
    .seq ["(", .first [yielded, named], ")"],
    .again (.first [
      wrong .starred ["(", starred, ")"],
      wrong .doubleStarred ["(", "**", expression, ")"]])]

def set : Grammar :=
  .node .set (.seq ["\x7b", starNamedList, "\x7d"])

def setComprehension : Grammar :=
  .first [
    .node .setComprehension (.seq ["\x7b", named, loops, "\x7d"]),
    .again comprehensionMistake]

def entry : Grammar :=
  .node .entry (.seq [expression, ":", expression])

def dictItem : Grammar :=
  .first [.node .unpacking (.seq ["**", bitOr]), entry]

def valueMistake : Grammar :=
  .first [
    wrong .starredValue [expression, ":", "*", bitOr],
    wrong .missingValue [expression, ":", .ahead (oneOf ["\x7d", ","])]]

def dictMistake : Grammar :=
  .first [
    .seq [separated dictItem, ",",
      .first [wrong .missingColon [expression, .notAhead ":"], valueMistake]],
    valueMistake]

def dict : Grammar :=
  .first [
    .node .dict (.seq ["\x7b", .optional (.seq [separated dictItem, .optional ","]), "\x7d"]),
    .seq ["\x7b", dictMistake, "\x7d"]]

def dictComprehension : Grammar :=
  .first [
    .node .dictComprehension (.seq ["\x7b", entry, loops, "\x7d"]),
    .again (wrong .unpackingDictComprehension ["\x7b", "**", bitOr, loops, "\x7d"])]

/-! ## Functions without a name -/

def parameter : Grammar :=
  .first [.seq [.name, ","], .seq [.name, .ahead ":"]]

def default : Grammar :=
  .first [.seq ["=", expression], .again (wrong .missingDefault ["=", .ahead (oneOf [")", ","])])]

def defaultParameter : Grammar :=
  .first [.seq [.name, default, ","], .seq [.name, default, .ahead ":"]]

def anyParameter : Grammar :=
  .first [.seq [.name, .optional default, ","], .seq [.name, .optional default, .ahead ":"]]

def slash : Grammar :=
  .first [.seq ["/", ","], .seq ["/", .ahead ":"]]

def slashParameters : Grammar :=
  .first [
    .seq [oneOrMore parameter, "/", ","],
    .seq [oneOrMore parameter, "/", .ahead ":"]]

def slashDefaults : Grammar :=
  .first [
    .seq [.many parameter, oneOrMore defaultParameter, "/", ","],
    .seq [.many parameter, oneOrMore defaultParameter, "/", .ahead ":"]]

def doubleStarParameter : Grammar :=
  .first [
    .again (.first [
      wrong .doubleStarDefault ["**", .name, "="],
      wrong .behindDoubleStar ["**", .name, ",", .name],
      wrong .behindDoubleStar ["**", .name, ",", oneOf ["*", "**", "/"]]]),
    .seq ["**", parameter]]

def starParameters : Grammar :=
  .first [
    .again (.first [
      wrong .bareStar ["*", .first [":", .seq [",", oneOf [":", "**"]]]],
      wrong .starDefault ["*", .name, "="],
      wrong .secondStar ["*", .first [parameter, ","], .many anyParameter, "*",
        .first [parameter, ","]]]),
    .seq ["*", parameter, .many anyParameter, .optional doubleStarParameter],
    .seq ["*", ",", oneOrMore anyParameter, .optional doubleStarParameter],
    doubleStarParameter]

def parametersMistake : Grammar :=
  let slashes := .first [slashParameters, slashDefaults]
  .first [
    wrong .requiredParameter [.many parameter, .first [slashDefaults, oneOrMore defaultParameter],
      parameter],
    wrong .parenthesizedParameters [.many parameter, "(", separated .name, .optional ",", ")"],
    wrong .nothingBeforeSlash ["/", ","],
    wrong .secondSlash [slashes, .many anyParameter, "/"],
    wrong .slashBehindStar [.optional slashes, .many anyParameter, "*", .first [",", parameter],
      .many anyParameter, "/"],
    wrong .noCommaBehindSlash [oneOrMore anyParameter, "/", "*"]]

def parameters : Grammar :=
  .first [
    .again parametersMistake,
    .seq [slashParameters, .many parameter, .many defaultParameter, .optional starParameters],
    .seq [slashDefaults, .many defaultParameter, .optional starParameters],
    .seq [oneOrMore parameter, .many defaultParameter, .optional starParameters],
    .seq [oneOrMore defaultParameter, .optional starParameters],
    starParameters]

def lambda : Grammar :=
  .node .lambda (.seq ["lambda", .optional parameters, ":", expression])

/-! ## Calls -/

def argumentMistake : Grammar :=
  .first [
    .fault (fun ts => ts.head?.map fun t => .assigned t.title)
      (.seq [.first [.node (.constant "True") "True", .node (.constant "False") "False",
        .node (.constant "None") "None"], "="]),
    wrong .equalsSign [.name, "=", expression, loops],
    wrong .assignedArgument [.notAhead (.seq [.name, "="]), expression, "="]]

def keywordArgument : Grammar :=
  .node .keyword (.seq [.name, "=", expression])

def starOrKeyword : Grammar :=
  .first [.again argumentMistake, keywordArgument, starred]

def unpackingOrKeyword : Grammar :=
  .first [.again argumentMistake, keywordArgument, .node .unpacking (.seq ["**", expression])]

def keywordArguments : Grammar :=
  .first [
    .seq [separated starOrKeyword, ",", separated unpackingOrKeyword],
    separated starOrKeyword,
    separated unpackingOrKeyword]

def argumentList : Grammar :=
  .node .arguments (.first [
    .seq [separated (.first [starred, .seq [unassigned, .notAhead "="]]),
      .optional (.seq [",", keywordArguments])],
    keywordArguments])

def isPositional (t : Tree) : Bool :=
  t.form ≠ .keyword && t.form ≠ .unpacking

/-- A loop without brackets is an argument only if it is the one argument. -/
def bareGenerator? (ts : List Tree) : Option Mistake :=
  match ts with
  | t :: _ => if (t.parts.filter isPositional).length ≤ 1 then none else some .bareGenerator
  | [] => none

def lateArgument (ts : List Tree) : Option Mistake :=
  ts.head?.map fun t =>
    if t.parts.any (·.form = .unpacking) then .positionalAfterUnpacking else .positionalAfterKeyword

def argumentsMistake : Grammar :=
  .first [
    wrong .unpackingAfterKeywords [argumentList, ",", "*"],
    wrong .bareGenerator [expression, loops, ",",
      .optional (.first [argumentList, .seq [expression, loops]])],
    wrong .equalsSign [.name, "=", expression, loops],
    .fault bareGenerator? (.seq [argumentList, loops]),
    wrong .bareGenerator [argumentList, ",", expression, loops],
    .fault lateArgument (.seq [argumentList, ",", argumentList])]

/-! ## Expressions -/

def atom : Grammar :=
  .first [
    .name,
    .node (.constant "True") "True",
    .node (.constant "False") "False",
    .node (.constant "None") "None",
    .seq [.ahead .quotation, Rule.strings],
    .number,
    .seq [.ahead "(", .first [tuple, group, generator]],
    .seq [.ahead "\x7b", .first [dict, set, dictComprehension, setComprehension]],
    .node (.constant "ellipsis") "..."]

def callSteps (behind : Grammar) : List (Form × Grammar) :=
  [(.attribute, .seq [".", .name, behind]),
    (.call, .seq [generator, behind]),
    (.call, .seq ["(", .optional Rule.arguments, ")", behind])]

def steps (form : Form) (marks : List String) (g : Grammar) : List (Form × Grammar) :=
  marks.map fun m => (form, .seq [.mark m, g])

def compared : Grammar :=
  .first [
    .seq [oneOf ["==", "!=", "<=", "<", ">=", ">"], bitOr],
    .seq ["not", "in", bitOr],
    .seq ["in", bitOr],
    .seq ["is", "not", bitOr],
    .seq ["is", bitOr]]

def comparison : Grammar :=
  .first [
    .node .membership (.seq [bitOr, "in", bitOr, .many compared]),
    .node .comparison (.seq [bitOr, oneOrMore compared]),
    bitOr]

def choice : Grammar :=
  .first [
    .node .conditional (.seq [disjunction, "if", disjunction, "else", expression]),
    disjunction,
    lambda]

/-- Names of statements that are functions now. -/
def formerStatements : List String :=
  ["print", "exec"]

def formerStatement? (t : Tree) : Option String :=
  t.name?.filter (formerStatements.contains ·)

def expressionMistake : Grammar :=
  .first [
    .fault (fun ts =>
        if (ts.head?.bind formerStatement?).isSome then none else some .missingComma)
      (.seq [.notAhead (.first [.seq [.name, .quotation], .softKeyword]), disjunction,
        .plain choice, .inBrackets]),
    wrong .missingElse [disjunction, "if", disjunction, .notAhead (oneOf ["else", ":"])]]

def statementMistake : Grammar :=
  .fault (fun ts => (ts.head?.bind formerStatement?).map .missingParentheses)
    (.seq [.name, .notAhead "(", starExpressions])

def namedMistake : Grammar :=
  .first [
    misnamed .assignmentExpression [expression, ":=", expression],
    wrong .equalsSign [.name, "=", bitOr, .notAhead (oneOf ["=", ":="])],
    misnamed .assignedHere [.notAhead (.first [tuple, generator, oneOf ["True", "None", "False"]]),
      bitOr, "=", bitOr, .notAhead (oneOf ["=", ":="])]]

/-- A whole text: expressions in a row are a tuple. -/
def whole : Grammar :=
  .seq [
    .first [
      .node .tuple (.seq [expression, oneOrMore (.seq [",", expression]), .optional ","]),
      .node .tuple (.seq [expression, ","]),
      expression],
    .many .newline,
    .ending]

end Grammar

open Grammar in
def Rule.body : Rule → Grammar
  | .expression => .first [.again expressionMistake, .again statementMistake, choice]
  | .starExpression => .first [.node .starred (.seq ["*", bitOr]), expression]
  | .namedMistake => Grammar.namedMistake
  | .disjunction =>
    .first [.node .operation (.seq [Rule.conjunction, oneOrMore (.seq ["or", Rule.conjunction])]),
      Rule.conjunction]
  | .conjunction =>
    .first [.node .operation (.seq [Rule.inversion, oneOrMore (.seq ["and", Rule.inversion])]),
      Rule.inversion]
  | .inversion => .first [.node .operation (.seq ["not", Rule.inversion]), comparison]
  | .bitOr => .grow Rule.bitXor (steps .operation ["|"] Rule.bitXor)
  | .bitXor => .grow Rule.bitAnd (steps .operation ["^"] Rule.bitAnd)
  | .bitAnd => .grow Rule.shift (steps .operation ["&"] Rule.shift)
  | .shift => .grow Rule.sum (steps .operation ["<<", ">>"] Rule.sum)
  | .sum => .grow Rule.term (steps .sum ["+", "-"] Rule.term)
  | .term => .grow Rule.factor (steps .operation ["*", "/", "//", "%", "@"] Rule.factor)
  | .factor =>
    .first [.node .sign (.seq [oneOf ["+", "-"], Rule.factor]),
      .node .operation (.seq ["~", Rule.factor]),
      .node .operation (.seq [Rule.awaited, "**", Rule.factor]),
      Rule.awaited]
  | .awaited => .first [.node .awaited (.seq ["await", Rule.primary]), Rule.primary]
  | .primary => .grow atom (callSteps (.seq []))
  | .strings => oneOrMore .quotation
  | .arguments =>
    .first [.seq [argumentList, .optional ",", .ahead ")"], .again argumentsMistake]
  | .target =>
    .first [.node .starred (.seq ["*", .notAhead "*", Rule.target]), Rule.plainTarget]
  | .plainTarget =>
    .first [.node .attribute (.seq [Rule.targetPrimary, ".", .name, .notAhead targetGoesOn]),
      targetAtom]
  | .targetPrimary => .grow (.seq [atom, .ahead targetGoesOn]) (callSteps (.ahead targetGoesOn))

end HousePuzzle.Literal
