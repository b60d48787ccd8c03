import HousePuzzle.Numeral
import HousePuzzle.Text.Quoted

/-! What can be wrong with the text of a literal, and how it is told. -/

namespace HousePuzzle.Literal

inductive NumberKind
  | decimal
  | hexadecimal
  | octal
  | binary
  | imaginary
  deriving DecidableEq

def NumberKind.title : NumberKind → String
  | .decimal => "decimal"
  | .hexadecimal => "hexadecimal"
  | .octal => "octal"
  | .binary => "binary"
  | .imaginary => "imaginary"

inductive EscapeFault
  | twoDigits
  | fourDigits
  | eightDigits
  | beyondUnicode
  | noName
  deriving DecidableEq

def EscapeFault.message : EscapeFault → String
  | .twoDigits => "truncated \\xXX escape"
  | .fourDigits => "truncated \\uXXXX escape"
  | .eightDigits => "truncated \\UXXXXXXXX escape"
  | .beyondUnicode => "illegal Unicode character"
  | .noName => "malformed \\N character escape"

inductive Mistake
  | unexpected
  | unexpectedIndent
  | unexpectedDedent
  | strayDedent
  | mixedIndent
  | character (c : Char)
  | continuation
  | unfinished
  | unclosed (c : Char)
  | unmatched (c : Char)
  | mismatched (closing opening : Char) (line? : Option Nat)
  | tooDeep
  | unterminated (triple : Bool) (line : Nat)
  | number (kind : NumberKind)
  | digit (c : Char) (kind : NumberKind)
  | leadingZeros
  | longNumber (digits : Nat)
  | mixedStrings
  | wideBytes
  | textEscape (first last : Nat) (fault : EscapeFault)
  | bytesEscape (position : Nat)
  | missingComma
  | missingElse
  | missingParentheses (name : String)
  | equalsSign
  | assignedHere (target : String)
  | assigned (target : String)
  | assignmentExpression (target : String)
  | assignedArgument
  | positionalAfterKeyword
  | positionalAfterUnpacking
  | unpackingAfterKeywords
  | bareGenerator
  | starred
  | doubleStarred
  | unpackingComprehension
  | unpackingDictComprehension
  | bareTarget
  | missingColon
  | missingValue
  | starredValue
  | requiredParameter
  | parenthesizedParameters
  | nothingBeforeSlash
  | secondSlash
  | slashBehindStar
  | noCommaBehindSlash
  | bareStar
  | starDefault
  | secondStar
  | doubleStarDefault
  | behindDoubleStar
  | missingDefault
  deriving DecidableEq

def quote (c : Char) : String :=
  "'" ++ c.toString ++ "'"

/-- The number of a character, with four digits at least. -/
def codePoint (c : Char) : String :=
  "U+" ++ String.ofList ((Text.hex 4 c.toNat).map Char.toUpper)

def Mistake.message : Mistake → String
  | .unexpected => "invalid syntax"
  | .unexpectedIndent => "unexpected indent"
  | .unexpectedDedent => "unexpected unindent"
  | .strayDedent => "unindent does not match any outer indentation level"
  | .mixedIndent => "inconsistent use of tabs and spaces in indentation"
  | .character c =>
    if Text.isPrintable c then "invalid character " ++ quote c ++ " (" ++ codePoint c ++ ")"
    else "invalid non-printable character " ++ codePoint c
  | .continuation => "unexpected character after line continuation character"
  | .unfinished => "unexpected EOF while parsing"
  | .unclosed c => quote c ++ " was never closed"
  | .unmatched c => "unmatched " ++ quote c
  | .mismatched closing opening line? =>
    "closing parenthesis " ++ quote closing ++ " does not match opening parenthesis " ++
      quote opening ++
      match line? with
      | some line => " on line " ++ Numeral.writeNat line
      | none => ""
  | .tooDeep => "too many nested parentheses"
  | .unterminated triple line =>
    "unterminated " ++ (if triple then "triple-quoted " else "") ++
      "string literal (detected at line " ++ Numeral.writeNat line ++ ")"
  | .number kind => "invalid " ++ kind.title ++ " literal"
  | .digit c kind => "invalid digit " ++ quote c ++ " in " ++ kind.title ++ " literal"
  | .leadingZeros =>
    "leading zeros in decimal integer literals are not permitted; " ++
      "use an 0o prefix for octal integers"
  | .longNumber digits =>
    (Numeral.Error.tooLong digits).message ++
      " - Consider hexadecimal for huge integer literals to avoid decimal conversion limits."
  | .mixedStrings => "cannot mix bytes and nonbytes literals"
  | .wideBytes => "bytes can only contain ASCII literal characters"
  | .textEscape first last fault =>
    "(unicode error) 'unicodeescape' codec can't decode bytes in position " ++
      Numeral.writeNat first ++ "-" ++ Numeral.writeNat last ++ ": " ++ fault.message
  | .bytesEscape position =>
    "(value error) invalid \\x escape at position " ++ Numeral.writeNat position
  | .missingComma => "invalid syntax. Perhaps you forgot a comma?"
  | .missingElse => "expected 'else' after 'if' expression"
  | .missingParentheses name =>
    "Missing parentheses in call to '" ++ name ++ "'. Did you mean " ++ name ++ "(...)?"
  | .equalsSign => "invalid syntax. Maybe you meant '==' or ':=' instead of '='?"
  | .assignedHere target =>
    "cannot assign to " ++ target ++ " here. Maybe you meant '==' instead of '='?"
  | .assigned target => "cannot assign to " ++ target
  | .assignmentExpression target => "cannot use assignment expressions with " ++ target
  | .assignedArgument => "expression cannot contain assignment, perhaps you meant \"==\"?"
  | .positionalAfterKeyword => "positional argument follows keyword argument"
  | .positionalAfterUnpacking => "positional argument follows keyword argument unpacking"
  | .unpackingAfterKeywords =>
    "iterable argument unpacking follows keyword argument unpacking"
  | .bareGenerator => "Generator expression must be parenthesized"
  | .starred => "cannot use starred expression here"
  | .doubleStarred => "cannot use double starred expression here"
  | .unpackingComprehension => "iterable unpacking cannot be used in comprehension"
  | .unpackingDictComprehension => "dict unpacking cannot be used in dict comprehension"
  | .bareTarget => "did you forget parentheses around the comprehension target?"
  | .missingColon => "':' expected after dictionary key"
  | .missingValue => "expression expected after dictionary key and ':'"
  | .starredValue => "cannot use a starred expression in a dictionary value"
  | .requiredParameter => "non-default argument follows default argument"
  | .parenthesizedParameters => "Lambda expression parameters cannot be parenthesized"
  | .nothingBeforeSlash => "at least one argument must precede /"
  | .secondSlash => "/ may appear only once"
  | .slashBehindStar => "/ must be ahead of *"
  | .noCommaBehindSlash => "expected comma between / and *"
  | .bareStar => "named arguments must follow bare *"
  | .starDefault => "var-positional argument cannot have default value"
  | .secondStar => "* argument may appear only once"
  | .doubleStarDefault => "var-keyword argument cannot have default value"
  | .behindDoubleStar => "arguments cannot follow var-keyword argument"
  | .missingDefault => "expected default value expression"

end HousePuzzle.Literal
