import NovaLint.Text.Quoted
import NovaLint.Token.Basic

/-!
# Dump of tokens

A token with all its fields on one line, for a look at what the scanner found.
-/

namespace NovaLint

namespace Kind

/-- The kinds with the names that stand for them in a dump. -/
def labels : List (Kind × String) :=
  [(ifWord, "If"), (elseWord, "Else"), (forWord, "For"), (whileWord, "While"), (doWord, "Do"),
    (functionWord, "Function"), (returnWord, "Return"), (outputWord, "Output"),
    (intType, "TypeInt"), (floatType, "TypeFloat"), (stringType, "TypeString"),
    (charType, "TypeChar"), (boolType, "TypeBool"), (trueWord, "True"), (falseWord, "False"),
    (identifier, "Identifier"), (intLiteral, "IntLiteral"), (floatLiteral, "FloatLiteral"),
    (stringLiteral, "StringLiteral"), (charLiteral, "CharLiteral"), (assign, "Assign"),
    (plusAssign, "PlusEq"), (minusAssign, "MinusEq"), (timesAssign, "StarEq"),
    (divideAssign, "SlashEq"), (equal, "EqEq"), (notEqual, "NotEq"), (less, "Lt"),
    (greater, "Gt"), (lessEqual, "LtEq"), (greaterEqual, "GtEq"), (conjunction, "AmpAmp"),
    (disjunction, "PipePipe"), (negation, "Bang"), (plus, "Plus"), (minus, "Minus"),
    (times, "Star"), (divide, "Slash"), (modulo, "Percent"), (increment, "PlusPlus"),
    (decrement, "MinusMinus"), (leftBrace, "LBrace"), (rightBrace, "RBrace"),
    (leftParen, "LParen"), (rightParen, "RParen"), (leftSquare, "LBracket"),
    (rightSquare, "RBracket"), (semicolon, "Semi"), (colon, "Colon"), (comma, "Comma"),
    (unrecognized, "LexicalError")]

/-- The name of the kind in a dump. -/
def label (kind : Kind) : String := (labels.lookup kind).getD ""

end Kind

/-- All fields of a token on one line. -/
def Token.dump (token : Token) : String :=
  s!"Token \x7b kind: {token.kind.label}, value: {Text.quoted token.text}, line: {token.line}, " ++
    s!"span: Span \x7b start: {token.span.start}, end: {token.span.stop} \x7d \x7d"

end NovaLint
