/-!
# Kinds of tokens

The closed list of token kinds, the spelling of those that are always written alike, and the
classes that the checks ask for.
-/

namespace NovaLint

/-- What a token is. -/
inductive Kind where
  /-- The word `if`. -/
  | ifWord
  /-- The word `else`. -/
  | elseWord
  /-- The word `for`. -/
  | forWord
  /-- The word `while`. -/
  | whileWord
  /-- The word `do`. -/
  | doWord
  /-- The word `function`. -/
  | functionWord
  /-- The word `return`. -/
  | returnWord
  /-- The word `output`. -/
  | outputWord
  /-- The type name `int`. -/
  | intType
  /-- The type name `float`. -/
  | floatType
  /-- The type name `string`. -/
  | stringType
  /-- The type name `char`. -/
  | charType
  /-- The type name `bool`. -/
  | boolType
  /-- The word `true`. -/
  | trueWord
  /-- The word `false`. -/
  | falseWord
  /-- A name. -/
  | identifier
  /-- A run of digits. -/
  | intLiteral
  /-- Two runs of digits with a point between them. -/
  | floatLiteral
  /-- Text between double quotes. -/
  | stringLiteral
  /-- One character or escape between single quotes. -/
  | charLiteral
  /-- The sign `=`. -/
  | assign
  /-- The sign `+=`. -/
  | plusAssign
  /-- The sign `-=`. -/
  | minusAssign
  /-- The sign `*=`. -/
  | timesAssign
  /-- The sign `/=`. -/
  | divideAssign
  /-- The sign `==`. -/
  | equal
  /-- The sign `!=`. -/
  | notEqual
  /-- The sign `<`. -/
  | less
  /-- The sign `>`. -/
  | greater
  /-- The sign `<=`. -/
  | lessEqual
  /-- The sign `>=`. -/
  | greaterEqual
  /-- The sign `&&`. -/
  | conjunction
  /-- The sign `||`. -/
  | disjunction
  /-- The sign `!`. -/
  | negation
  /-- The sign `+`. -/
  | plus
  /-- The sign `-`. -/
  | minus
  /-- The sign `*`. -/
  | times
  /-- The sign `/`. -/
  | divide
  /-- The sign `%`. -/
  | modulo
  /-- The sign `++`. -/
  | increment
  /-- The sign `--`. -/
  | decrement
  /-- An opening brace. -/
  | leftBrace
  /-- A closing brace. -/
  | rightBrace
  /-- An opening parenthesis. -/
  | leftParen
  /-- A closing parenthesis. -/
  | rightParen
  /-- An opening square bracket. -/
  | leftSquare
  /-- A closing square bracket. -/
  | rightSquare
  /-- The sign `;`. -/
  | semicolon
  /-- The sign `:`. -/
  | colon
  /-- The sign `,`. -/
  | comma
  /-- A single character that starts no token. -/
  | unrecognized
deriving DecidableEq, Repr, Inhabited

namespace Kind

/-- The words that are not names, with their kinds. -/
def words : List (String × Kind) :=
  [("if", ifWord), ("else", elseWord), ("for", forWord), ("while", whileWord), ("do", doWord),
    ("function", functionWord), ("return", returnWord), ("output", outputWord),
    ("int", intType), ("float", floatType), ("string", stringType), ("char", charType),
    ("bool", boolType), ("true", trueWord), ("false", falseWord)]

/-- The operators and the punctuation that are written with two characters. -/
def pairs : List ((Char × Char) × Kind) :=
  [(('+', '='), plusAssign), (('-', '='), minusAssign), (('*', '='), timesAssign),
    (('/', '='), divideAssign), (('=', '='), equal), (('!', '='), notEqual),
    (('<', '='), lessEqual), (('>', '='), greaterEqual), (('&', '&'), conjunction),
    (('|', '|'), disjunction), (('+', '+'), increment), (('-', '-'), decrement)]

/-- The operators and the punctuation that are written with one character. -/
def singles : List (Char × Kind) :=
  [('=', assign), ('<', less), ('>', greater), ('!', negation), ('+', plus), ('-', minus),
    ('*', times), ('/', divide), ('%', modulo), ('\x7b', leftBrace), ('\x7d', rightBrace),
    ('(', leftParen), (')', rightParen), ('[', leftSquare), (']', rightSquare),
    (';', semicolon), (':', colon), (',', comma)]

/-- The kind of a whole word: a reserved word has its own kind, any other word is a name. -/
def ofWord (word : String) : Kind :=
  (words.lookup word).getD identifier

/-- The kind of two characters that stand for one sign. -/
def ofPair? (first second : Char) : Option Kind :=
  pairs.lookup (first, second)

/-- The kind of one character that stands for a sign. -/
def ofSingle? (c : Char) : Option Kind :=
  singles.lookup c

/-- The text of a kind that is always written alike. -/
def spelling? : Kind → Option String
  | ifWord => "if"
  | elseWord => "else"
  | forWord => "for"
  | whileWord => "while"
  | doWord => "do"
  | functionWord => "function"
  | returnWord => "return"
  | outputWord => "output"
  | intType => "int"
  | floatType => "float"
  | stringType => "string"
  | charType => "char"
  | boolType => "bool"
  | trueWord => "true"
  | falseWord => "false"
  | assign => "="
  | plusAssign => "+="
  | minusAssign => "-="
  | timesAssign => "*="
  | divideAssign => "/="
  | equal => "=="
  | notEqual => "!="
  | less => "<"
  | greater => ">"
  | lessEqual => "<="
  | greaterEqual => ">="
  | conjunction => "&&"
  | disjunction => "||"
  | negation => "!"
  | plus => "+"
  | minus => "-"
  | times => "*"
  | divide => "/"
  | modulo => "%"
  | increment => "++"
  | decrement => "--"
  | leftBrace => "\x7b"
  | rightBrace => "\x7d"
  | leftParen => "("
  | rightParen => ")"
  | leftSquare => "["
  | rightSquare => "]"
  | semicolon => ";"
  | colon => ":"
  | comma => ","
  | identifier | intLiteral | floatLiteral | stringLiteral | charLiteral | unrecognized => none

/-- What the kind is called in prose: its spelling between quotes, or a description. -/
def description (kind : Kind) : String :=
  match kind.spelling? with
  | some spelling => "'" ++ spelling ++ "'"
  | none =>
    match kind with
    | identifier => "identifier"
    | intLiteral => "integer literal"
    | floatLiteral => "float literal"
    | stringLiteral => "string literal"
    | charLiteral => "char literal"
    | _ => "lexical error"

/-- Names of a type. -/
def isType : Kind → Bool
  | intType | floatType | stringType | charType | boolType => true
  | _ => false

/-- Assignments that also compute. -/
def isCompoundAssignment : Kind → Bool
  | plusAssign | minusAssign | timesAssign | divideAssign => true
  | _ => false

/-- Operators that compute with numbers or text. -/
def isArithmetic : Kind → Bool
  | plus | minus | times | divide | modulo | increment | decrement => true
  | kind => kind.isCompoundAssignment

/-- Operators that the scanner knows and the language refuses wherever they stand. -/
def isUnsupported : Kind → Bool
  | modulo | increment | decrement => true
  | kind => kind.isCompoundAssignment

/-- Operators that compare. -/
def isRelational : Kind → Bool
  | equal | notEqual | less | greater | lessEqual | greaterEqual => true
  | _ => false

/-- Tokens that stand for a value. -/
def isLiteral : Kind → Bool
  | intLiteral | floatLiteral | stringLiteral | charLiteral | trueWord | falseWord => true
  | _ => false

/-- The short tag that stands for the kind in tables and exports.  An operator is tagged with its
class (`AOP` for arithmetic, `ROP` for relational, `LOP` for logical) and its spelling, and a
bracket or separator with `CH` and its spelling. -/
def code (kind : Kind) : String :=
  match kind with
  | ifWord => "IF"
  | elseWord => "ELSE"
  | forWord => "FOR"
  | whileWord => "WHI"
  | doWord => "DO"
  | functionWord => "FCTN"
  | returnWord => "RTRN"
  | outputWord => "OUT"
  | intType => "TPINT"
  | floatType => "TPDBL"
  | stringType => "TPSTR"
  | charType => "TPCHR"
  | boolType => "TPBOL"
  | trueWord => "TRUE"
  | falseWord => "FALSE"
  | identifier => "IDEN"
  | intLiteral => "NUMINT"
  | floatLiteral => "NUMDB"
  | stringLiteral => "STR"
  | charLiteral => "CHR"
  | assign => "ASSGN"
  | plusAssign => "AOP+="
  | minusAssign => "AOP-="
  | timesAssign => "AOP*="
  | divideAssign => "AOP/="
  | equal => "ROP=="
  | notEqual => "ROP!="
  | less => "ROP<"
  | greater => "ROP>"
  | lessEqual => "ROP<="
  | greaterEqual => "ROP>="
  | conjunction => "LOP&&"
  | disjunction => "LOP||"
  | negation => "LOP!"
  | plus => "AOP+"
  | minus => "AOP-"
  | times => "AOP*"
  | divide => "AOP/"
  | modulo => "AOP%"
  | increment => "AOP++"
  | decrement => "AOP--"
  | leftBrace => "CH\x7b"
  | rightBrace => "CH\x7d"
  | leftParen => "CH("
  | rightParen => "CH)"
  | leftSquare => "CH["
  | rightSquare => "CH]"
  | semicolon => "CH;"
  | colon => "CH:"
  | comma => "CH,"
  | unrecognized => "ERR"

end Kind
end NovaLint
