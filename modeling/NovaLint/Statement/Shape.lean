import NovaLint.Token.Kind

/-!
# Shapes of statements

The catalog of the lines that the language teaches, each as the exact sequence of its token kinds.
-/

namespace NovaLint

/-- A line of a program, described by the kinds of its tokens. -/
structure Shape where
  /-- What the line is called. -/
  name : String
  /-- The kinds of its tokens from the first to the last. -/
  kinds : List Kind
  /-- What is said of a line that was meant to have this shape. -/
  complaint : String
deriving DecidableEq, Repr

namespace Shape

/-- A line has the shape if its kinds are those of the shape, none missing and none left over. -/
def accepts (shape : Shape) (kinds : List Kind) : Bool := shape.kinds == kinds

/-- A declaration or assignment that stores a value. -/
def storing (name : String) (front : List Kind) (value : Kind) : Shape :=
  ⟨name, front ++ [.identifier, .assign, value, .semicolon], "malformed " ++ name⟩

/-- A condition between parentheses that compares a name with a number. -/
def comparison (operator : Kind) : List Kind :=
  [.leftParen, .identifier, operator, .intLiteral, .rightParen]

/-- All shapes, in the order in which they are tried. -/
def catalog : List Shape :=
  [⟨"variable declaration", [.intType, .identifier, .semicolon], "malformed variable declaration"⟩,
    storing "variable declaration with assignment" [.intType] .intLiteral,
    storing "variable declaration with assignment (float)" [.floatType] .floatLiteral,
    storing "variable declaration with assignment (string)" [.stringType] .stringLiteral,
    storing "variable declaration with assignment (char)" [.charType] .charLiteral,
    storing "variable declaration with assignment (bool)" [.boolType] .trueWord,
    ⟨"if statement", .ifWord :: comparison .greater ++ [.leftBrace], "malformed if structure"⟩,
    ⟨"else statement", [.elseWord, .leftBrace], "malformed else structure"⟩,
    ⟨"else if statement", .elseWord :: .ifWord :: comparison .greater ++ [.leftBrace],
      "malformed else if structure"⟩,
    ⟨"output", [.outputWord, .leftParen, .stringLiteral, .rightParen, .semicolon],
      "malformed output call"⟩,
    ⟨"for loop",
      [.forWord, .leftParen, .identifier, .assign, .intLiteral, .semicolon, .identifier, .less,
        .intLiteral, .semicolon, .identifier, .increment, .rightParen, .leftBrace],
      "malformed for structure"⟩,
    ⟨"while loop", .whileWord :: comparison .less ++ [.leftBrace], "malformed while structure"⟩,
    ⟨"do statement", [.doWord, .leftBrace], "malformed do structure"⟩,
    ⟨"do-while closing", .rightBrace :: .whileWord :: comparison .less ++ [.semicolon],
      "malformed do-while closing"⟩,
    ⟨"block end", [.rightBrace], "malformed block end"⟩,
    storing "variable assignment" [] .intLiteral,
    storing "variable assignment (float)" [] .floatLiteral,
    storing "variable assignment (string)" [] .stringLiteral,
    ⟨"function with return type",
      [.functionWord, .intType, .identifier, .leftParen, .rightParen, .leftBrace],
      "malformed function declaration"⟩,
    ⟨"return statement", [.returnWord, .identifier, .semicolon], "malformed return structure"⟩,
    ⟨"return literal", [.returnWord, .intLiteral, .semicolon], "malformed return structure"⟩]

/-- The place in the catalog of the first shape that a line has. -/
def index? (kinds : List Kind) : Option Nat :=
  catalog.findIdx? (·.accepts kinds)

/-- The first shape of the catalog that a line has. -/
def find? (kinds : List Kind) : Option Shape :=
  catalog.find? (·.accepts kinds)

end Shape
end NovaLint
