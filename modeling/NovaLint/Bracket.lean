import NovaLint.Token.Basic

/-!
# Brackets

How often each family of brackets is opened and closed in a program.  Only the numbers are compared;
the order in which brackets open and close plays no part.
-/

namespace NovaLint

/-- A family of brackets. -/
inductive Bracket where
  /-- Curly braces. -/
  | brace
  /-- Round parentheses. -/
  | paren
  /-- Square brackets. -/
  | square
deriving DecidableEq, Repr

namespace Bracket

/-- All families, in the order of reports. -/
def all : List Bracket := [brace, paren, square]

/-- The word for a bracket of the family. -/
def name : Bracket → String
  | brace => "brace"
  | paren => "paren"
  | square => "bracket"

/-- The word for several brackets of the family. -/
def plural (bracket : Bracket) : String := bracket.name ++ "s"

/-- The family that a token opens. -/
def openedBy? : Kind → Option Bracket
  | .leftBrace => brace
  | .leftParen => paren
  | .leftSquare => square
  | _ => none

/-- The family that a token closes. -/
def closedBy? : Kind → Option Bracket
  | .rightBrace => brace
  | .rightParen => paren
  | .rightSquare => square
  | _ => none

/-- How often the brackets of a family are opened and closed. -/
structure Balance where
  /-- The family. -/
  bracket : Bracket
  /-- Number of opening brackets. -/
  opened : Nat
  /-- Number of closing brackets. -/
  closed : Nat
deriving DecidableEq, Repr

/-- As many brackets are opened as are closed. -/
def Balance.isBalanced (balance : Balance) : Bool := balance.opened == balance.closed

/-- Count the brackets of a family in a stream of tokens. -/
def balance (bracket : Bracket) (tokens : List Token) : Balance :=
  { bracket
    opened := tokens.countP fun token => openedBy? token.kind == some bracket
    closed := tokens.countP fun token => closedBy? token.kind == some bracket }

end Bracket
end NovaLint
