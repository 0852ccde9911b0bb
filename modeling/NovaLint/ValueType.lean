import NovaLint.Token.Kind

/-!
# Types of values

A value of one type may be stored where another is expected if nothing of it is lost: an integer as
a float, a character as a string.  What is not known is never held against a program.
-/

namespace NovaLint

/-- What a variable or a value holds. -/
inductive ValueType where
  /-- Whole numbers. -/
  | integer
  /-- Numbers with a fraction. -/
  | float
  /-- Truth values. -/
  | boolean
  /-- Texts. -/
  | string
  /-- Single characters. -/
  | char
  /-- Nothing is known. -/
  | unknown
deriving DecidableEq, Repr, Inhabited

namespace ValueType

/-- The word for the type in messages and tables. -/
def name : ValueType → String
  | integer => "integer"
  | float => "float"
  | boolean => "boolean"
  | string => "string"
  | char => "char"
  | unknown => "unknown"

/-- The type that a type name stands for. -/
def ofTypeName? : Kind → Option ValueType
  | .intType => integer
  | .floatType => float
  | .stringType => string
  | .charType => char
  | .boolType => boolean
  | _ => none

/-- The type of a literal. -/
def ofLiteral : Kind → ValueType
  | .intLiteral => integer
  | .floatLiteral => float
  | .stringLiteral => string
  | .charLiteral => char
  | .trueWord | .falseWord => boolean
  | _ => unknown

/-- Something is known of the type. -/
def isKnown (type : ValueType) : Bool := type != unknown

/-- A value of type `source` may be stored where `target` is expected. -/
def accepts (target source : ValueType) : Bool :=
  target == source || (target == float && source == integer) || (target == string && source == char)

/-- Both types are known, and a value of type `source` may not be stored in `target`. -/
def clashes (target source : ValueType) : Bool :=
  target.isKnown && source.isKnown && !target.accepts source

end ValueType
end NovaLint
