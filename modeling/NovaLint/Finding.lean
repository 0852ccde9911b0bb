import NovaLint.Bracket
import NovaLint.Control
import NovaLint.ValueType

/-!
# Findings

A finding says what is wrong with a program and on which line.  Its cause fixes its code, its
wording and the name it is about, if it is about one.  Line zero stands for the program as a whole.
-/

namespace NovaLint

/-- The class of a finding. -/
inductive FindingCode where
  /-- A name starts with the wrong character. -/
  | invalidName
  /-- A name is declared again. -/
  | redeclaration
  /-- A name is never declared. -/
  | undeclaredUse
  /-- A value of the wrong type is stored. -/
  | incompatibleAssignment
  /-- A value of the wrong type is returned. -/
  | incompatibleReturn
  /-- The operands of an operator do not fit. -/
  | incompatibleOperands
  /-- An operator does not belong to the language. -/
  | unsupportedOperator
  /-- The header of a structure lacks a parenthesis. -/
  | incompleteControlStructure
  /-- The header of a `for` lacks a separator. -/
  | incompleteForStructure
  /-- A block is never closed. -/
  | unclosedControlStructure
  /-- Brackets are opened and closed unequally often. -/
  | unbalancedSymbols
deriving DecidableEq, Repr

namespace FindingCode

/-- All classes. -/
def all : List FindingCode :=
  [invalidName, redeclaration, undeclaredUse, incompatibleAssignment, incompatibleReturn,
    incompatibleOperands, unsupportedOperator, incompleteControlStructure, incompleteForStructure,
    unclosedControlStructure, unbalancedSymbols]

/-- The word for the class in output. -/
def name : FindingCode → String
  | invalidName => "invalid-name"
  | redeclaration => "redeclaration"
  | undeclaredUse => "undeclared-use"
  | incompatibleAssignment => "incompatible-assignment"
  | incompatibleReturn => "incompatible-return"
  | incompatibleOperands => "incompatible-operands"
  | unsupportedOperator => "unsupported-operator"
  | incompleteControlStructure => "incomplete-control-structure"
  | incompleteForStructure => "incomplete-for-structure"
  | unclosedControlStructure => "unclosed-control-structure"
  | unbalancedSymbols => "unbalanced-symbols"

end FindingCode

/-- One thing that is wrong with a program. -/
structure Finding where
  /-- Its class. -/
  code : FindingCode
  /-- The line at fault, or zero. -/
  line : Nat
  /-- What is wrong, in words. -/
  message : String
  /-- The name it is about. -/
  subject? : Option String
deriving DecidableEq, Repr

/-- The finding as a line of text. -/
def Finding.text (finding : Finding) : String :=
  s!"line {finding.line}: [{finding.code.name}] {finding.message}"

/-- What can be wrong with a program. -/
inductive Cause where
  /-- A name does not start with the required character. -/
  | invalidName (name : String) (initial : Char)
  /-- A declared name is declared again. -/
  | redeclaration (name : String)
  /-- A name is used and never declared. -/
  | undeclaredUse (name : String)
  /-- A value of one type is stored in a variable of another. -/
  | incompatibleAssignment (name : String) (declared assigned : ValueType)
  /-- A function returns a value of the wrong type. -/
  | incompatibleReturn (function : String) (expected returned : ValueType)
  /-- The right operand does not fit the left one. -/
  | incompatibleOperands (left : ValueType) (operator : String) (right : ValueType)
  /-- The operator does not belong to the language. -/
  | unsupportedOperator (operator : String)
  /-- The keyword is not followed by an opening parenthesis. -/
  | missingOpening (keyword : String)
  /-- The condition is not closed on the line of the keyword. -/
  | missingClosing (keyword : String)
  /-- The header of a `for` has fewer than two separators. -/
  | missingSeparators
  /-- Some blocks of a kind are never closed. -/
  | unclosedControl (control : Control) (count : Nat)
  /-- The brackets of a family do not balance. -/
  | unbalancedBrackets (balance : Bracket.Balance)
deriving DecidableEq, Repr

namespace Cause

/-- The class of a cause. -/
def code : Cause → FindingCode
  | invalidName .. => .invalidName
  | redeclaration .. => .redeclaration
  | undeclaredUse .. => .undeclaredUse
  | incompatibleAssignment .. => .incompatibleAssignment
  | incompatibleReturn .. => .incompatibleReturn
  | incompatibleOperands .. => .incompatibleOperands
  | unsupportedOperator .. => .unsupportedOperator
  | missingOpening .. | missingClosing .. => .incompleteControlStructure
  | missingSeparators => .incompleteForStructure
  | unclosedControl .. => .unclosedControlStructure
  | unbalancedBrackets .. => .unbalancedSymbols

/-- The wording of a cause. -/
def message : Cause → String
  | invalidName name initial =>
    s!"invalid variable name \"{name}\": must start with '{initial}'"
  | redeclaration name => s!"variable \"{name}\" has already been declared"
  | undeclaredUse name => s!"variable \"{name}\" used without declaration"
  | incompatibleAssignment name declared assigned =>
    s!"incompatible types: variable \"{name}\" is {declared.name} " ++
      s!"but is assigned a {assigned.name} value"
  | incompatibleReturn function expected returned =>
    s!"incompatible return type: function \"{function}\" expects {expected.name} " ++
      s!"but returns {returned.name}"
  | incompatibleOperands left operator right =>
    s!"incompatible operand types: {left.name} {operator} {right.name}"
  | unsupportedOperator operator => s!"operator \"{operator}\" is not supported"
  | missingOpening keyword =>
    s!"incomplete {keyword} structure: missing opening parenthesis for the condition"
  | missingClosing keyword =>
    s!"incomplete {keyword} structure: missing closing parenthesis for the condition"
  | missingSeparators =>
    "incomplete for structure: initialization, condition and increment must be separated by ';'"
  | unclosedControl control count => s!"unclosed {control.name} structure ({count} unclosed)"
  | unbalancedBrackets balance =>
    s!"unbalanced {balance.bracket.plural}: {balance.opened} opened, {balance.closed} closed"

/-- The name that a cause is about. -/
def subject? : Cause → Option String
  | invalidName name _ | redeclaration name | undeclaredUse name
  | incompatibleAssignment name _ _ => some name
  | _ => none

/-- The finding that a cause gives on a line. -/
def onLine (cause : Cause) (line : Nat) : Finding :=
  { code := cause.code, line, message := cause.message, subject? := cause.subject? }

end Cause
end NovaLint
