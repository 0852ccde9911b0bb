import NovaLint.TokenLines
import NovaLint.Statement.Shape

/-!
# Verdicts on lines

A line is valid if its first tokens can start a statement, or if the whole line has a shape of the
catalog.  Nothing behind the first two tokens is looked at in the first case, so a line with a
broken condition is still valid.
-/

namespace NovaLint

/-- What is said of one line. -/
structure Verdict where
  /-- Number of the line. -/
  line : Nat
  /-- The line is accepted. -/
  valid : Bool
  /-- What is wrong with it. -/
  message? : Option String
deriving DecidableEq, Repr

namespace Verdict

/-- Said of a line that is no statement. -/
def unrecognizedStructure : String := "unrecognized structure"

/-- Tokens that start a statement whatever follows them. -/
def startsAlone : Kind → Bool
  | .outputWord | .ifWord | .elseWord | .forWord | .whileWord | .doWord | .functionWord
  | .returnWord | .leftBrace | .rightBrace => true
  | _ => false

/-- Two tokens that start a declaration or an assignment. -/
def startTogether (first second : Kind) : Bool :=
  (first.isType && second == .identifier) || (first == .identifier && second == .assign)

/-- The first tokens of the line can start a statement. -/
def startsStatement : List Kind → Bool
  | [] => false
  | [first] => startsAlone first
  | first :: second :: _ => startsAlone first || startTogether first second

/-- The verdict on an accepted line. -/
def accepted (line : Nat) : Verdict := ⟨line, true, none⟩

/-- The verdict on a line with a fault. -/
def rejected (line : Nat) (message : String) : Verdict := ⟨line, false, some message⟩

/-- The verdict on tokens that are taken for one line, numbered like the first of them. -/
def ofTokens (tokens : List Token) : Verdict :=
  let line := (tokens.head?.map (·.line)).getD 0
  let kinds := tokens.map (·.kind)
  if startsStatement kinds || (Shape.find? kinds).isSome then accepted line
  else rejected line unrecognizedStructure

end Verdict

/-- The verdicts on all lines of a group, in ascending order of the lines. -/
def TokenLines.verdicts (group : TokenLines) : List Verdict :=
  group.entries.map fun entry => { Verdict.ofTokens entry.tokens with line := entry.line }

end NovaLint
