import NovaLint.Control
import NovaLint.ValueType
import NovaLint.Token.Basic

/-!
# Places in a stream of tokens

The checks look at one token at a time, together with its neighbours and with all that follows.
This module finds the constructs of the language at such a place: declarations, assignments,
operations, headers of structures and of functions, and occurrences of control structures.
-/

namespace NovaLint

/-- A token of a stream and what stands around it. -/
structure Site where
  /-- The token right before. -/
  previous? : Option Token
  /-- The token itself. -/
  token : Token
  /-- All tokens behind it. -/
  rest : List Token
deriving DecidableEq, Repr

namespace Site

/-- The places of a stream that stands behind a given token. -/
def allAfter (previous? : Option Token) : List Token → List Site
  | [] => []
  | token :: rest => ⟨previous?, token, rest⟩ :: allAfter (some token) rest

/-- The places of a whole stream, in order. -/
def all (tokens : List Token) : List Site := allAfter none tokens

/-- The kind of the token. -/
def kind (site : Site) : Kind := site.token.kind

/-- The token right behind. -/
def next? (site : Site) : Option Token := site.rest.head?

/-- The next token is of a kind. -/
def nextIs (site : Site) (kind : Kind) : Bool := site.next?.any (·.kind == kind)

/-- The token before is of a kind. -/
def previousIs (site : Site) (kind : Kind) : Bool := site.previous?.any (·.kind == kind)

/-- The tokens behind an opening parenthesis and before the next closing one, or behind it up to the
end of the stream. -/
def parenthesized : List Token → List Token
  | [] => []
  | first :: inner =>
    if first.kind = .leftParen then inner.takeWhile (·.kind != .rightParen) else []

/-- The tokens of the condition that a keyword introduces. -/
def condition (site : Site) : List Token :=
  match site.kind with
  | .ifWord | .whileWord | .forWord => parenthesized site.rest
  | .elseWord => if site.nextIs .ifWord then parenthesized (site.rest.drop 1) else []
  | _ => []

/-- The names that come into sight here: the token itself, if it is a name, and the names in the
condition that it introduces. -/
def sightings (site : Site) : List Token :=
  (site.token :: site.condition).filter (·.kind == .identifier)

/-- The name that is declared here and its type: a type name is followed by a name. -/
def declaration? (site : Site) : Option (Token × ValueType) := do
  let type ← ValueType.ofTypeName? site.kind
  let name ← site.next?
  if name.kind = .identifier then some (name, type) else none

/-- The first token of the value that is assigned here: a name is followed by the assignment sign
and by the value. -/
def assignedValue? (site : Site) : Option Token :=
  if site.kind = .identifier ∧ site.nextIs .assign then site.rest[1]? else none

/-- The operands of the arithmetic operator that stands here. -/
def operands? (site : Site) : Option (Token × Token) :=
  if site.kind.isArithmetic then
    match site.previous?, site.next? with
    | some left, some right => some (left, right)
    | _, _ => none
  else none

/-- The first token of the value that is returned here. -/
def returnedValue? (site : Site) : Option Token :=
  if site.kind = .returnWord then site.next? else none

/-- The name and the return type of the function whose header begins here. -/
def header? (site : Site) : Option (String × ValueType) :=
  match site.kind, site.rest with
  | .functionWord, returns :: name :: _ => do
    let type ← ValueType.ofTypeName? returns.kind
    if name.kind = .identifier then some (name.text, type) else none
  | _, _ => none

/-- The keyword must be followed by a condition between parentheses. -/
def needsCondition (site : Site) : Bool :=
  site.kind == .ifWord || site.kind == .whileWord || site.kind == .forWord

/-- What stands on the line of the token, from the second token behind it on. -/
def restOfLine (site : Site) : List Token :=
  (site.rest.drop 1).takeWhile (·.line == site.token.line)

/-- Number of separators before the first closing parenthesis on the line. -/
def separators (site : Site) : Nat :=
  (site.restOfLine.takeWhile (·.kind != .rightParen)).countP (·.kind == .semicolon)

/-- How a keyword takes part in the balance of control structures. -/
inductive Occurrence where
  /-- It opens a block. -/
  | opens (control : Control)
  /-- It ends the structure whose block was just closed, and opens none. -/
  | ends (control : Control)
deriving DecidableEq, Repr

/-- The control structure that occurs here.  The `if` of an `else if` is counted with its `else`,
and a `while` behind the block of a `do` ends that structure. -/
def occurrence? (site : Site) (lastClosed? : Option Control) : Option Occurrence :=
  match site.kind with
  | .elseWord => some (.opens (if site.nextIs .ifWord then .elseIfBlock else .elseBlock))
  | .ifWord => if site.previousIs .elseWord then none else some (.opens .ifBlock)
  | .whileWord =>
    if site.previousIs .rightBrace ∧ lastClosed? = some .doBlock then some (.ends .whileBlock)
    else some (.opens .whileBlock)
  | kind => (Control.ofKeyword? kind).map .opens

end Site
end NovaLint
