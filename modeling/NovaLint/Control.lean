import NovaLint.Token.Kind

/-!
# Control structures

A control structure is opened by its keyword and closed by a brace.  The tally counts the
occurrences of each kind and remembers the structures that are still open, the innermost first; a
closing brace closes the innermost one, whichever opening brace it belongs to.
-/

namespace NovaLint

/-- A kind of control structure. -/
inductive Control where
  /-- An `if`. -/
  | ifBlock
  /-- An `else` without a condition. -/
  | elseBlock
  /-- An `else if`. -/
  | elseIfBlock
  /-- A `for`. -/
  | forBlock
  /-- A `while`, also behind the block of a `do`. -/
  | whileBlock
  /-- A `do`. -/
  | doBlock
  /-- A `function`. -/
  | functionBlock
deriving DecidableEq, Repr

namespace Control

/-- All kinds, in the order of reports. -/
def all : List Control :=
  [ifBlock, elseBlock, elseIfBlock, forBlock, whileBlock, doBlock, functionBlock]

/-- The word for the kind. -/
def name : Control → String
  | ifBlock => "if"
  | elseBlock => "else"
  | elseIfBlock => "elseif"
  | forBlock => "for"
  | whileBlock => "while"
  | doBlock => "do"
  | functionBlock => "function"

/-- The structure that a keyword alone introduces. -/
def ofKeyword? : Kind → Option Control
  | .ifWord => ifBlock
  | .elseWord => elseBlock
  | .forWord => forBlock
  | .whileWord => whileBlock
  | .doWord => doBlock
  | .functionWord => functionBlock
  | _ => none

/-- The place of the kind in the order of reports. -/
def index : Control → Fin 7
  | ifBlock => 0
  | elseBlock => 1
  | elseIfBlock => 2
  | forBlock => 3
  | whileBlock => 4
  | doBlock => 5
  | functionBlock => 6

/-- What is counted of one kind. -/
structure Count where
  /-- How often the kind has occurred. -/
  occurrences : Nat
  /-- How many of its blocks are still open. -/
  outstanding : Nat
  /-- Line of the first occurrence. -/
  firstLine? : Option Nat
deriving DecidableEq, Repr, Inhabited

/-- The counts of all kinds and the structures that are still open. -/
structure Tally where
  /-- The count of each kind. -/
  counts : Vector Count 7
  /-- The open structures, the innermost first. -/
  openBlocks : List Control
  /-- The structure that the last closing brace closed, if it closed one. -/
  lastClosed? : Option Control
deriving DecidableEq, Repr

namespace Tally

/-- The tally before the first token. -/
def empty : Tally := ⟨Vector.replicate 7 ⟨0, 0, none⟩, [], none⟩

/-- The count of a kind. -/
def count (tally : Tally) (control : Control) : Count := tally.counts[control.index]

/-- Change the count of one kind. -/
def update (tally : Tally) (control : Control) (change : Count → Count) : Tally :=
  { tally with counts := tally.counts.set control.index (change (tally.count control)) }

/-- Count an occurrence that opens no block. -/
def mention (tally : Tally) (control : Control) (line : Nat) : Tally :=
  tally.update control fun count =>
    { count with
      occurrences := count.occurrences + 1
      firstLine? := count.firstLine? <|> some line }

/-- Count an occurrence whose block is to be closed by a brace. -/
def enter (tally : Tally) (control : Control) (line : Nat) : Tally :=
  let mentioned := (tally.mention control line).update control fun count =>
    { count with outstanding := count.outstanding + 1 }
  { mentioned with openBlocks := control :: tally.openBlocks }

/-- Close the innermost open structure.  If none is open, only that fact is noted. -/
def leave (tally : Tally) : Tally :=
  match tally.openBlocks with
  | [] => { tally with lastClosed? := none }
  | innermost :: outer =>
    let closed := tally.update innermost fun count =>
      { count with outstanding := count.outstanding - 1 }
    { closed with openBlocks := outer, lastClosed? := some innermost }

end Tally

/-- What a report says of one kind. -/
structure Balance where
  /-- The kind. -/
  control : Control
  /-- How often it occurs. -/
  occurrences : Nat
  /-- How many of its blocks are never closed. -/
  unclosed : Nat
  /-- It occurs at all. -/
  used : Bool
deriving DecidableEq, Repr

/-- How many blocks of the kind are closed. -/
def Balance.closed (balance : Balance) : Nat := balance.occurrences - balance.unclosed

/-- Every block of the kind is closed. -/
def Balance.isBalanced (balance : Balance) : Bool := balance.unclosed == 0

/-- What a tally says of a kind. -/
def Tally.balance (tally : Tally) (control : Control) : Balance :=
  let count := tally.count control
  { control
    occurrences := count.occurrences
    unclosed := count.outstanding
    used := count.occurrences != 0 }

end Control
end NovaLint
