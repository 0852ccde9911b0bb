import NovaLint.Check.Site

/-!
# Functions and the depth of braces

A function lasts from its header to the brace that brings the depth back to where the header stood.
The depth never falls below zero: a brace that closes nothing leaves it there.
-/

namespace NovaLint

/-- A function whose body is being read. -/
structure Scope.Function where
  /-- Its name. -/
  name : String
  /-- The type of the values it returns. -/
  returns : ValueType
  /-- Depth of braces at its header. -/
  depth : Nat
deriving DecidableEq, Repr

/-- Where a place stands among the braces and functions of a program. -/
structure Scope where
  /-- Number of braces that are open. -/
  depth : Nat
  /-- The function around the place, the last whose header was read and which has not ended. -/
  function? : Option Scope.Function
deriving DecidableEq, Repr

namespace Scope

/-- Outside all braces and functions. -/
def outermost : Scope := ⟨0, none⟩

/-- Pass an opening brace. -/
def enter (scope : Scope) : Scope := { scope with depth := scope.depth + 1 }

/-- Pass a closing brace. -/
def leave (scope : Scope) : Scope :=
  let depth := scope.depth - 1
  { depth, function? := scope.function?.filter (·.depth != depth) }

/-- The scope behind a place. -/
def step (scope : Scope) (site : Site) : Scope :=
  match site.kind with
  | .leftBrace => scope.enter
  | .rightBrace => scope.leave
  | _ =>
    match site.header? with
    | some (name, returns) => { scope with function? := some ⟨name, returns, scope.depth⟩ }
    | none => scope

end Scope
end NovaLint
