import NovaLint.ValueType
import NovaLint.Token.Basic

/-!
# Symbol tables

A table keeps one variable for each name, in the order in which the names were first seen, and an
index that leads from a name to the place of its variable.  A new variable enters both at once and
no operation renames a variable, so the index stays in step with the variables: the names are
distinct, and a look-up finds the only variable of its name.
-/

namespace NovaLint

/-- What is known of a name. -/
structure Variable where
  /-- The name. -/
  name : String
  /-- Its declared type. -/
  type : ValueType
  /-- Text of the value that was last stored. -/
  value? : Option String
  /-- Line of its first occurrence. -/
  line : Nat
  /-- A declaration was seen. -/
  declared : Bool
  /-- The name starts as names must. -/
  wellNamed : Bool
deriving DecidableEq, Repr, Inhabited

/-- A variable of which only the name has been seen. -/
def Variable.sighted (name : String) (line : Nat) (wellNamed : Bool) : Variable :=
  { name, type := .unknown, value? := none, line, declared := false, wellNamed }

/-- Change what is known of a variable, but not its name. -/
def Variable.update (entry : Variable) (change : Variable → Variable) : Variable :=
  { change entry with name := entry.name }

@[simp]
theorem Variable.name_update (entry : Variable) (change : Variable → Variable) :
    (entry.update change).name = entry.name := rfl

/-- A change that does not rename the variable is made as it is. -/
theorem Variable.update_of_name_eq {entry : Variable} {change : Variable → Variable}
    (same : (change entry).name = entry.name) : entry.update change = change entry := by
  rw [update, ← same]

/-- An index leads from a name to the place of the variable that has it, and from no other name
anywhere. -/
def SymbolTable.InStep (index : List (String × Nat)) (entries : List Variable) : Prop :=
  ∀ name place, index.lookup name = some place ↔ entries[place]?.map (·.name) = some name

/-- Variables by name, in order of first sight. -/
structure SymbolTable where
  /-- The variables. -/
  entries : List Variable
  /-- The place of each name among them. -/
  index : List (String × Nat)
  /-- The index tells where the variables stand. -/
  inStep : SymbolTable.InStep index entries
deriving DecidableEq

namespace SymbolTable

/-- A variable with a new name enters the index with its place. -/
theorem InStep.push {index : List (String × Nat)} {entries : List Variable}
    (inStep : InStep index entries) {entry : Variable} (free : index.lookup entry.name = none) :
    InStep ((entry.name, entries.length) :: index) (entries ++ [entry]) := by
  intro name place
  have unused : entries[place]?.map (·.name) ≠ some entry.name := fun used =>
    Option.some_ne_none place (((inStep ..).mpr used).symm.trans free)
  rw [List.getElem?_append]
  by_cases same : name = entry.name
  · subst same
    rw [List.lookup_cons_self]
    grind
  · rw [List.lookup_cons, beq_false_of_ne same]
    grind [inStep name place]

/-- A change that renames no variable leaves all names where they are. -/
theorem InStep.modify {index : List (String × Nat)} {entries : List Variable}
    (inStep : InStep index entries) (place : Nat) (change : Variable → Variable) :
    InStep index (entries.modify place (·.update change)) := by
  intro name behind
  have same_name : ((fun entry : Variable => entry.name) ∘ fun entry =>
      if place = behind then entry.update change else entry) = (·.name) := by
    funext entry
    by_cases here : place = behind <;> simp [here]
  rw [inStep, List.getElem?_modify, Option.map_eq_map, Option.map_map, same_name]

/-- The table without variables. -/
def empty : SymbolTable where
  entries := []
  index := []
  inStep := fun _ _ => by simp

/-- Number of variables. -/
def size (table : SymbolTable) : Nat := table.entries.length

/-- There is no variable. -/
def isEmpty (table : SymbolTable) : Bool := table.entries.isEmpty

/-- The names in order of first sight. -/
def names (table : SymbolTable) : List String := table.entries.map (·.name)

/-- The place of a name in the order of first sight. -/
def index? (table : SymbolTable) (name : String) : Option Nat := table.index.lookup name

/-- The variable of a name. -/
def lookup? (table : SymbolTable) (name : String) : Option Variable :=
  (table.index? name).bind fun place => table.entries[place]?

/-- Add a variable behind the others, unless its name is taken.  The answer tells whether it was
added. -/
def insert (table : SymbolTable) (entry : Variable) : Bool × SymbolTable :=
  if free : table.index? entry.name = none then
    (true,
      { entries := table.entries ++ [entry]
        index := (entry.name, table.entries.length) :: table.index
        inStep := table.inStep.push free })
  else (false, table)

/-- Change what is known of a name, but not the name. -/
def modify (table : SymbolTable) (name : String) (change : Variable → Variable) : SymbolTable :=
  match table.index? name with
  | some place =>
    { table with
      entries := table.entries.modify place (·.update change)
      inStep := table.inStep.modify place change }
  | none => table

/-- Record a declaration of a name. -/
def declare (table : SymbolTable) (name : String) (type : ValueType) : SymbolTable :=
  table.modify name fun entry => { entry with declared := true, type }

/-- Record the text of a value that was stored under a name. -/
def assign (table : SymbolTable) (name value : String) : SymbolTable :=
  table.modify name fun entry => { entry with value? := some value }

/-- The declared type of a name; unknown names and undeclared ones have an unknown type. -/
def typeOf (table : SymbolTable) (name : String) : ValueType :=
  ((table.lookup? name).map (·.type)).getD .unknown

/-- The type of the value that a single token stands for. -/
def typeOfToken (table : SymbolTable) (token : Token) : ValueType :=
  if token.kind = .identifier then table.typeOf token.text else .ofLiteral token.kind

end SymbolTable
end NovaLint
