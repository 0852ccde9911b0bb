import NovaLint.Check.Site
import NovaLint.Finding
import NovaLint.SymbolTable

/-!
# Names of a program

All names are collected before anything else is checked.  A name must start with a given character;
it is reported once for each line on which it breaks that rule.
-/

namespace NovaLint
namespace Names

/-- All sightings of names in a stream.  A name in a condition is sighted from the keyword and again
at its own place. -/
def sightings (tokens : List Token) : List Token :=
  (Site.all tokens).flatMap Site.sightings

/-- The name starts with the required character. -/
def isWellNamed (initial : Char) (name : String) : Bool :=
  name.toList.head? == some initial

/-- The variable that a sighting introduces. -/
def variableOf (initial : Char) (sighting : Token) : Variable :=
  .sighted sighting.text sighting.line (isWellNamed initial sighting.text)

/-- The table of all sighted names. -/
def table (initial : Char) (sighted : List Token) : SymbolTable :=
  sighted.foldl (fun table sighting => (table.insert (variableOf initial sighting)).2) .empty

/-- A finding for each name and line that breaks the rule on names, in the order of sighting. -/
def findings (initial : Char) (sighted : List Token) : List Finding :=
  let offenders := sighted.filter fun sighting => !isWellNamed initial sighting.text
  let places := (offenders.map fun sighting => (sighting.text, sighting.line)).eraseDups
  places.map fun (name, line) => (Cause.invalidName name initial).onLine line

end Names
end NovaLint
