import NovaLint.Check.Names
import NovaLint.Check.Walk

/-!
# The report on a program

The report lists the names of a program, what is wrong with it, and how its brackets and control
structures balance.  Findings come in five groups: names, the walk through the program, names that
were never declared, blocks that were never closed, and brackets.
-/

namespace NovaLint

/-- All that is said of a program. -/
structure Report where
  /-- Its names, in order of first sight. -/
  symbols : List Variable
  /-- What is wrong with it. -/
  findings : List Finding
  /-- The balance of each family of brackets. -/
  brackets : List Bracket.Balance
  /-- The balance of each kind of control structure. -/
  controls : List Control.Balance
  /-- The kinds of control structure that do not occur. -/
  unused : List Control
deriving DecidableEq, Repr

namespace Report

/-- Something is wrong. -/
def hasFindings (report : Report) : Bool := !report.findings.isEmpty

/-- The findings of one class. -/
def findingsOf (report : Report) (code : FindingCode) : List Finding :=
  report.findings.filter (·.code == code)

/-- The variable of a name. -/
def lookup? (report : Report) (name : String) : Option Variable :=
  report.symbols.find? (·.name == name)

/-- The names that were never declared, each at its first occurrence. -/
def undeclared (symbols : SymbolTable) : List Finding :=
  (symbols.entries.filter fun entry => !entry.declared).map fun entry =>
    (Cause.undeclaredUse entry.name).onLine entry.line

/-- The kinds of control structure with open blocks, each at its first occurrence. -/
def unclosed (tally : Control.Tally) : List Finding :=
  ((Control.all.map tally.balance).filter fun balance => !balance.isBalanced).map fun balance =>
    (Cause.unclosedControl balance.control balance.unclosed).onLine
      ((tally.count balance.control).firstLine?.getD 0)

/-- The families of brackets that do not balance; they belong to no line. -/
def unbalanced (balances : List Bracket.Balance) : List Finding :=
  (balances.filter fun balance => !balance.isBalanced).map fun balance =>
    (Cause.unbalancedBrackets balance).onLine 0

/-- Check a stream of tokens, in which names must start with `initial`. -/
def ofTokens (initial : Char) (tokens : List Token) : Report :=
  let sighted := Names.sightings tokens
  let walk := Walk.start (Names.table initial sighted)
  let sites := Site.all tokens
  let final := walk.run sites
  let brackets := Bracket.all.map (·.balance tokens)
  let controls := Control.all.map final.tally.balance
  { symbols := final.symbols.entries
    findings :=
      Names.findings initial sighted ++ walk.findings sites ++ undeclared final.symbols ++
        unclosed final.tally ++ unbalanced brackets
    brackets
    controls
    unused := (controls.filter fun balance => !balance.used).map (·.control) }

end Report
end NovaLint
