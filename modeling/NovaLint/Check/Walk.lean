import NovaLint.Check.Scope
import NovaLint.Finding
import NovaLint.SymbolTable

/-!
# Walking through a program

The checks go through a program from its first token to its last.  What has been learned on the way
is the state of the walk.  At each place `Walk.findingsAt` says what is wrong there and `Walk.step`
what is known behind it; neither looks back further than the state does.
-/

namespace NovaLint

/-- What is known on the way through a program. -/
structure Walk where
  /-- The names of the program, with what has been declared and stored so far. -/
  symbols : SymbolTable
  /-- Names and lines of the clashing assignments that were reported. -/
  clashes : List (String × Nat)
  /-- Spellings and lines of the unsupported operators that were reported. -/
  refused : List (String × Nat)
  /-- The braces and the function around the place. -/
  scope : Scope
  /-- The control structures that have occurred. -/
  tally : Control.Tally
deriving DecidableEq

namespace Walk

/-- Before the first token of a program with the given names. -/
def start (symbols : SymbolTable) : Walk :=
  { symbols, clashes := [], refused := [], scope := .outermost, tally := .empty }

/-- The declared type of the name at this place and the value assigned to it, if the name was
declared and is assigned a value here. -/
def assignment? (walk : Walk) (site : Site) : Option (ValueType × Token) := do
  let value ← site.assignedValue?
  let target ← walk.symbols.lookup? site.token.text
  if target.declared then some (target.type, value) else none

/-- The types of the variable and of the value, if they clash in an assignment here. -/
def clash? (walk : Walk) (site : Site) : Option (ValueType × ValueType) := do
  let (declared, value) ← walk.assignment? site
  let assigned := walk.symbols.typeOfToken value
  if declared.clashes assigned then some (declared, assigned) else none

/-- The text and the line of the token, by which repeated findings are known. -/
def key (site : Site) : String × Nat := (site.token.text, site.token.line)

/-- A name is declared a second time. -/
def redeclarations (walk : Walk) (site : Site) : List Finding :=
  match site.declaration? with
  | some (name, _) =>
    match walk.symbols.lookup? name.text with
    | some entry =>
      if entry.declared then [(Cause.redeclaration name.text).onLine site.token.line] else []
    | none => []
  | none => []

/-- A value of the wrong type is assigned, reported once for each name and line. -/
def clashFindings (walk : Walk) (site : Site) : List Finding :=
  match walk.clash? site with
  | some (declared, assigned) =>
    if key site ∈ walk.clashes then []
    else
      [(Cause.incompatibleAssignment site.token.text declared assigned).onLine site.token.line]
  | none => []

/-- A value of the wrong type is returned. -/
def returnFindings (walk : Walk) (site : Site) : List Finding :=
  match walk.scope.function?, site.returnedValue? with
  | some function, some value =>
    let returned := walk.symbols.typeOfToken value
    if function.returns.clashes returned then
      [(Cause.incompatibleReturn function.name function.returns returned).onLine site.token.line]
    else []
  | _, _ => []

/-- An operator does not belong to the language, reported once for each spelling and line. -/
def operatorFindings (walk : Walk) (site : Site) : List Finding :=
  if site.kind.isUnsupported ∧ key site ∉ walk.refused then
    [(Cause.unsupportedOperator site.token.text).onLine site.token.line]
  else []

/-- The operands of an operator do not fit; the left one says what is expected of the right one. -/
def operandFindings (walk : Walk) (site : Site) : List Finding :=
  match site.operands? with
  | some (left, right) =>
    let expected := walk.symbols.typeOfToken left
    let given := walk.symbols.typeOfToken right
    if expected.clashes given then
      [(Cause.incompatibleOperands expected site.token.text given).onLine site.token.line]
    else []
  | none => []

/-- The condition of a structure is not between parentheses on the line of its keyword. -/
def conditionFindings (site : Site) : List Finding :=
  if !site.needsCondition then []
  else if !site.nextIs .leftParen then
    [(Cause.missingOpening site.token.text).onLine site.token.line]
  else if !site.restOfLine.any (·.kind == .rightParen) then
    [(Cause.missingClosing site.token.text).onLine site.token.line]
  else []

/-- The header of a `for` does not have its three parts. -/
def separatorFindings (site : Site) : List Finding :=
  if site.kind = .forWord ∧ site.separators < 2 then
    [Cause.missingSeparators.onLine site.token.line]
  else []

/-- All that is wrong at a place. -/
def findingsAt (walk : Walk) (site : Site) : List Finding :=
  walk.redeclarations site ++ walk.clashFindings site ++ walk.returnFindings site ++
    walk.operatorFindings site ++ walk.operandFindings site ++
    conditionFindings site ++ separatorFindings site

/-- The names behind a place.  The first declaration of a name fixes its type, and only a value that
does not clash is stored. -/
def symbolsBehind (walk : Walk) (site : Site) : SymbolTable :=
  match site.declaration? with
  | some (name, type) =>
    match walk.symbols.lookup? name.text with
    | some entry => if entry.declared then walk.symbols else walk.symbols.declare name.text type
    | none => walk.symbols
  | none =>
    match walk.assignment? site, walk.clash? site with
    | some (_, value), none => walk.symbols.assign site.token.text value.text
    | _, _ => walk.symbols

/-- The control structures behind a place. -/
def tallyBehind (walk : Walk) (site : Site) : Control.Tally :=
  if site.kind = .rightBrace then walk.tally.leave
  else
    match site.occurrence? walk.tally.lastClosed? with
    | some (.opens control) => walk.tally.enter control site.token.line
    | some (.ends control) => walk.tally.mention control site.token.line
    | none => walk.tally

/-- What is known behind a place. -/
def step (walk : Walk) (site : Site) : Walk :=
  { symbols := walk.symbolsBehind site
    clashes := if (walk.clash? site).isSome then key site :: walk.clashes else walk.clashes
    refused := if site.kind.isUnsupported then key site :: walk.refused else walk.refused
    scope := walk.scope.step site
    tally := walk.tallyBehind site }

/-- What is known behind several places. -/
def run (walk : Walk) (sites : List Site) : Walk := sites.foldl step walk

/-- All that is wrong at several places, in order. -/
def findings : Walk → List Site → List Finding
  | _, [] => []
  | walk, site :: later => walk.findingsAt site ++ (walk.step site).findings later

@[simp]
theorem run_nil (walk : Walk) : walk.run [] = walk := rfl

@[simp]
theorem run_cons (walk : Walk) (site : Site) (later : List Site) :
    walk.run (site :: later) = (walk.step site).run later := rfl

theorem run_append (walk : Walk) (front back : List Site) :
    walk.run (front ++ back) = (walk.run front).run back :=
  List.foldl_append

theorem findings_append (walk : Walk) (front back : List Site) :
    walk.findings (front ++ back) = walk.findings front ++ (walk.run front).findings back := by
  induction front generalizing walk with
  | nil => rfl
  | cons site front ih => simp [findings, ih]

end Walk
end NovaLint
