import NovaLint.Proofs.Check.Declarations
import NovaLint.Proofs.Control.Occurrences
import Mathlib.Data.List.Forall2

/-!
# Walks that see the same

What is found at a place depends on its token, on a few tokens around it, and on what the walk has
learned of the names among them.  `Site.Similar` lists all that the checks see of the tokens at a
place, `Walk.Similar` all that they see of a walk.  Two walks that see the same at each place report
the same and learn the same, although the tables, the reported keys and the tokens out of sight may
differ.

The tokens of the two sides may be written differently, as long as what differs on one side differs
on the other: this is what a `Recasting` says.
-/

namespace NovaLint

/-- How the texts, lines and spans of tokens are written in another program. -/
structure Recasting where
  /-- The text that stands for a text. -/
  text : String → String
  /-- The line that stands for a line. -/
  line : Nat → Nat
  /-- The span that stands for a span. -/
  span : Text.Span → Text.Span

/-- Everything is written as it is. -/
def Recasting.same : Recasting := ⟨id, id, id⟩

/-- The token as it is written in the other program. -/
def Token.recast (recasting : Recasting) (token : Token) : Token :=
  { token with
    text := recasting.text token.text
    line := recasting.line token.line
    span := recasting.span token.span }

/-- The text and the line of a token, by which repeated findings are known. -/
def Token.key (token : Token) : String × Nat := (token.text, token.line)

@[simp]
theorem Token.kind_recast (recasting : Recasting) (token : Token) :
    (token.recast recasting).kind = token.kind := rfl

@[simp]
theorem Token.text_recast (recasting : Recasting) (token : Token) :
    (token.recast recasting).text = recasting.text token.text := rfl

@[simp]
theorem Token.line_recast (recasting : Recasting) (token : Token) :
    (token.recast recasting).line = recasting.line token.line := rfl

@[simp]
theorem Token.recast_same (token : Token) : token.recast .same = token := rfl

theorem Walk.key_eq (site : Site) : key site = site.token.key := rfl

/-- Names and lines of a stream that differ are written differently.  A name may be written as
another token is. -/
structure Recasting.Faithful (recasting : Recasting) (tokens : List Token) : Prop where
  /-- Two names, or two other tokens, are written alike only if they are alike. -/
  text_inj : ∀ token ∈ tokens, ∀ other ∈ tokens,
    (token.kind = .identifier ↔ other.kind = .identifier) →
      recasting.text token.text = recasting.text other.text → token.text = other.text
  /-- Two lines are written alike only if they are the same. -/
  line_inj : ∀ token ∈ tokens, ∀ other ∈ tokens,
    recasting.line token.line = recasting.line other.line → token.line = other.line

namespace Recasting.Faithful

variable {recasting : Recasting} {tokens : List Token}

theorem same (tokens : List Token) : Recasting.same.Faithful tokens :=
  ⟨fun _ _ _ _ _ => id, fun _ _ _ _ => id⟩

theorem text_eq_iff (faithful : recasting.Faithful tokens) {token other : Token}
    (member : token ∈ tokens) (other_member : other ∈ tokens)
    (alike : token.kind = .identifier ↔ other.kind = .identifier) :
    recasting.text token.text = recasting.text other.text ↔ token.text = other.text :=
  ⟨faithful.text_inj token member other other_member alike, congrArg recasting.text⟩

theorem line_eq_iff (faithful : recasting.Faithful tokens) {token other : Token}
    (member : token ∈ tokens) (other_member : other ∈ tokens) :
    recasting.line token.line = recasting.line other.line ↔ token.line = other.line :=
  ⟨faithful.line_inj token member other other_member, congrArg recasting.line⟩

theorem key_eq_iff (faithful : recasting.Faithful tokens) {token other : Token}
    (member : token ∈ tokens) (other_member : other ∈ tokens)
    (alike : token.kind = .identifier ↔ other.kind = .identifier) :
    (token.recast recasting).key = (other.recast recasting).key ↔ token.key = other.key := by
  simp only [Token.key, Token.text_recast, Token.line_recast, Prod.mk.injEq,
    faithful.text_eq_iff member other_member alike, faithful.line_eq_iff member other_member]

end Recasting.Faithful

/-- The cause of a finding as it is written in the other program. -/
def Cause.recast (recasting : Recasting) : Cause → Cause
  | invalidName name initial => invalidName (recasting.text name) initial
  | redeclaration name => redeclaration (recasting.text name)
  | undeclaredUse name => undeclaredUse (recasting.text name)
  | incompatibleAssignment name declared assigned =>
    incompatibleAssignment (recasting.text name) declared assigned
  | incompatibleReturn function expected returned =>
    incompatibleReturn (recasting.text function) expected returned
  | incompatibleOperands left operator right =>
    incompatibleOperands left (recasting.text operator) right
  | unsupportedOperator operator => unsupportedOperator (recasting.text operator)
  | missingOpening keyword => missingOpening (recasting.text keyword)
  | missingClosing keyword => missingClosing (recasting.text keyword)
  | missingSeparators => missingSeparators
  | unclosedControl control count => unclosedControl control count
  | unbalancedBrackets balance => unbalancedBrackets balance

theorem Cause.recast_of_text {recasting : Recasting} (same : recasting.text = id) (cause : Cause) :
    cause.recast recasting = cause := by
  cases cause <;> simp [recast, same]

theorem Cause.code_recast (recasting : Recasting) (cause : Cause) :
    (cause.recast recasting).code = cause.code := by
  cases cause <;> rfl

/-- Two findings have one cause, written in two ways. -/
def Finding.Recast (recasting : Recasting) (finding other : Finding) : Prop :=
  ∃ (cause : Cause) (line : Nat), finding = cause.onLine line ∧
    other = (cause.recast recasting).onLine (recasting.line line)

theorem Finding.Recast.eq_of_same {finding other : Finding} (recast : Recast .same finding other) :
    other = finding := by
  obtain ⟨cause, line, rfl, rfl⟩ := recast
  rw [Cause.recast_of_text rfl]
  rfl

theorem Finding.eq_of_forall₂_recast_same {group group' : List Finding}
    (recast : List.Forall₂ (Recast .same) group group') : group' = group := by
  have equal : List.Forall₂ (· = ·) group group' :=
    recast.imp fun _ _ here => here.eq_of_same.symm
  rw [List.forall₂_eq_eq_eq] at equal
  exact equal.symm

/-- What is learned of a variable on the way through a program. -/
structure Variable.Learned where
  /-- Its declared type. -/
  type : ValueType
  /-- Text of the value that was last stored. -/
  value? : Option String
  /-- A declaration was seen. -/
  declared : Bool
deriving DecidableEq

/-- What is learned, as it is written in the other program. -/
def Variable.Learned.recast (recasting : Recasting) (learned : Learned) : Learned :=
  { learned with value? := learned.value?.map recasting.text }

@[simp]
theorem Variable.Learned.recast_same (learned : Learned) : learned.recast .same = learned := by
  simp [recast, Recasting.same]

/-- All that is known of a variable beyond its first sight. -/
def Variable.learned (entry : Variable) : Learned := ⟨entry.type, entry.value?, entry.declared⟩

/-- A variable is its first sight and what was learned of it. -/
theorem Variable.eq_of_firstSight_of_learned {entry other : Variable}
    (sight : entry.firstSight = other.firstSight) (learned : entry.learned = other.learned) :
    entry = other := by
  obtain ⟨name, type, value?, line, declared, wellNamed⟩ := entry
  obtain ⟨name', type', value'?, line', declared', wellNamed'⟩ := other
  simp_all [firstSight, sighted, Variable.learned]

namespace SymbolTable

/-- The variables of a table are told by their first sights and by what was learned of each name. -/
theorem entries_eq_of_learned {table : SymbolTable} {entries : List Variable}
    (sights : table.entries.map (·.firstSight) = entries.map (·.firstSight))
    (learned : ∀ entry ∈ entries,
      (table.lookup? entry.name).map (·.learned) = some entry.learned) :
    table.entries = entries := by
  have lengths := congrArg List.length sights
  rw [List.length_map, List.length_map] at lengths
  refine List.ext_getElem lengths fun place within within' => ?_
  have sight : table.entries[place].firstSight = entries[place].firstSight := by
    have here := congrArg (·[place]?) sights
    simpa [List.getElem?_map, within, within'] using here
  have name_eq := congrArg Variable.name sight
  change table.entries[place].name = entries[place].name at name_eq
  have known := learned entries[place] (List.getElem_mem within')
  rw [← name_eq, lookup?_of_mem (List.getElem_mem within), Option.map_some] at known
  exact Variable.eq_of_firstSight_of_learned sight (Option.some.inj known)

/-- Two tables have learned the same of a name and of the name that stands for it. -/
def Agrees (recasting : Recasting) (table other : SymbolTable) (name : String) : Prop :=
  (other.lookup? (recasting.text name)).map (·.learned) =
    (table.lookup? name).map fun entry => entry.learned.recast recasting

namespace Agrees

variable {recasting : Recasting} {table other : SymbolTable} {name : String}

theorem learned_eq_of_same (agrees : Agrees .same table other name) :
    (other.lookup? name).map (·.learned) = (table.lookup? name).map (·.learned) := by
  change (other.lookup? name).map _ = _ at agrees
  simpa only [Variable.Learned.recast_same] using agrees

/-- Either no table knows the name, or both have learned the same of it. -/
theorem cases (agrees : Agrees recasting table other name) :
    (table.lookup? name = none ∧ other.lookup? (recasting.text name) = none) ∨
      ∃ entry entry', table.lookup? name = some entry ∧
        other.lookup? (recasting.text name) = some entry' ∧
        entry'.type = entry.type ∧ entry'.value? = entry.value?.map recasting.text ∧
        entry'.declared = entry.declared := by
  unfold Agrees at agrees
  cases found : table.lookup? name with
  | none =>
      rw [found, Option.map_none, Option.map_eq_none_iff] at agrees
      exact .inl ⟨rfl, agrees⟩
  | some entry =>
      rw [found, Option.map_some] at agrees
      obtain ⟨entry', found', learned⟩ := Option.map_eq_some_iff.mp agrees
      obtain ⟨type_eq, value_eq, declared_eq⟩ := Variable.Learned.mk.inj learned
      exact .inr ⟨entry, entry', rfl, found', type_eq, value_eq, declared_eq⟩

theorem typeOf_eq (agrees : Agrees recasting table other name) :
    other.typeOf (recasting.text name) = table.typeOf name := by
  rcases agrees.cases with ⟨none_here, none_there⟩ | ⟨_, _, found, found', type_eq, _, _⟩
  · rw [typeOf, typeOf, none_here, none_there]
  · rw [typeOf, typeOf, found, found', Option.map_some, Option.map_some, type_eq]

/-- Both tables declare the same name. -/
theorem declare (agrees : Agrees recasting table other name) {declared : String} (type : ValueType)
    (name_iff : recasting.text name = recasting.text declared ↔ name = declared) :
    Agrees recasting (table.declare declared type)
      (other.declare (recasting.text declared) type) name := by
  rw [Agrees, lookup?_declare, lookup?_declare]
  by_cases same : name = declared
  · rw [if_pos same, if_pos (name_iff.mpr same)]
    rcases agrees.cases with ⟨none_here, none_there⟩ | ⟨_, _, found, found', _, value_eq, _⟩
    · rw [none_here, none_there]
      rfl
    · rw [found, found']
      simp [Variable.learned, Variable.Learned.recast, value_eq]
  · rw [if_neg same, if_neg (mt name_iff.mp same)]
    exact agrees

/-- Both tables store the same value under the same name. -/
theorem assign (agrees : Agrees recasting table other name) {target : String} (value : String)
    (name_iff : recasting.text name = recasting.text target ↔ name = target) :
    Agrees recasting (table.assign target value)
      (other.assign (recasting.text target) (recasting.text value)) name := by
  rw [Agrees, lookup?_assign, lookup?_assign]
  by_cases same : name = target
  · rw [if_pos same, if_pos (name_iff.mpr same)]
    rcases agrees.cases with ⟨none_here, none_there⟩ | ⟨_, _, found, found', type_eq, _, declared⟩
    · rw [none_here, none_there]
      rfl
    · rw [found, found']
      simp [Variable.learned, Variable.Learned.recast, type_eq, declared]
  · rw [if_neg same, if_neg (mt name_iff.mp same)]
    exact agrees

end Agrees
end SymbolTable

/-- Of names that have only been sighted nothing has been learned. -/
theorem Names.agrees_table {recasting : Recasting} {tokens others : List Token} {name : String}
    (occurs : name ∈ (occurrences tokens).map (·.text))
    (occurs' : recasting.text name ∈ (occurrences others).map (·.text)) (initial initial' : Char) :
    (table initial (sightings tokens)).Agrees recasting (table initial' (sightings others))
      name := by
  obtain ⟨entry, found⟩ := Report.exists_lookup?_symbolsAfter initial tokens occurs 0
  obtain ⟨entry', found'⟩ := Report.exists_lookup?_symbolsAfter initial' others occurs' 0
  change (table initial (sightings tokens)).lookup? name = some entry at found
  change (table initial' (sightings others)).lookup? _ = some entry' at found'
  obtain ⟨first, rfl⟩ := Report.sighted_of_lookup?_table initial tokens found
  obtain ⟨first', rfl⟩ := Report.sighted_of_lookup?_table initial' others found'
  rw [SymbolTable.Agrees, found, found']
  rfl

namespace Site

/-- The token right before, if any, stands for no value. -/
def BehindNoValue (site : Site) : Prop :=
  ∀ left ∈ site.previous?, left.kind ≠ .identifier ∧ ValueType.ofLiteral left.kind = .unknown

/-- All tokens of a place belong to a stream. -/
structure Within (tokens : List Token) (site : Site) : Prop where
  token_mem : site.token ∈ tokens
  previous_mem : ∀ token ∈ site.previous?, token ∈ tokens
  rest_mem : ∀ token ∈ site.rest, token ∈ tokens

theorem within_of_mem_all {tokens : List Token} {site : Site} (member : site ∈ all tokens) :
    site.Within tokens := by
  obtain ⟨place, found⟩ := List.mem_iff_getElem?.mp member
  rw [all, getElem?_allAfter] at found
  obtain ⟨token, here, rfl⟩ := Option.map_eq_some_iff.mp found
  refine ⟨List.mem_of_getElem? here, fun previous before => ?_, fun _ => List.mem_of_mem_drop⟩
  change (if place = 0 then none else tokens[place - 1]?) = some previous at before
  split at before
  · cases before
  · exact List.mem_of_getElem? before

/-- The checks see the same at two places.  The tokens of the first one belong to a stream. -/
structure Similar (recasting : Recasting) (tokens : List Token) (site other : Site) : Prop
    extends site.Within tokens where
  token_eq : other.token = site.token.recast recasting
  declaration_eq : other.declaration? =
    site.declaration?.map fun (name, type) => (name.recast recasting, type)
  value_eq : other.assignedValue? = site.assignedValue?.map (·.recast recasting)
  returned_eq : other.returnedValue? = site.returnedValue?.map (·.recast recasting)
  header_eq : other.header? = site.header?.map fun (name, type) => (recasting.text name, type)
  /-- Operands are the same, or the left ones stand for no values. -/
  operands_eq : (other.operands? = site.operands?.map fun (left, right) =>
      (left.recast recasting, right.recast recasting)) ∨
    (site.BehindNoValue ∧ other.BehindNoValue)
  opening_eq : site.needsCondition → other.nextIs .leftParen = site.nextIs .leftParen
  closing_eq : site.needsCondition → other.restOfLine.any (·.kind == .rightParen) =
    site.restOfLine.any (·.kind == .rightParen)
  separators_eq : site.kind = .forWord → other.separators = site.separators
  occurrence_eq : ∀ lastClosed?, other.occurrence? lastClosed? = site.occurrence? lastClosed?

variable {recasting : Recasting} {tokens : List Token} {site other : Site}

theorem Similar.kind_eq (similar : site.Similar recasting tokens other) :
    other.kind = site.kind := by
  rw [kind, similar.token_eq]
  rfl

theorem Similar.needsCondition_eq (similar : site.Similar recasting tokens other) :
    other.needsCondition = site.needsCondition := by
  rw [needsCondition, needsCondition, similar.kind_eq]

theorem Similar.control?_eq (similar : site.Similar recasting tokens other) :
    other.control? = site.control? := by
  rw [← map_control_occurrence? other none, similar.occurrence_eq, map_control_occurrence?]

theorem mem_rest_of_next? {token : Token} (next : site.next? = some token) : token ∈ site.rest :=
  List.mem_of_head? next

theorem of_declaration? {name : Token} {type : ValueType}
    (declares : site.declaration? = some (name, type)) :
    name ∈ site.rest ∧ name.kind = .identifier := by
  simp only [declaration?, Option.bind_eq_bind, Option.bind_eq_some_iff] at declares
  obtain ⟨_, _, behind, next, declares⟩ := declares
  split at declares
  · next isName =>
      obtain ⟨rfl, -⟩ := Prod.mk.inj (Option.some.inj declares)
      exact ⟨mem_rest_of_next? next, isName⟩
  · cases declares

theorem of_assignedValue? {value : Token} (assigns : site.assignedValue? = some value) :
    value ∈ site.rest ∧ site.kind = .identifier := by
  unfold assignedValue? at assigns
  split at assigns
  · next both => exact ⟨List.mem_of_getElem? assigns, both.1⟩
  · cases assigns

theorem of_operands? {left right : Token} (operates : site.operands? = some (left, right)) :
    left ∈ site.previous? ∧ right ∈ site.rest := by
  unfold operands? at operates
  split at operates
  · split at operates
    · next before next =>
        obtain ⟨rfl, rfl⟩ := Prod.mk.inj (Option.some.inj operates)
        exact ⟨before, mem_rest_of_next? next⟩
    · cases operates
  · cases operates

theorem of_returnedValue? {value : Token} (returns : site.returnedValue? = some value) :
    value ∈ site.rest := by
  unfold returnedValue? at returns
  split at returns
  · exact mem_rest_of_next? returns
  · cases returns

theorem of_header? {header : String × ValueType} (found : site.header? = some header) :
    site.kind = .functionWord := by
  unfold header? at found
  split at found
  · assumption
  · cases found

end Site

/-! ## What is seen of a walk -/

/-- The scope as it is written in the other program. -/
def Scope.recast (recasting : Recasting) (scope : Scope) : Scope :=
  { scope with
    function? := scope.function?.map fun function =>
      { function with name := recasting.text function.name } }

@[simp]
theorem Scope.recast_same (scope : Scope) : scope.recast .same = scope := by
  obtain ⟨depth, function?⟩ := scope
  cases function? <;> rfl

theorem Scope.leave_recast (recasting : Recasting) (scope : Scope) :
    (scope.recast recasting).leave = scope.leave.recast recasting := by
  obtain ⟨depth, function?⟩ := scope
  cases function? with
  | none => rfl
  | some function =>
      by_cases ends : function.depth = depth - 1 <;>
        simp [leave, recast, Option.filter_some, ends]

theorem Scope.step_recast {recasting : Recasting} {tokens : List Token} {site site' : Site}
    (scope : Scope) (same : site.Similar recasting tokens site') :
    (scope.recast recasting).step site' = (scope.step site).recast recasting := by
  unfold step
  rw [same.kind_eq, same.header_eq]
  split
  · rfl
  · exact leave_recast recasting scope
  · cases site.header? <;> rfl

namespace Walk

/-- Two walks have seen the same of all that a stream can ask for. -/
structure Similar (recasting : Recasting) (tokens : List Token) (walk other : Walk) : Prop where
  symbols : ∀ token ∈ tokens, token.kind = .identifier →
    walk.symbols.Agrees recasting other.symbols token.text
  clashes : ∀ token ∈ tokens, token.kind = .identifier →
    ((token.recast recasting).key ∈ other.clashes ↔ token.key ∈ walk.clashes)
  refused : ∀ token ∈ tokens, token.kind ≠ .identifier →
    ((token.recast recasting).key ∈ other.refused ↔ token.key ∈ walk.refused)
  scope_eq : other.scope = walk.scope.recast recasting

namespace Similar

variable {recasting : Recasting} {tokens : List Token} {walk other : Walk} {site site' : Site}

/-- A walk has seen the same as itself. -/
theorem same (walk : Walk) (tokens : List Token) : walk.Similar .same tokens walk where
  symbols _ _ _ := by
    simp only [SymbolTable.Agrees, Variable.Learned.recast_same]
    rfl
  clashes _ _ _ := Iff.rfl
  refused _ _ _ := Iff.rfl
  scope_eq := walk.scope.recast_same.symm

theorem typeOfToken_eq (similar : walk.Similar recasting tokens other) {token : Token}
    (member : token ∈ tokens) :
    other.symbols.typeOfToken (token.recast recasting) = walk.symbols.typeOfToken token := by
  rw [SymbolTable.typeOfToken, SymbolTable.typeOfToken, Token.kind_recast]
  by_cases isName : token.kind = .identifier
  · rw [if_pos isName, if_pos isName]
    exact (similar.symbols token member isName).typeOf_eq
  · rw [if_neg isName, if_neg isName]

theorem assignment?_eq (similar : walk.Similar recasting tokens other)
    (same : site.Similar recasting tokens site') :
    other.assignment? site' =
      (walk.assignment? site).map fun (type, value) => (type, value.recast recasting) := by
  unfold assignment?
  rw [same.value_eq, same.token_eq]
  cases assigns : site.assignedValue? with
  | none => rfl
  | some value =>
      obtain ⟨_, isName⟩ := Site.of_assignedValue? assigns
      rcases (similar.symbols site.token same.token_mem isName).cases with
        ⟨none_here, none_there⟩ | ⟨_, _, found, found', type_eq, _, declared_eq⟩
      · simp [none_here, none_there]
      · simp only [Option.map_some, Option.bind_eq_bind, Option.bind_some, Token.text_recast, found,
          found', type_eq, declared_eq]
        split <;> rfl

theorem clash?_eq (similar : walk.Similar recasting tokens other)
    (same : site.Similar recasting tokens site') : other.clash? site' = walk.clash? site := by
  unfold clash?
  rw [similar.assignment?_eq same]
  cases assigns : walk.assignment? site with
  | none => rfl
  | some assigned =>
      obtain ⟨type, value⟩ := assigned
      have value_mem : value ∈ tokens := by
        simp only [assignment?, Option.bind_eq_bind, Option.bind_eq_some_iff] at assigns
        obtain ⟨stored, stores, _, _, declared⟩ := assigns
        split at declared
        · obtain ⟨-, rfl⟩ := Prod.mk.inj (Option.some.inj declared)
          exact same.rest_mem _ (Site.of_assignedValue? stores).1
        · cases declared
      simp only [Option.map_some, Option.bind_eq_bind, Option.bind_some,
        similar.typeOfToken_eq value_mem]

theorem redeclarations (similar : walk.Similar recasting tokens other)
    (same : site.Similar recasting tokens site') :
    List.Forall₂ (Finding.Recast recasting) (walk.redeclarations site)
      (other.redeclarations site') := by
  unfold Walk.redeclarations
  rw [same.declaration_eq, same.token_eq]
  cases declares : site.declaration? with
  | none => exact .nil
  | some declaration =>
      obtain ⟨name, type⟩ := declaration
      obtain ⟨behind, isName⟩ := Site.of_declaration? declares
      rcases (similar.symbols name (same.rest_mem name behind) isName).cases with
        ⟨none_here, none_there⟩ | ⟨_, _, found, found', _, _, declared_eq⟩
      · simp only [Option.map_some, Token.text_recast, none_here, none_there]
        exact .nil
      · simp only [Option.map_some, Token.text_recast, found, found', declared_eq]
        split
        · exact .cons ⟨.redeclaration name.text, site.token.line, rfl, rfl⟩ .nil
        · exact .nil

theorem name_of_clash? {types : ValueType × ValueType} (clashes : walk.clash? site = some types) :
    site.token.kind = .identifier := by
  simp only [clash?, assignment?, Option.bind_eq_bind, Option.bind_eq_some_iff] at clashes
  obtain ⟨_, ⟨_, assigns, _⟩, _⟩ := clashes
  exact (Site.of_assignedValue? assigns).2

theorem clashFindings (similar : walk.Similar recasting tokens other)
    (same : site.Similar recasting tokens site') :
    List.Forall₂ (Finding.Recast recasting) (walk.clashFindings site)
      (other.clashFindings site') := by
  unfold Walk.clashFindings
  rw [similar.clash?_eq same, key_eq, key_eq, same.token_eq]
  cases clashes : walk.clash? site with
  | none => exact .nil
  | some types =>
      obtain ⟨declared, assigned⟩ := types
      have reported_iff := similar.clashes site.token same.token_mem (name_of_clash? clashes)
      simp only [reported_iff]
      split
      · exact .nil
      · exact .cons ⟨.incompatibleAssignment site.token.text declared assigned, site.token.line,
          rfl, rfl⟩ .nil

theorem returnFindings (similar : walk.Similar recasting tokens other)
    (same : site.Similar recasting tokens site') :
    List.Forall₂ (Finding.Recast recasting) (walk.returnFindings site)
      (other.returnFindings site') := by
  unfold Walk.returnFindings
  rw [similar.scope_eq, same.returned_eq, same.token_eq]
  cases function_eq : walk.scope.function? with
  | none => simp [Scope.recast, function_eq]
  | some function =>
      cases returns : site.returnedValue? with
      | none => simp [Scope.recast, function_eq]
      | some value =>
          have value_mem := same.rest_mem value (Site.of_returnedValue? returns)
          simp only [Scope.recast, function_eq, Option.map_some,
            similar.typeOfToken_eq value_mem]
          split
          · exact .cons ⟨.incompatibleReturn function.name function.returns _, site.token.line,
              rfl, rfl⟩ .nil
          · exact .nil

theorem not_name_of_isUnsupported {kind : Kind} (unsupported : kind.isUnsupported) :
    kind ≠ .identifier := by
  rintro rfl
  cases unsupported

theorem operatorFindings (similar : walk.Similar recasting tokens other)
    (same : site.Similar recasting tokens site') :
    List.Forall₂ (Finding.Recast recasting) (walk.operatorFindings site)
      (other.operatorFindings site') := by
  unfold Walk.operatorFindings
  rw [same.kind_eq, key_eq, key_eq, same.token_eq]
  by_cases unsupported : site.kind.isUnsupported
  · have reported_iff := similar.refused site.token same.token_mem
      (not_name_of_isUnsupported unsupported)
    simp only [reported_iff]
    split
    · exact .cons ⟨.unsupportedOperator site.token.text, site.token.line, rfl, rfl⟩ .nil
    · exact .nil
  · rw [if_neg fun both => unsupported both.1, if_neg fun both => unsupported both.1]
    exact .nil

/-- Behind a token without a value no operands are at odds. -/
theorem operandFindings_of_behindNoValue (walk : Walk) (silent : site.BehindNoValue) :
    walk.operandFindings site = [] := by
  unfold Walk.operandFindings
  cases operates : site.operands? with
  | none => rfl
  | some operands =>
      obtain ⟨left, right⟩ := operands
      obtain ⟨not_name, no_literal⟩ := silent left (Site.of_operands? operates).1
      simp [SymbolTable.typeOfToken, not_name, no_literal, ValueType.clashes, ValueType.isKnown]

theorem operandFindings (similar : walk.Similar recasting tokens other)
    (same : site.Similar recasting tokens site') :
    List.Forall₂ (Finding.Recast recasting) (walk.operandFindings site)
      (other.operandFindings site') := by
  rcases same.operands_eq with operands_eq | ⟨silent, silent'⟩
  · unfold Walk.operandFindings
    rw [operands_eq, same.token_eq]
    cases operates : site.operands? with
    | none => exact .nil
    | some operands =>
        obtain ⟨left, right⟩ := operands
        obtain ⟨before, behind⟩ := Site.of_operands? operates
        simp only [Option.map_some, similar.typeOfToken_eq (same.previous_mem left before),
          similar.typeOfToken_eq (same.rest_mem right behind)]
        split
        · exact .cons ⟨.incompatibleOperands _ site.token.text _, site.token.line, rfl, rfl⟩ .nil
        · exact .nil
  · rw [operandFindings_of_behindNoValue walk silent,
      operandFindings_of_behindNoValue other silent']
    exact .nil

theorem conditionFindings (same : site.Similar recasting tokens site') :
    List.Forall₂ (Finding.Recast recasting) (Walk.conditionFindings site)
      (Walk.conditionFindings site') := by
  unfold Walk.conditionFindings
  rw [same.needsCondition_eq, same.token_eq]
  by_cases needed : site.needsCondition
  · rw [same.opening_eq needed, same.closing_eq needed]
    split
    · exact .nil
    · split
      · exact .cons ⟨.missingOpening site.token.text, site.token.line, rfl, rfl⟩ .nil
      · split
        · exact .cons ⟨.missingClosing site.token.text, site.token.line, rfl, rfl⟩ .nil
        · exact .nil
  · simp [needed]

theorem separatorFindings (same : site.Similar recasting tokens site') :
    List.Forall₂ (Finding.Recast recasting) (Walk.separatorFindings site)
      (Walk.separatorFindings site') := by
  unfold Walk.separatorFindings
  rw [same.kind_eq, same.token_eq]
  by_cases isFor : site.kind = .forWord
  · rw [same.separators_eq isFor]
    split
    · exact .cons ⟨.missingSeparators, site.token.line, rfl, rfl⟩ .nil
    · exact .nil
  · simp [isFor]

/-- Walks that have seen the same report the same at a place. -/
theorem findingsAt (similar : walk.Similar recasting tokens other)
    (same : site.Similar recasting tokens site') :
    List.Forall₂ (Finding.Recast recasting) (walk.findingsAt site) (other.findingsAt site') := by
  unfold Walk.findingsAt
  iterate 6 apply List.rel_append
  · exact similar.redeclarations same
  · exact similar.clashFindings same
  · exact similar.returnFindings same
  · exact similar.operatorFindings same
  · exact similar.operandFindings same
  · exact conditionFindings same
  · exact separatorFindings same

theorem symbolsBehind (faithful : recasting.Faithful tokens)
    (similar : walk.Similar recasting tokens other) (same : site.Similar recasting tokens site')
    {token : Token} (member : token ∈ tokens) (isName : token.kind = .identifier) :
    (walk.symbolsBehind site).Agrees recasting (other.symbolsBehind site') token.text := by
  have before := similar.symbols token member isName
  unfold Walk.symbolsBehind
  rw [same.declaration_eq, similar.assignment?_eq same, similar.clash?_eq same, same.token_eq]
  cases declares : site.declaration? with
  | some declaration =>
      obtain ⟨name, type⟩ := declaration
      obtain ⟨behind, declaresName⟩ := Site.of_declaration? declares
      have name_mem := same.rest_mem name behind
      have name_iff := faithful.text_eq_iff member name_mem (by simp [isName, declaresName])
      rcases (similar.symbols name name_mem declaresName).cases with
        ⟨none_here, none_there⟩ | ⟨entry, entry', found, found', _, _, declared_eq⟩
      · simp only [Option.map_some, Token.text_recast, none_here, none_there]
        exact before
      · simp only [Option.map_some, Token.text_recast, found, found', declared_eq]
        split
        · exact before
        · exact before.declare type name_iff
  | none =>
      cases assigns : walk.assignment? site with
      | none => exact before
      | some assigned =>
          obtain ⟨type, value⟩ := assigned
          have target : site.token.kind = .identifier := by
            simp only [assignment?, Option.bind_eq_bind, Option.bind_eq_some_iff] at assigns
            obtain ⟨_, stores, _⟩ := assigns
            exact (Site.of_assignedValue? stores).2
          have name_iff := faithful.text_eq_iff member same.token_mem (by simp [isName, target])
          cases walk.clash? site with
          | none => exact before.assign value.text name_iff
          | some types => exact before

theorem step (faithful : recasting.Faithful tokens) (similar : walk.Similar recasting tokens other)
    (same : site.Similar recasting tokens site') :
    (walk.step site).Similar recasting tokens (other.step site') where
  symbols token member isName := similar.symbolsBehind faithful same member isName
  clashes token member isName := by
    have before := similar.clashes token member isName
    simp only [Walk.step]
    rw [similar.clash?_eq same, key_eq, key_eq, same.token_eq]
    cases clashes : walk.clash? site with
    | none => exact before
    | some types =>
        have target := name_of_clash? clashes
        have key_iff := faithful.key_eq_iff member same.token_mem (by simp [isName, target])
        simp only [Option.isSome_some, if_true, List.mem_cons, key_iff, before]
  refused token member notName := by
    have before := similar.refused token member notName
    simp only [Walk.step]
    rw [same.kind_eq, key_eq, key_eq, same.token_eq]
    by_cases unsupported : site.kind.isUnsupported
    · have target := not_name_of_isUnsupported unsupported
      have key_iff := faithful.key_eq_iff member same.token_mem (by
        change site.token.kind ≠ .identifier at target
        simp [notName, target])
      simp only [unsupported, if_true, List.mem_cons, key_iff, before]
    · simp only [unsupported]
      exact before
  scope_eq := by
    simp only [Walk.step]
    rw [similar.scope_eq, Scope.step_recast walk.scope same]

theorem run (faithful : recasting.Faithful tokens) (similar : walk.Similar recasting tokens other)
    {sites sites' : List Site} (same : List.Forall₂ (Site.Similar recasting tokens) sites sites') :
    (walk.run sites).Similar recasting tokens (other.run sites') := by
  induction same generalizing walk other with
  | nil => exact similar
  | cons here _ ih => exact ih (similar.step faithful here)

/-- Walks that have seen the same report the same over places that look the same. -/
theorem findings (faithful : recasting.Faithful tokens)
    (similar : walk.Similar recasting tokens other) {sites sites' : List Site}
    (same : List.Forall₂ (Site.Similar recasting tokens) sites sites') :
    List.Forall₂ (Finding.Recast recasting) (walk.findings sites) (other.findings sites') := by
  induction same generalizing walk other with
  | nil => exact .nil
  | cons here _ ih =>
      exact List.rel_append (similar.findingsAt here) (ih (similar.step faithful here))

end Similar
end Walk

namespace Control.Tally

/-- Two tallies have the same structures open and have closed the same one last. -/
structure SameStack (tally other : Tally) : Prop where
  openBlocks_eq : other.openBlocks = tally.openBlocks
  lastClosed?_eq : other.lastClosed? = tally.lastClosed?

variable {recasting : Recasting} {tokens : List Token} {tally other : Tally}

theorem SameStack.behind (same : tally.SameStack other) {site site' : Site}
    (similar : site.Similar recasting tokens site') :
    (tally.behind site).SameStack (other.behind site') := by
  unfold Tally.behind
  rw [similar.kind_eq, similar.occurrence_eq, same.lastClosed?_eq]
  split
  · exact ⟨by simp [same.openBlocks_eq], by simp [same.openBlocks_eq]⟩
  · split
    · exact ⟨by simp [same.openBlocks_eq], same.lastClosed?_eq⟩
    · exact ⟨same.openBlocks_eq, same.lastClosed?_eq⟩
    · exact same

theorem SameStack.run (same : tally.SameStack other) {sites sites' : List Site}
    (similar : List.Forall₂ (Site.Similar recasting tokens) sites sites') :
    (tally.run sites).SameStack (other.run sites') := by
  induction similar generalizing tally other with
  | nil => exact same
  | cons here _ ih => exact ih (same.behind here)

/-- Places that look the same stand for the same structures. -/
theorem countP_control?_of_similar {sites sites' : List Site}
    (similar : List.Forall₂ (Site.Similar recasting tokens) sites sites') (control : Control) :
    sites'.countP (·.control? = some control) = sites.countP (·.control? = some control) := by
  induction similar with
  | nil => rfl
  | cons here _ ih => rw [List.countP_cons, List.countP_cons, ih, here.control?_eq]

theorem firstLine?_of_similar {sites sites' : List Site}
    (similar : List.Forall₂ (Site.Similar recasting tokens) sites sites') (control : Control) :
    (sites'.find? (·.control? = some control)).map (·.token.line) =
      ((sites.find? (·.control? = some control)).map (·.token.line)).map recasting.line := by
  induction similar with
  | nil => rfl
  | @cons site site' _ _ here _ ih =>
      rw [List.find?_cons, List.find?_cons, here.control?_eq]
      by_cases occurs : site.control? = some control
      · simp [occurs, here.token_eq]
      · simpa [occurs] using ih

/-- Places that look the same are counted the same. -/
theorem balance_of_similar {sites sites' : List Site}
    (similar : List.Forall₂ (Site.Similar recasting tokens) sites sites') (control : Control) :
    (run .empty sites').balance control = (run .empty sites).balance control := by
  have same : (run .empty sites).SameStack (run .empty sites') :=
    SameStack.run ⟨rfl, rfl⟩ similar
  have occurrences_eq : ((run .empty sites').count control).occurrences =
      ((run .empty sites).count control).occurrences := by
    rw [occurrences_run, occurrences_run, countP_control?_of_similar similar]
  have outstanding_eq : ((run .empty sites').count control).outstanding =
      ((run .empty sites).count control).outstanding := by
    rw [(coherent_empty.run sites').outstanding_eq, (coherent_empty.run sites).outstanding_eq,
      same.openBlocks_eq]
  simp only [balance, occurrences_eq, outstanding_eq]

end Control.Tally
end NovaLint
