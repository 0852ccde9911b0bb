import NovaLint.Proofs.Check.Declarations
import NovaLint.Token.Cursor

/-!
# Assignments

A name followed by the assignment sign and a value is assigned that value, if the name was declared
before.  The types that target and value have at that place decide whether the value is stored.  A
value that clashes is never stored; it is reported once for each name and line, and leaving out the
report of a second clash on a line changes nothing else.
-/

namespace NovaLint

theorem ValueType.clashes_iff {target source : ValueType} :
    target.clashes source = true ↔
      target ≠ .unknown ∧ source ≠ .unknown ∧ ¬ target.accepts source := by
  simp [clashes, isKnown, and_assoc]

/-- A value that is assigned to a declared name. -/
structure Assignment where
  /-- The name. -/
  target : Token
  /-- The type of the name where it is assigned. -/
  expected : ValueType
  /-- The first token of the value. -/
  value : Token
  /-- The type of the value where it is assigned. -/
  given : ValueType
deriving DecidableEq

namespace Assignment

/-- Both types are known, and the value may not be stored under the name. -/
def Clashes (assignment : Assignment) : Prop :=
  assignment.expected ≠ .unknown ∧ assignment.given ≠ .unknown ∧
    ¬ assignment.expected.accepts assignment.given

instance : DecidablePred Clashes := fun _ => inferInstanceAs (Decidable (_ ∧ _ ∧ _))

/-- The name and the line of an assignment, for which a clash is reported once. -/
def key (assignment : Assignment) : String × Nat :=
  (assignment.target.text, assignment.target.line)

/-- What is reported of a clash. -/
def finding (assignment : Assignment) : Finding :=
  (Cause.incompatibleAssignment assignment.target.text assignment.expected
    assignment.given).onLine assignment.target.line

theorem clashes_iff {assignment : Assignment} :
    assignment.expected.clashes assignment.given = true ↔ assignment.Clashes :=
  ValueType.clashes_iff

end Assignment

/-- The assignment to a declared name that begins at a place of a stream. -/
def assignmentAt? (tokens : List Token) (place : Nat) : Option Assignment := do
  let target ← tokens[place]?
  let sign ← tokens[place + 1]?
  let value ← tokens[place + 2]?
  if target.kind = .identifier ∧ sign.kind = .assign ∧
      ∃ declaration ∈ declarationsBefore tokens place, declaration.name = target.text then
    some
      { target
        expected := typeBefore tokens place target.text
        value
        given := valueTypeBefore tokens place value }
  else none

/-- The assignments that begin at one of the first places of a stream, in order. -/
def assignmentsBefore (tokens : List Token) (count : Nat) : List Assignment :=
  (List.range count).filterMap (assignmentAt? tokens)

/-- The assignments of a stream, in order. -/
def assignments (tokens : List Token) : List Assignment :=
  assignmentsBefore tokens tokens.length

theorem assignmentsBefore_succ (tokens : List Token) (count : Nat) :
    assignmentsBefore tokens (count + 1) =
      assignmentsBefore tokens count ++ (assignmentAt? tokens count).toList :=
  filterMap_range_succ ..

/-- The clashes among the assignments at the first places. -/
def clashesBefore (tokens : List Token) (count : Nat) : List Assignment :=
  (assignmentsBefore tokens count).filter fun assignment => assignment.Clashes

/-- The name has clashed on the same line before a place. -/
def Assignment.clashedBefore (tokens : List Token) (place : Nat) (assignment : Assignment) : Bool :=
  (clashesBefore tokens place).any (·.key == assignment.key)

theorem Assignment.clashedBefore_iff {tokens : List Token} {place : Nat} {assignment : Assignment} :
    assignment.clashedBefore tokens place ↔
      assignment.key ∈ (clashesBefore tokens place).map (·.key) := by
  simp [clashedBefore]

/-- The clash at a place, if its name has not clashed before on its line. -/
def newClashAt? (tokens : List Token) (place : Nat) : Option Assignment :=
  (assignmentAt? tokens place).filter fun assignment =>
    assignment.Clashes ∧ ¬ assignment.clashedBefore tokens place

theorem clashesBefore_succ (tokens : List Token) (count : Nat) :
    clashesBefore tokens (count + 1) =
      clashesBefore tokens count ++
        ((assignmentAt? tokens count).filter fun assignment => assignment.Clashes).toList := by
  rw [clashesBefore, assignmentsBefore_succ, List.filter_append, ← clashesBefore]
  cases assignmentAt? tokens count with
  | none => rfl
  | some assignment => by_cases clashes : assignment.Clashes <;> simp [clashes, Option.filter_some]

/-- Clashes that are new at their place are the first ones for their name and line. -/
theorem firstPerKey_newClashes (tokens : List Token) (count : Nat) :
    FirstPerKey Assignment.key (clashesBefore tokens count)
      ((List.range count).filterMap (newClashAt? tokens)) := by
  induction count with
  | zero => exact ⟨firstOccurrences_nil, by simp⟩
  | succ count ih =>
      rw [filterMap_range_succ, clashesBefore_succ, newClashAt?]
      cases assignmentAt? tokens count with
      | none => simpa using ih
      | some assignment =>
          by_cases clashes : assignment.Clashes
          · have longer := ih.concat assignment
            rw [Option.filter_some, Option.filter_some, if_pos (decide_eq_true clashes)]
            split at longer
            · next seen =>
                have clashed := Assignment.clashedBefore_iff.mpr seen
                rw [if_neg fun isNew => (of_decide_eq_true isNew).2 clashed]
                simpa using longer
            · next new =>
                have not_clashed := mt Assignment.clashedBefore_iff.mp new
                rw [if_pos (decide_eq_true ⟨clashes, not_clashed⟩)]
                exact longer
          · simpa [clashes, Option.filter_some] using ih

theorem assignmentAt?_eq_some_iff {tokens : List Token} {place : Nat} {assignment : Assignment} :
    assignmentAt? tokens place = some assignment ↔
      tokens[place]? = some assignment.target ∧ assignment.target.kind = .identifier ∧
        (∃ sign, tokens[place + 1]? = some sign ∧ sign.kind = .assign) ∧
        tokens[place + 2]? = some assignment.value ∧
        (∃ declaration ∈ declarationsBefore tokens place,
          declaration.name = assignment.target.text) ∧
        assignment.expected = typeBefore tokens place assignment.target.text ∧
        assignment.given = valueTypeBefore tokens place assignment.value := by
  unfold assignmentAt?
  simp only [Option.bind_eq_bind, Option.bind_eq_some_iff]
  constructor
  · rintro ⟨target, here, sign, next, value, behind, assigns⟩
    split at assigns
    · next conditions =>
        obtain rfl := Option.some.inj assigns
        exact ⟨here, conditions.1, ⟨sign, next, conditions.2.1⟩, behind, conditions.2.2, rfl, rfl⟩
    · cases assigns
  · rintro ⟨here, isName, ⟨sign, next, isAssign⟩, behind, declared, expected_eq, given_eq⟩
    refine ⟨_, here, sign, next, _, behind, ?_⟩
    rw [if_pos ⟨isName, isAssign, declared⟩, ← expected_eq, ← given_eq]

namespace Walk

/-- Only an assignment that does not clash changes a stored value, and only that of its name. -/
theorem value?_symbolsBehind (walk : Walk) (site : Site) (name : String) :
    ((walk.symbolsBehind site).lookup? name).bind (·.value?) =
      (if site.token.text = name ∧ walk.clash? site = none then
        (walk.assignment? site).map (·.2.text) else none).or
          ((walk.symbols.lookup? name).bind (·.value?)) := by
  rcases symbolsBehind_cases walk site with
    ⟨other, type, entry, declares, _, _, behind⟩ |
    ⟨type, value, _, assigns, no_clash, behind⟩ | ⟨_, refused, behind⟩
  · have kept : ((walk.symbols.declare other.text type).lookup? name).bind (·.value?) =
        (walk.symbols.lookup? name).bind (·.value?) := by
      rw [SymbolTable.lookup?_declare]
      split
      · simp only [Option.bind_map, Function.comp_def]
      · rfl
    rw [behind, kept, assignment?_of_declaration? walk declares, Option.map_none, ite_self,
      Option.none_or]
  · rw [behind, SymbolTable.lookup?_assign, assigns, Option.map_some]
    by_cases same : name = site.token.text
    · obtain ⟨entry, known, _⟩ : ∃ entry, walk.symbols.lookup? site.token.text = some entry ∧
          entry.declared := by
        simp only [assignment?, Option.bind_eq_bind, Option.bind_eq_some_iff] at assigns
        obtain ⟨_, _, entry, known, declared⟩ := assigns
        exact ⟨entry, known, by simp_all⟩
      rw [if_pos same, if_pos ⟨same.symm, no_clash⟩, same, known]
      rfl
    · rw [if_neg same, if_neg fun both => same both.1.symm, Option.none_or]
  · have nothing_stored : (if site.token.text = name ∧ walk.clash? site = none then
        (walk.assignment? site).map (·.2.text) else none) = none := by
      split
      · next both =>
          have unassigned : walk.assignment? site = none := by
            by_contra assigns
            exact refused assigns both.2
          rw [unassigned, Option.map_none]
      · rfl
    rw [behind, nothing_stored, Option.none_or]

end Walk

namespace Report

open Names

variable (initial : Char) (tokens : List Token)

theorem assignmentAt?_eq_none {place : Nat} (beyond : (Site.all tokens)[place]? = none) :
    assignmentAt? tokens place = none := by
  rw [Site.all, Site.getElem?_allAfter, Option.map_eq_none_iff] at beyond
  simp [assignmentAt?, beyond]

/-- What is assigned at a place, with the types that the place knows. -/
theorem assignment?_walkAfter {place : Nat} {site : Site}
    (found : (Site.all tokens)[place]? = some site) :
    (walkAfter initial tokens place).assignment? site =
      (assignmentAt? tokens place).map fun assignment =>
        (assignment.expected, assignment.value) := by
  rw [Site.all, Site.getElem?_allAfter] at found
  obtain ⟨target, here, rfl⟩ := Option.map_eq_some_iff.mp found
  simp only [Walk.assignment?, Site.assignedValue?, Site.kind, Site.nextIs, Site.next?,
    List.head?_drop, List.getElem?_drop, assignmentAt?, here, Option.bind_eq_bind,
    Option.bind_some, Nat.add_assoc, Nat.reduceAdd]
  by_cases isName : target.kind = .identifier
  · have occurs : target.text ∈ (occurrences tokens).map (·.text) :=
      text_mem_occurrences (List.mem_of_getElem? here) isName
    obtain ⟨entry, known⟩ := exists_lookup?_symbolsAfter initial tokens occurs place
    have type_eq := typeOf_symbolsAfter initial tokens place target.text
    rw [SymbolTable.typeOf, known, Option.map_some, Option.getD_some] at type_eq
    have declared_iff : entry.declared = true ↔
        ∃ declaration ∈ declarationsBefore tokens place, declaration.name = target.text := by
      rw [declared_eq_any initial tokens occurs known, List.any_eq_true]
      simp only [beq_iff_eq]
    change (walkAfter initial tokens place).symbols.lookup? target.text = some entry at known
    cases tokens[place + 1]? with
    | none => simp
    | some sign =>
        cases tokens[place + 2]? with
        | none => simp
        | some value =>
            by_cases assigns : sign.kind = .assign
            · by_cases declared : entry.declared = true
              · simp [isName, assigns, known, declared, type_eq, declared_iff.mp declared]
              · simp [isName, assigns, known, declared, mt declared_iff.mpr declared]
            · simp [assigns]
  · simp only [isName, false_and, if_false, Option.bind_none]
    cases tokens[place + 1]? with
    | none => rfl
    | some sign => cases tokens[place + 2]? <;> rfl

/-- The types that clash in an assignment at a place, if they do. -/
theorem clash?_walkAfter {place : Nat} {site : Site}
    (found : (Site.all tokens)[place]? = some site) :
    (walkAfter initial tokens place).clash? site =
      ((assignmentAt? tokens place).filter fun assignment => assignment.Clashes).map
        fun assignment => (assignment.expected, assignment.given) := by
  rw [Walk.clash?, assignment?_walkAfter initial tokens found]
  cases assigns : assignmentAt? tokens place with
  | none => rfl
  | some assignment =>
      obtain ⟨_, _, _, _, _, _, given_eq⟩ := assignmentAt?_eq_some_iff.mp assigns
      have known : (walkAfter initial tokens place).symbols.typeOfToken assignment.value =
          assignment.given :=
        (typeOfToken_symbolsAfter initial tokens place assignment.value).trans given_eq.symm
      simp only [Option.map_some, Option.bind_eq_bind, Option.bind_some, known,
        Assignment.clashes_iff, Option.filter_some, decide_eq_true_eq]
      split <;> rfl

theorem key_of_assignmentAt? {place : Nat} {site : Site} {assignment : Assignment}
    (found : (Site.all tokens)[place]? = some site)
    (assigns : assignmentAt? tokens place = some assignment) :
    Walk.key site = assignment.key := by
  rw [Site.all, Site.getElem?_allAfter, (assignmentAt?_eq_some_iff.mp assigns).1] at found
  obtain rfl := Option.some.inj found
  rfl

/-- The walk remembers the names and lines of the clashes before. -/
theorem mem_clashes_walkAfter {count : Nat} {key : String × Nat} :
    key ∈ (walkAfter initial tokens count).clashes ↔
      key ∈ (clashesBefore tokens count).map (·.key) := by
  induction count with
  | zero => rfl
  | succ count ih =>
      rw [clashesBefore_succ, List.map_append, List.mem_append, ← ih, walkAfter_succ]
      cases found : (Site.all tokens)[count]? with
      | none =>
          simp [assignmentAt?_eq_none tokens found]
      | some site =>
          rw [Option.elim_some, Walk.step]
          dsimp only
          rw [clash?_walkAfter initial tokens found]
          cases assigns : assignmentAt? tokens count with
          | none => simp
          | some assignment =>
              have key_eq := key_of_assignmentAt? tokens found assigns
              by_cases clashes : assignment.Clashes
              · simp [clashes, Option.filter_some, key_eq, or_comm]
              · simp [clashes, Option.filter_some]

theorem clashFindings_walkAfter {place : Nat} {site : Site}
    (found : (Site.all tokens)[place]? = some site) :
    (walkAfter initial tokens place).clashFindings site =
      (newClashAt? tokens place).toList.map (·.finding) := by
  unfold Walk.clashFindings newClashAt?
  simp only [clash?_walkAfter initial tokens found, mem_clashes_walkAfter,
    Assignment.clashedBefore_iff]
  cases assigns : assignmentAt? tokens place with
  | none => rfl
  | some assignment =>
      have key_eq := key_of_assignmentAt? tokens found assigns
      obtain ⟨text_eq, line_eq⟩ := Prod.mk.inj key_eq
      by_cases clashes : assignment.Clashes
      · rw [Option.filter_some, if_pos (by simpa using clashes), Option.map_some, key_eq]
        dsimp only
        rw [text_eq, line_eq, Option.filter_some]
        split
        · next seen => simp [seen]
        · next new => simp [clashes, new, Assignment.finding]
      · simp [clashes, Option.filter_some]

theorem findingsOf_incompatibleAssignment :
    (ofTokens initial tokens).findingsOf .incompatibleAssignment =
      ((List.range tokens.length).filterMap (newClashAt? tokens)).map (·.finding) := by
  rw [findingsOf_walk (by decide), List.map_filterMap, List.filterMap_eq_flatMap_toList]
  refine List.flatMap_congr fun place _ => ?_
  cases found : (Site.all tokens)[place]? with
  | none => simp [newClashAt?, assignmentAt?_eq_none tokens found]
  | some site =>
      rw [Option.elim_some, Walk.filter_findingsAt, clashFindings_walkAfter initial tokens found,
        Option.toList_map]
      simp

/-- The value of a name is the last one that did not clash. -/
theorem value?_symbolsAfter (name : String) (count : Nat) :
    ((symbolsAfter initial tokens count).lookup? name).bind (·.value?) =
      ((assignmentsBefore tokens count).filter fun assignment =>
        assignment.target.text = name ∧ ¬ assignment.Clashes).getLast?.map (·.value.text) := by
  induction count with
  | zero =>
      change ((Names.table initial (sightings tokens)).lookup? name).bind (·.value?) = none
      rw [Option.bind_eq_none_iff]
      intro entry found
      obtain ⟨first, rfl⟩ := sighted_of_lookup?_table initial tokens found
      rfl
  | succ count ih =>
      rw [assignmentsBefore_succ, List.filter_append, List.getLast?_append, Option.map_or, ← ih,
        symbolsAfter, walkAfter_succ]
      cases found : (Site.all tokens)[count]? with
      | none => simp [assignmentAt?_eq_none tokens found, symbolsAfter]
      | some site =>
          rw [Option.elim_some, Walk.step, Walk.value?_symbolsBehind, ← symbolsAfter,
            clash?_walkAfter initial tokens found, assignment?_walkAfter initial tokens found]
          congr 1
          cases assigns : assignmentAt? tokens count with
          | none => simp
          | some assignment =>
              have key_eq := key_of_assignmentAt? tokens found assigns
              obtain ⟨text_eq, _⟩ := Prod.mk.inj key_eq
              rw [text_eq]
              by_cases same : assignment.target.text = name
              · by_cases clashes : assignment.Clashes <;> simp [same, clashes, Option.filter_some]
              · simp [same]

/-- The types at the place of an assignment settle whether it clashes.  The first clash of a name on
a line is reported and no other, and the value of a name is the last one that did not clash. -/
theorem assignments_settle_values :
    (∃ firsts, FirstPerKey Assignment.key
        ((assignments tokens).filter fun assignment => assignment.Clashes) firsts ∧
      (ofTokens initial tokens).findingsOf .incompatibleAssignment = firsts.map (·.finding)) ∧
    ∀ name, ((ofTokens initial tokens).lookup? name).bind (·.value?) =
      ((assignments tokens).filter fun assignment =>
        assignment.target.text = name ∧ ¬ assignment.Clashes).getLast?.map (·.value.text) := by
  refine ⟨⟨_, firstPerKey_newClashes tokens tokens.length,
    findingsOf_incompatibleAssignment initial tokens⟩, fun name => ?_⟩
  rw [lookup?_ofTokens]
  exact value?_symbolsAfter initial tokens name tokens.length

/-- A second clash on a line is not reported, and its value is not stored either. -/
example :
    let report := ofTokens '_' (tokenize "float _f = 1; _f = \"a\"; _f = true;")
    report.findings = [(Cause.incompatibleAssignment "_f" .float .string).onLine 1] ∧
      (report.lookup? "_f").bind (·.value?) = some "1" := by decide +kernel

end Report
end NovaLint
