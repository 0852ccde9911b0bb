import NovaLint.Proofs.Check.Assignments

/-!
# Operators

An operator that computes is held against the values on both sides of it: the left one says what is
expected of the right one, with the types that are known where the operator stands.  Every clash is
reported.  An operator that the language refuses is reported besides, whatever stands around it, but
only once for each spelling and line.
-/

namespace NovaLint

namespace Kind

/-- The operators that the scanner knows and the language refuses. -/
def refusedOperators : List Kind :=
  [modulo, increment, decrement, plusAssign, minusAssign, timesAssign, divideAssign]

/-- The operators that compute, the refused ones among them. -/
def computingOperators : List Kind := [plus, minus, times, divide] ++ refusedOperators

theorem isUnsupported_iff {kind : Kind} : kind.isUnsupported ↔ kind ∈ refusedOperators := by
  cases kind <;> decide

theorem isArithmetic_iff {kind : Kind} : kind.isArithmetic ↔ kind ∈ computingOperators := by
  cases kind <;> decide

end Kind

/-- The token right before a place of a stream. -/
def tokenBefore? (tokens : List Token) (place : Nat) : Option Token :=
  if place = 0 then none else tokens[place - 1]?

/-- What is wrong with the operands of the operator at a place, if the right one does not fit the
left one. -/
def operandFindingAt? (tokens : List Token) (place : Nat) : Option Finding := do
  let operator ← tokens[place]?
  let left ← tokenBefore? tokens place
  let right ← tokens[place + 1]?
  let expected := valueTypeBefore tokens place left
  let given := valueTypeBefore tokens place right
  if operator.kind ∈ Kind.computingOperators ∧ expected ≠ .unknown ∧ given ≠ .unknown ∧
      ¬ expected.accepts given then
    some ((Cause.incompatibleOperands expected operator.text given).onLine operator.line)
  else none

/-- The spellings and lines of the refused operators of a stream, in order. -/
def refusals (tokens : List Token) : List (String × Nat) :=
  (tokens.filter (·.kind ∈ Kind.refusedOperators)).map fun operator =>
    (operator.text, operator.line)

theorem refusals_append (front back : List Token) :
    refusals (front ++ back) = refusals front ++ refusals back := by
  rw [refusals, List.filter_append, List.map_append, refusals, refusals]

theorem refusals_singleton (token : Token) :
    refusals [token] =
      if token.kind ∈ Kind.refusedOperators then [(token.text, token.line)] else [] := by
  rw [refusals, List.filter_singleton]
  split <;> simp_all

/-- What is reported of a refused operator. -/
def refusalFinding (refusal : String × Nat) : Finding :=
  (Cause.unsupportedOperator refusal.1).onLine refusal.2

namespace Report

variable (initial : Char) (tokens : List Token)

theorem operandFindings_walkAfter {place : Nat} {site : Site}
    (found : (Site.all tokens)[place]? = some site) :
    (walkAfter initial tokens place).operandFindings site =
      (operandFindingAt? tokens place).toList := by
  have types : ∀ token, (walkAfter initial tokens place).symbols.typeOfToken token =
      valueTypeBefore tokens place token := typeOfToken_symbolsAfter initial tokens place
  rw [Site.all, Site.getElem?_allAfter] at found
  obtain ⟨operator, here, rfl⟩ := Option.map_eq_some_iff.mp found
  rw [Walk.operandFindings, Site.operands?, ← tokenBefore?, operandFindingAt?, here, Site.next?,
    List.head?_drop]
  simp only [Site.kind, Kind.isArithmetic_iff, Option.bind_eq_bind, Option.bind_some]
  cases tokenBefore? tokens place with
  | none => simp
  | some left =>
      cases tokens[place + 1]? with
      | none => simp
      | some right =>
          by_cases computes : operator.kind ∈ Kind.computingOperators
          · simp only [computes, if_true, types, ValueType.clashes_iff, true_and, Option.bind_some]
            split <;> rfl
          · simp [computes]

theorem findingsOf_incompatibleOperands :
    (ofTokens initial tokens).findingsOf .incompatibleOperands =
      (List.range tokens.length).filterMap (operandFindingAt? tokens) := by
  rw [findingsOf_walk (by decide), List.filterMap_eq_flatMap_toList]
  apply List.flatMap_congr
  intro place _
  cases found : (Site.all tokens)[place]? with
  | none =>
      rw [Site.all, Site.getElem?_allAfter, Option.map_eq_none_iff] at found
      rw [operandFindingAt?, found]
      rfl
  | some site =>
      rw [Option.elim_some, Walk.filter_findingsAt,
        operandFindings_walkAfter initial tokens found]
      simp

theorem mem_refused_step {walk : Walk} {site : Site} {key : String × Nat} :
    key ∈ (walk.step site).refused ↔ key ∈ walk.refused ∨ key ∈ refusals [site.token] := by
  rw [Walk.step, refusals_singleton, Walk.key]
  simp only [Site.kind, Kind.isUnsupported_iff]
  split
  · rw [List.mem_cons, List.mem_singleton, or_comm]
  · rw [iff_self_or]
    exact fun member => absurd member List.not_mem_nil

/-- The walk remembers the refused operators before. -/
theorem mem_refused_walkAfter {count : Nat} {key : String × Nat} :
    key ∈ (walkAfter initial tokens count).refused ↔ key ∈ refusals (tokens.take count) := by
  induction count with
  | zero => rfl
  | succ place ih =>
      rw [walkAfter_succ, Site.all, Site.getElem?_allAfter, List.take_add_one, refusals_append,
        List.mem_append, ← ih]
      cases tokens[place]? with
      | none =>
          rw [Option.map_none, Option.elim_none, iff_self_or]
          exact fun member => absurd member List.not_mem_nil
      | some token => exact mem_refused_step

/-- What is refused at the first places is reported once for each spelling and line. -/
theorem operatorFindings_range (count : Nat) :
    ((List.range count).flatMap fun place => (Site.all tokens)[place]?.elim []
        (walkAfter initial tokens place).operatorFindings) =
      (refusals (tokens.take count)).eraseDups.map refusalFinding := by
  induction count with
  | zero => rfl
  | succ place ih =>
      rw [List.range_succ, List.flatMap_append, ih, List.flatMap_singleton, Site.all,
        Site.getElem?_allAfter, List.take_add_one, refusals_append]
      cases tokens[place]? with
      | none =>
          rw [Option.map_none, Option.elim_none, List.append_nil]
          exact congrArg (List.map refusalFinding ∘ List.eraseDups) (List.append_nil _).symm
      | some token =>
          rw [Option.map_some, Option.elim_some, Option.toList_some, refusals_singleton,
            Walk.operatorFindings]
          simp only [Site.kind, Kind.isUnsupported_iff, mem_refused_walkAfter, Walk.key]
          by_cases refused : token.kind ∈ Kind.refusedOperators
          · rw [if_pos refused, eraseDups_concat]
            by_cases seen : (token.text, token.line) ∈ refusals (tokens.take place)
            · rw [if_pos seen, if_neg fun both => both.2 seen, List.append_nil]
            · rw [if_neg seen, if_pos ⟨refused, seen⟩, List.map_append]
              rfl
          · rw [if_neg refused, if_neg fun both => refused both.1, List.append_nil,
              List.append_nil]

theorem findingsOf_unsupportedOperator :
    (ofTokens initial tokens).findingsOf .unsupportedOperator =
      (refusals tokens).eraseDups.map refusalFinding := by
  have reported := operatorFindings_range initial tokens tokens.length
  rw [List.take_length] at reported
  rw [findingsOf_walk (by decide), ← reported]
  apply List.flatMap_congr
  intro place _
  cases (Site.all tokens)[place]? with
  | none => rfl
  | some site => simp [Walk.filter_findingsAt]

/-- A refused operator between operands that clash is reported twice, another one of its spelling on
the line is reported for its operands only. -/
example :
    let report := ofTokens '_' (tokenize "int _a = 1 % 'c'; _a = _a % true % 2;")
    report.findings.map (fun finding => (finding.code, finding.message)) =
      [(.unsupportedOperator, "operator \"%\" is not supported"),
        (.incompatibleOperands, "incompatible operand types: integer % char"),
        (.incompatibleOperands, "incompatible operand types: integer % boolean"),
        (.incompatibleOperands, "incompatible operand types: boolean % integer")] := by
  decide +kernel

end Report
end NovaLint
