import NovaLint.Proofs.Check.Headers

/-!
# Stray tokens between statements

A token that stands for a character that starts no token says nothing to any check.  It can still
part two tokens that belong together, or be taken for a neighbour.  At the start of a program and
behind a semicolon there is nothing to part: no check looks over a semicolon, except for the ones
that read on to the end of a line, and these only look for parentheses and separators.  So stray
tokens in such places change nothing in a report, even between the parts of a `for`.
-/

namespace NovaLint

/-- The second stream is the first one with stray tokens at its start, if they are free to stand
there, and behind its semicolons. -/
inductive Interspersed : Bool → List Token → List Token → Prop where
  /-- Nothing is left of both streams. -/
  | done (free : Bool) : Interspersed free [] []
  /-- A stray token stands at the start or behind a semicolon, maybe with others before it. -/
  | insert {error : Token} {tokens others : List Token} (stray : error.isError)
      (later : Interspersed true tokens others) : Interspersed true tokens (error :: others)
  /-- The next token is kept. -/
  | keep {free : Bool} {token : Token} {tokens others : List Token}
      (later : Interspersed (token.kind == .semicolon) tokens others) :
      Interspersed free (token :: tokens) (token :: others)

namespace Interspersed

variable {free : Bool} {tokens others : List Token}

theorem sublist (inserted : Interspersed free tokens others) : tokens.Sublist others := by
  induction inserted with
  | done => exact .slnil
  | insert _ _ ih => exact ih.cons _
  | keep _ ih => exact ih.cons_cons _

theorem insert_all (inserted : Interspersed true tokens others) {strays : List Token}
    (stray : ∀ error ∈ strays, error.isError) : Interspersed true tokens (strays ++ others) := by
  induction strays with
  | nil => exact inserted
  | cons error strays ih =>
      obtain ⟨first, later⟩ := List.forall_mem_cons.mp stray
      exact .insert first (ih later)

/-- Among the tokens that are no errors nothing has changed. -/
theorem filter_eq (inserted : Interspersed free tokens others) {keep : Token → Bool}
    (heard : ∀ token, token.isError → ¬ keep token) : others.filter keep = tokens.filter keep := by
  induction inserted with
  | done => rfl
  | insert stray _ ih => rw [List.filter_cons_of_neg (heard _ stray), ih]
  | keep _ ih => rw [List.filter_cons, List.filter_cons, ih]

theorem countP_eq (inserted : Interspersed free tokens others) {keep : Token → Bool}
    (heard : ∀ token, token.isError → ¬ keep token) : others.countP keep = tokens.countP keep := by
  rw [List.countP_eq_length_filter, List.countP_eq_length_filter, inserted.filter_eq heard]

/-- Where nothing may be inserted both streams go on with the same token. -/
theorem cases_next (inserted : Interspersed false tokens others) :
    (tokens = [] ∧ others = []) ∨
      ∃ next tokens' others', tokens = next :: tokens' ∧ others = next :: others' ∧
        Interspersed (next.kind == .semicolon) tokens' others' := by
  cases inserted with
  | done => exact .inl ⟨rfl, rfl⟩
  | keep later => exact .inr ⟨_, _, _, rfl, rfl, later⟩

theorem head?_eq (inserted : Interspersed false tokens others) : others.head? = tokens.head? := by
  obtain ⟨rfl, rfl⟩ | ⟨next, _, _, rfl, rfl, _⟩ := inserted.cases_next <;> rfl

theorem drop_one (inserted : Interspersed false tokens others) :
    ∃ free', Interspersed free' (tokens.drop 1) (others.drop 1) := by
  obtain ⟨rfl, rfl⟩ | ⟨next, _, _, rfl, rfl, later⟩ := inserted.cases_next
  · exact ⟨true, .done true⟩
  · exact ⟨_, later⟩

end Interspersed

namespace Token

theorem kind_and_known {kind : Kind} (known : kind ≠ .unrecognized) (token : Token) :
    (token.kind == kind && !token.isError) = (token.kind == kind) := by
  cases same : token.kind == kind with
  | false => rfl
  | true =>
      rw [isError, eq_of_beq same, beq_eq_false_iff_ne.mpr known]
      rfl

/-- Errors play no part when a closing parenthesis is looked for. -/
theorem any_rightParen_known (line : List Token) :
    (line.filter (!·.isError)).any (·.kind == .rightParen) = line.any (·.kind == .rightParen) := by
  have known : Kind.rightParen ≠ .unrecognized := by decide
  simp only [List.any_filter, Bool.and_comm (!_), kind_and_known known]

/-- Errors play no part when separators are counted. -/
theorem countP_separators_known (line : List Token) :
    ((line.filter (!·.isError)).takeWhile (·.kind != .rightParen)).countP (·.kind == .semicolon) =
      (line.takeWhile (·.kind != .rightParen)).countP (·.kind == .semicolon) := by
  have passed : ∀ token : Token, (!!token.isError || token.kind != .rightParen) =
      (token.kind != .rightParen) := fun token => by
    rw [bne, ← kind_and_known (by decide) token, Bool.not_and, Bool.not_not, Bool.or_comm]
    cases token.isError <;> simp
  have known : Kind.semicolon ≠ .unrecognized := by decide
  simp only [List.takeWhile_filter, passed, List.countP_filter, kind_and_known known]

end Token

namespace Site

/-- No construct reaches over the token right before, if there is one. -/
def IsApart (previous? : Option Token) : Prop :=
  ∀ last ∈ previous?, last.kind = .semicolon ∨ last.isError

theorem isApart_none : IsApart none := fun _ nothing => absurd nothing (Option.not_mem_none _)

theorem IsApart.kind_ne {previous? : Option Token} (apart : IsApart previous?) {last : Token}
    (before : last ∈ previous?) {kind : Kind} (not_end : kind ≠ .semicolon)
    (known : kind ≠ .unrecognized) : last.kind ≠ kind := by
  rcases apart last before with ends | stray
  · exact ends ▸ not_end.symm
  · exact eq_of_beq stray ▸ known.symm

theorem previousIs_of_isApart {site : Site} (apart : IsApart site.previous?) {kind : Kind}
    (not_end : kind ≠ .semicolon) (known : kind ≠ .unrecognized) :
    site.previousIs kind = false := by
  rw [previousIs, Option.any_eq_false]
  exact fun last before => beq_eq_false_iff_ne.mpr (apart.kind_ne before not_end known)

theorem behindNoValue_of_isApart {site : Site} (apart : IsApart site.previous?) :
    site.BehindNoValue := by
  intro last before
  refine ⟨apart.kind_ne before (by decide) (by decide), ?_⟩
  rcases apart last before with ends | stray
  · rw [ends]
    rfl
  · rw [eq_of_beq stray]
    rfl

/-- Both tokens before are the same, or no construct reaches over them. -/
def Follow (previous? previous'? : Option Token) : Prop :=
  previous'? = previous? ∨ IsApart previous? ∧ IsApart previous'?

/-- The second place is the first one with stray tokens around it, where these are free to stand. -/
structure Undisturbed (site other : Site) : Prop where
  token_eq : other.token = site.token
  follow : Follow site.previous? other.previous?
  inserted : Interspersed (site.kind == .semicolon) site.rest other.rest
  /-- The rest of the line comes before all other lines. -/
  ascend : LinesAscend (other.token :: other.rest)

namespace Undisturbed

variable {site other : Site}

theorem kind_eq (undisturbed : site.Undisturbed other) : other.kind = site.kind :=
  congrArg Token.kind undisturbed.token_eq

/-- Nothing is inserted right behind a token that is no semicolon. -/
theorem behind (undisturbed : site.Undisturbed other) (not_end : site.kind ≠ .semicolon) :
    Interspersed false site.rest other.rest :=
  beq_eq_false_iff_ne.mpr not_end ▸ undisturbed.inserted

theorem next?_eq (undisturbed : site.Undisturbed other) (not_end : site.kind ≠ .semicolon) :
    other.next? = site.next? :=
  (undisturbed.behind not_end).head?_eq

theorem nextIs_eq (undisturbed : site.Undisturbed other) (not_end : site.kind ≠ .semicolon)
    (kind : Kind) : other.nextIs kind = site.nextIs kind := by
  rw [nextIs, nextIs, undisturbed.next?_eq not_end]

theorem previousIs_eq (undisturbed : site.Undisturbed other) {kind : Kind}
    (not_end : kind ≠ .semicolon) (known : kind ≠ .unrecognized) :
    other.previousIs kind = site.previousIs kind := by
  rcases undisturbed.follow with same | ⟨apart, apart'⟩
  · rw [previousIs, previousIs, same]
  · rw [previousIs_of_isApart apart not_end known, previousIs_of_isApart apart' not_end known]

theorem declaration?_eq (undisturbed : site.Undisturbed other) :
    other.declaration? = site.declaration? := by
  unfold declaration?
  rw [undisturbed.kind_eq]
  by_cases ends : site.kind = .semicolon
  · rw [ends]
    rfl
  · rw [undisturbed.next?_eq ends]

theorem returnedValue?_eq (undisturbed : site.Undisturbed other) :
    other.returnedValue? = site.returnedValue? := by
  unfold returnedValue?
  rw [undisturbed.kind_eq]
  by_cases returns : site.kind = .returnWord
  · rw [undisturbed.next?_eq (by simp [returns])]
  · rw [if_neg returns, if_neg returns]

/-- The sign of an assignment is no semicolon, so that the value behind it is the same. -/
theorem assignedValue?_eq (undisturbed : site.Undisturbed other) :
    other.assignedValue? = site.assignedValue? := by
  unfold assignedValue?
  rw [undisturbed.kind_eq]
  by_cases isName : site.kind = .identifier
  · have not_end : site.kind ≠ .semicolon := by simp [isName]
    rw [undisturbed.nextIs_eq not_end]
    by_cases assigns : site.nextIs .assign
    · have value_eq : other.rest[1]? = site.rest[1]? := by
        obtain ⟨rest_eq, rest_eq'⟩ | ⟨next, later, later', rest_eq, rest_eq', inserted⟩ :=
          (undisturbed.behind not_end).cases_next
        · rw [rest_eq, rest_eq']
        · have sign : next.kind = .assign := by simpa [nextIs, next?, rest_eq] using assigns
          rw [sign] at inserted
          simpa [rest_eq, rest_eq', List.head?_eq_getElem?] using inserted.head?_eq
      rw [value_eq]
    · rw [if_neg fun both => assigns both.2, if_neg fun both => assigns both.2]
  · rw [if_neg fun both => isName both.1, if_neg fun both => isName both.1]

/-- A semicolon is no return type, so that the name behind the type is the same. -/
theorem header?_eq (undisturbed : site.Undisturbed other) : other.header? = site.header? := by
  unfold header?
  rw [undisturbed.kind_eq]
  by_cases isFunction : site.kind = .functionWord
  · obtain ⟨rest_eq, rest_eq'⟩ | ⟨returns, later, later', rest_eq, rest_eq', inserted⟩ :=
      (undisturbed.behind (by simp [isFunction])).cases_next
    · rw [rest_eq, rest_eq']
    · rw [rest_eq, rest_eq']
      by_cases ends : returns.kind = .semicolon
      · cases later <;> cases later' <;> simp [isFunction, ends, ValueType.ofTypeName?]
      · rw [beq_eq_false_iff_ne.mpr ends] at inserted
        obtain ⟨rfl, rfl⟩ | ⟨name, _, _, rfl, rfl, _⟩ := inserted.cases_next
        · rfl
        · simp only [isFunction]
  · simp [isFunction]

theorem operands?_eq (undisturbed : site.Undisturbed other)
    (same : other.previous? = site.previous?) : other.operands? = site.operands? := by
  unfold operands?
  rw [undisturbed.kind_eq, same]
  by_cases operates : site.kind.isArithmetic
  · have not_end : site.kind ≠ .semicolon := fun ends => absurd (ends ▸ operates) (by decide)
    rw [undisturbed.next?_eq not_end]
  · rw [if_neg operates, if_neg operates]

theorem occurrence?_eq (undisturbed : site.Undisturbed other) (lastClosed? : Option Control) :
    other.occurrence? lastClosed? = site.occurrence? lastClosed? := by
  unfold occurrence?
  rw [undisturbed.kind_eq, undisturbed.previousIs_eq (by decide) (by decide),
    undisturbed.previousIs_eq (by decide) (by decide)]
  split
  · next elseWord => rw [undisturbed.nextIs_eq (by simp [elseWord])]
  all_goals rfl

/-- The rest of a line is the same but for its errors. -/
theorem known_restOfLine_eq (undisturbed : site.Undisturbed other)
    (not_end : site.kind ≠ .semicolon) :
    other.restOfLine.filter (!·.isError) = site.restOfLine.filter (!·.isError) := by
  have behind := undisturbed.behind not_end
  obtain ⟨_, behind_next⟩ := behind.drop_one
  have ascend := undisturbed.ascend
  rw [undisturbed.token_eq] at ascend
  have line_eq : ∀ {stream : List Token}, stream.Sublist other.rest →
      (stream.drop 1).takeWhile (·.line == site.token.line) =
        (stream.drop 1).filter (·.line == site.token.line) := by
    intro stream among
    have dropped := (List.drop_sublist 1 stream).trans among
    refine takeWhile_line_eq_filter (ascend.sublist (dropped.cons _)) fun token member => ?_
    exact List.rel_of_pairwise_cons ascend (dropped.subset member)
  rw [restOfLine, restOfLine, undisturbed.token_eq, line_eq (List.Sublist.refl other.rest),
    line_eq behind.sublist, List.filter_filter, List.filter_filter]
  exact behind_next.filter_eq fun token stray => by simp [stray]

theorem separators_eq (undisturbed : site.Undisturbed other) (not_end : site.kind ≠ .semicolon) :
    other.separators = site.separators := by
  rw [separators, separators, ← Token.countP_separators_known,
    ← Token.countP_separators_known site.restOfLine, undisturbed.known_restOfLine_eq not_end]

theorem closing_eq (undisturbed : site.Undisturbed other) (not_end : site.kind ≠ .semicolon) :
    other.restOfLine.any (·.kind == .rightParen) = site.restOfLine.any (·.kind == .rightParen) := by
  rw [← Token.any_rightParen_known, ← Token.any_rightParen_known site.restOfLine,
    undisturbed.known_restOfLine_eq not_end]

/-- The checks do not see that stray tokens stand around a place. -/
theorem similar (undisturbed : site.Undisturbed other) {tokens : List Token}
    (within : site.Within tokens) : site.Similar .same tokens other :=
  have same := similar_same within
  have not_end : site.needsCondition → site.kind ≠ .semicolon := fun needed ends => by
    simp [needsCondition, ends] at needed
  { toWithin := within
    token_eq := undisturbed.token_eq
    declaration_eq := undisturbed.declaration?_eq.trans same.declaration_eq
    value_eq := undisturbed.assignedValue?_eq.trans same.value_eq
    returned_eq := undisturbed.returnedValue?_eq.trans same.returned_eq
    header_eq := undisturbed.header?_eq.trans same.header_eq
    operands_eq := by
      rcases undisturbed.follow with before_eq | ⟨apart, apart'⟩
      · exact .inl (by simp [undisturbed.operands?_eq before_eq])
      · exact .inr ⟨behindNoValue_of_isApart apart, behindNoValue_of_isApart apart'⟩
    opening_eq := fun needed => undisturbed.nextIs_eq (not_end needed) .leftParen
    closing_eq := fun needed => undisturbed.closing_eq (not_end needed)
    separators_eq := fun isFor => undisturbed.separators_eq (by simp [isFor])
    occurrence_eq := undisturbed.occurrence?_eq }

end Undisturbed

/-- The places of tokens that are no errors. -/
def heard (sites : List Site) : List Site := sites.filter (!·.token.isError)

theorem heard_cons_of_isError {site : Site} (stray : site.token.isError) (later : List Site) :
    heard (site :: later) = heard later :=
  List.filter_cons_of_neg (by simp [stray])

theorem heard_cons_of_known {site : Site} (known : ¬ site.token.isError) (later : List Site) :
    heard (site :: later) = site :: heard later :=
  List.filter_cons_of_pos (by simp [known])

/-- Without the places of errors, both streams have the same places.  What is inserted is told from
what stands before it: where stray tokens are free to stand, no construct is under way. -/
theorem forall₂_undisturbed {free : Bool} {tokens others : List Token}
    (inserted : Interspersed free tokens others) (ascend : LinesAscend others)
    {previous? previous'? : Option Token} (follow : Follow previous? previous'?)
    (apart : free → IsApart previous?) :
    List.Forall₂ Undisturbed (heard (allAfter previous? tokens))
      (heard (allAfter previous'? others)) := by
  induction inserted generalizing previous? previous'? with
  | done => exact .nil
  | insert stray _ ih =>
      rw [allAfter, heard_cons_of_isError stray]
      refine ih (List.Pairwise.of_cons ascend) (.inr ⟨apart rfl, ?_⟩) apart
      exact fun last last_eq => Option.some.inj last_eq ▸ .inr stray
  | @keep _ token _ _ later ih =>
      have later_places := ih (List.Pairwise.of_cons ascend) (.inl rfl)
        fun ends last last_eq => Option.some.inj last_eq ▸ .inl (eq_of_beq ends)
      rw [allAfter, allAfter]
      by_cases known : token.isError
      · rwa [heard_cons_of_isError known, heard_cons_of_isError known]
      · rw [heard_cons_of_known known, heard_cons_of_known known]
        exact .cons ⟨rfl, follow, later, ascend⟩ later_places

end Site

/-! ## Walks among stray tokens -/

namespace Walk

variable {site site' : Site} {tokens : List Token}

theorem step_of_isError (walk : Walk) (stray : site.token.isError) : walk.step site = walk := by
  have kind_eq : site.kind = .unrecognized := eq_of_beq stray
  have no_value : site.assignedValue? = none := if_neg fun both => by simp [kind_eq] at both
  simp [step, symbolsBehind, tallyBehind, clash?, assignment?, no_value, Scope.step,
    Site.declaration?, Site.header?, Site.occurrence?, kind_eq, Kind.isUnsupported,
    Kind.isCompoundAssignment, ValueType.ofTypeName?, Control.ofKeyword?]

theorem findingsAt_of_isError (walk : Walk) (stray : site.token.isError) :
    walk.findingsAt site = [] := by
  have kind_eq : site.kind = .unrecognized := eq_of_beq stray
  have no_value : site.assignedValue? = none := if_neg fun both => by simp [kind_eq] at both
  simp [findingsAt, redeclarations, clashFindings, clash?, assignment?, no_value, returnFindings,
    operatorFindings, operandFindings, conditionFindings, separatorFindings, Site.declaration?,
    Site.returnedValue?, Site.operands?, Site.needsCondition, kind_eq, Kind.isUnsupported,
    Kind.isArithmetic, Kind.isCompoundAssignment, ValueType.ofTypeName?]

/-- Errors teach a walk nothing. -/
theorem run_heard (walk : Walk) (sites : List Site) :
    walk.run (Site.heard sites) = walk.run sites := by
  induction sites generalizing walk with
  | nil => rfl
  | cons site later ih =>
      by_cases stray : site.token.isError
      · rw [Site.heard_cons_of_isError stray, run_cons, step_of_isError walk stray, ih]
      · rw [Site.heard_cons_of_known stray, run_cons, run_cons, ih]

/-- Nothing is found at errors. -/
theorem findings_heard (walk : Walk) (sites : List Site) :
    walk.findings (Site.heard sites) = walk.findings sites := by
  induction sites generalizing walk with
  | nil => rfl
  | cons site later ih =>
      by_cases stray : site.token.isError
      · rw [Site.heard_cons_of_isError stray, findings, step_of_isError walk stray,
          findingsAt_of_isError walk stray, List.nil_append, ih]
      · rw [Site.heard_cons_of_known stray, findings, findings, ih]

/-- At places that look the same a walk finds the same. -/
theorem findingsAt_eq_of_similar (walk : Walk) (same : site.Similar .same tokens site') :
    walk.findingsAt site' = walk.findingsAt site :=
  Finding.eq_of_forall₂_recast_same ((Walk.Similar.same walk tokens).findingsAt same)

/-- At places that look the same a walk learns the same. -/
theorem step_eq_of_similar (walk : Walk) (same : site.Similar .same tokens site') :
    walk.step site' = walk.step site := by
  have token_eq : site'.token = site.token := same.token_eq
  have declaration_eq : site'.declaration? = site.declaration? := by simp [same.declaration_eq]
  have value_eq : site'.assignedValue? = site.assignedValue? := by simp [same.value_eq]
  have header_eq : site'.header? = site.header? := by
    rw [same.header_eq]
    cases site.header? <;> rfl
  have assignment_eq : walk.assignment? site' = walk.assignment? site := by
    rw [assignment?, assignment?, value_eq, token_eq]
  have clash_eq : walk.clash? site' = walk.clash? site := by
    rw [clash?, clash?, assignment_eq]
  have symbols_eq : walk.symbolsBehind site' = walk.symbolsBehind site := by
    rw [symbolsBehind, symbolsBehind, declaration_eq, assignment_eq, clash_eq, token_eq]
  have scope_eq : walk.scope.step site' = walk.scope.step site := by
    rw [Scope.step, Scope.step, same.kind_eq, header_eq]
  have tally_eq : walk.tallyBehind site' = walk.tallyBehind site := by
    rw [tallyBehind, tallyBehind, same.kind_eq, same.occurrence_eq, token_eq]
  rw [step, step, symbols_eq, clash_eq, scope_eq, tally_eq, same.kind_eq, key_eq, key_eq, token_eq]

variable {sites sites' : List Site}

theorem run_eq_of_forall₂ (same : List.Forall₂ (Site.Similar .same tokens) sites sites')
    (walk : Walk) : walk.run sites' = walk.run sites := by
  induction same generalizing walk with
  | nil => rfl
  | cons here _ ih => rw [run_cons, run_cons, step_eq_of_similar walk here, ih]

theorem findings_eq_of_forall₂ (same : List.Forall₂ (Site.Similar .same tokens) sites sites')
    (walk : Walk) : walk.findings sites' = walk.findings sites := by
  induction same generalizing walk with
  | nil => rfl
  | cons here _ ih =>
      rw [findings, findings, findingsAt_eq_of_similar walk here, step_eq_of_similar walk here, ih]

end Walk

namespace Interspersed

variable {tokens others : List Token}

/-- The places of both streams look the same, but for those of errors. -/
theorem similar_sites (inserted : Interspersed true tokens others) (ascend : LinesAscend others) :
    List.Forall₂ (Site.Similar .same tokens) (Site.heard (Site.all tokens))
      (Site.heard (Site.all others)) := by
  have undisturbed := Site.forall₂_undisturbed inserted ascend (.inl rfl) fun _ => Site.isApart_none
  refine ((List.forall₂_and_left ..).mpr ⟨fun site member => ?_, undisturbed⟩).imp
    fun site other both => both.2.similar both.1
  exact Site.within_of_mem_all (List.mem_filter.mp member).1

theorem occurrences_eq (inserted : Interspersed true tokens others) :
    Names.occurrences others = Names.occurrences tokens :=
  inserted.filter_eq fun token stray => by simp [eq_of_beq stray]

theorem balance_eq (inserted : Interspersed true tokens others) (bracket : Bracket) :
    bracket.balance others = bracket.balance tokens := by
  rw [Bracket.balance, Bracket.balance, inserted.countP_eq, inserted.countP_eq] <;>
    exact fun token stray => by simp [eq_of_beq stray, Bracket.openedBy?, Bracket.closedBy?]

end Interspersed

namespace Report

variable {tokens others : List Token}

/-- Stray tokens at the start of a program and behind its semicolons change nothing in the
report. -/
theorem stray_tokens_ignored (inserted : Interspersed true tokens others)
    (ascend : LinesAscend others) (initial : Char) :
    ofTokens initial others = ofTokens initial tokens := by
  have table_eq : Names.table initial (Names.sightings others) =
      Names.table initial (Names.sightings tokens) := by
    rw [Names.table_sightings, Names.table_sightings, inserted.occurrences_eq]
  have names_eq : Names.findings initial (Names.sightings others) =
      Names.findings initial (Names.sightings tokens) := by
    rw [Names.findings_sightings, Names.findings_sightings, inserted.occurrences_eq]
  have sites := inserted.similar_sites ascend
  have run_eq : ∀ walk : Walk, walk.run (Site.all others) = walk.run (Site.all tokens) :=
    fun walk => by
      rw [← Walk.run_heard, Walk.run_eq_of_forall₂ sites, Walk.run_heard]
  have findings_eq : ∀ walk : Walk, walk.findings (Site.all others) =
      walk.findings (Site.all tokens) := fun walk => by
    rw [← Walk.findings_heard, Walk.findings_eq_of_forall₂ sites, Walk.findings_heard]
  have brackets_eq : Bracket.all.map (·.balance others) = Bracket.all.map (·.balance tokens) :=
    List.map_congr_left fun bracket _ => inserted.balance_eq bracket
  simp only [ofTokens, table_eq, names_eq, run_eq, findings_eq, brackets_eq]

/-- A declaration and a `for` on one line, with the same tokens at the start and behind each
semicolon. -/
def loopWith (strays : List Token) : List Token :=
  strays ++ ⟨.intType, "int", 1, ⟨0, 3⟩⟩ :: ⟨.identifier, "_x", 1, ⟨4, 6⟩⟩ ::
    ⟨.semicolon, ";", 1, ⟨6, 7⟩⟩ :: (strays ++ ⟨.forWord, "for", 1, ⟨8, 11⟩⟩ ::
    ⟨.leftParen, "(", 1, ⟨12, 13⟩⟩ :: ⟨.semicolon, ";", 1, ⟨13, 14⟩⟩ ::
    (strays ++ ⟨.identifier, "_x", 1, ⟨15, 17⟩⟩ :: ⟨.semicolon, ";", 1, ⟨17, 18⟩⟩ ::
    (strays ++ [⟨.rightParen, ")", 1, ⟨18, 19⟩⟩])))

/-- An at sign and a quote without an end. -/
def strayPair : List Token :=
  [⟨.unrecognized, "@", 1, ⟨0, 1⟩⟩, ⟨.unrecognized, "\"_x;", 1, ⟨1, 5⟩⟩]

theorem stray_tokens_ignored_loop :
    Interspersed true (loopWith []) (loopWith strayPair) ∧ LinesAscend (loopWith strayPair) ∧
      ofTokens '_' (loopWith strayPair) = ofTokens '_' (loopWith []) := by
  have stray : ∀ error ∈ strayPair, error.isError := by decide
  have inserted : Interspersed true (loopWith []) (loopWith strayPair) := by
    refine .insert_all (.keep <| .keep <| .keep ?_) stray
    refine .insert_all (.keep <| .keep <| .keep ?_) stray
    refine .insert_all (.keep <| .keep ?_) stray
    exact .insert_all (.keep <| .done _) stray
  have ascend : LinesAscend (loopWith strayPair) := by decide
  exact ⟨inserted, ascend, stray_tokens_ignored inserted ascend '_'⟩

end Report
end NovaLint
