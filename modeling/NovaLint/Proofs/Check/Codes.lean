import NovaLint.Report

/-!
# Which check reports what

Every finding of a report comes from one of five groups, and the group fixes the classes that the
finding can have.  No class belongs to two groups, so a class that makes up a group of its own, such
as that of unclosed structures, picks out this group from the report.
-/

namespace NovaLint

/-- The classes of what is found on the way through a program. -/
def Walk.codes : List FindingCode :=
  [.redeclaration, .incompatibleAssignment, .incompatibleReturn, .unsupportedOperator,
    .incompatibleOperands, .incompleteControlStructure, .incompleteForStructure]

namespace Walk

variable {walk : Walk} {site : Site} {finding : Finding}

theorem code_of_mem_redeclarations (member : finding ∈ walk.redeclarations site) :
    finding.code = .redeclaration := by
  unfold redeclarations at member
  grind [Cause.onLine, Cause.code]

theorem code_of_mem_clashFindings (member : finding ∈ walk.clashFindings site) :
    finding.code = .incompatibleAssignment := by
  unfold clashFindings at member
  grind [Cause.onLine, Cause.code]

theorem code_of_mem_returnFindings (member : finding ∈ walk.returnFindings site) :
    finding.code = .incompatibleReturn := by
  unfold returnFindings at member
  grind [Cause.onLine, Cause.code]

theorem code_of_mem_operatorFindings (member : finding ∈ walk.operatorFindings site) :
    finding.code = .unsupportedOperator := by
  unfold operatorFindings at member
  grind [Cause.onLine, Cause.code]

theorem code_of_mem_operandFindings (member : finding ∈ walk.operandFindings site) :
    finding.code = .incompatibleOperands := by
  unfold operandFindings at member
  grind [Cause.onLine, Cause.code]

theorem code_of_mem_conditionFindings (member : finding ∈ conditionFindings site) :
    finding.code = .incompleteControlStructure := by
  unfold conditionFindings at member
  grind [Cause.onLine, Cause.code]

theorem code_of_mem_separatorFindings (member : finding ∈ separatorFindings site) :
    finding.code = .incompleteForStructure := by
  unfold separatorFindings at member
  grind [Cause.onLine, Cause.code]

theorem code_of_mem_findingsAt (member : finding ∈ walk.findingsAt site) :
    finding.code ∈ codes := by
  simp only [findingsAt, List.mem_append, or_assoc] at member
  rcases member with found | found | found | found | found | found | found
  · rw [code_of_mem_redeclarations found]
    decide
  · rw [code_of_mem_clashFindings found]
    decide
  · rw [code_of_mem_returnFindings found]
    decide
  · rw [code_of_mem_operatorFindings found]
    decide
  · rw [code_of_mem_operandFindings found]
    decide
  · rw [code_of_mem_conditionFindings found]
    decide
  · rw [code_of_mem_separatorFindings found]
    decide

theorem code_of_mem_findings {sites : List Site} (member : finding ∈ walk.findings sites) :
    finding.code ∈ codes := by
  induction sites generalizing walk with
  | nil => exact absurd member List.not_mem_nil
  | cons site later ih =>
      rcases List.mem_append.mp member with here | behind
      · exact code_of_mem_findingsAt here
      · exact ih behind

end Walk

theorem Names.code_of_mem_findings {initial : Char} {sighted : List Token} {finding : Finding}
    (member : finding ∈ findings initial sighted) : finding.code = .invalidName := by
  obtain ⟨_, _, rfl⟩ := List.mem_map.mp member
  rfl

namespace Report

theorem code_of_mem_undeclared {symbols : SymbolTable} {finding : Finding}
    (member : finding ∈ undeclared symbols) : finding.code = .undeclaredUse := by
  obtain ⟨_, _, rfl⟩ := List.mem_map.mp member
  rfl

theorem code_of_mem_unclosed {tally : Control.Tally} {finding : Finding}
    (member : finding ∈ unclosed tally) : finding.code = .unclosedControlStructure := by
  obtain ⟨_, _, rfl⟩ := List.mem_map.mp member
  rfl

theorem code_of_mem_unbalanced {balances : List Bracket.Balance} {finding : Finding}
    (member : finding ∈ unbalanced balances) : finding.code = .unbalancedSymbols := by
  obtain ⟨_, _, rfl⟩ := List.mem_map.mp member
  rfl

/-- The findings of a class in a group that has one class only. -/
theorem filter_of_code {findings : List Finding} {group : FindingCode}
    (same : ∀ finding ∈ findings, finding.code = group) (code : FindingCode) :
    findings.filter (·.code == code) = if group = code then findings else [] := by
  split
  · next sought =>
      refine List.filter_eq_self.mpr fun finding member => ?_
      rw [same finding member, sought]
      exact beq_self_eq_true code
  · next other =>
      refine List.filter_eq_nil_iff.mpr fun finding member => ?_
      rw [same finding member, beq_iff_eq]
      exact other

theorem filter_walk_findings {code : FindingCode} (elsewhere : code ∉ Walk.codes) (walk : Walk)
    (sites : List Site) : (walk.findings sites).filter (·.code == code) = [] := by
  refine List.filter_eq_nil_iff.mpr fun finding member found => ?_
  have listed := Walk.code_of_mem_findings member
  rw [beq_iff_eq.mp found] at listed
  exact elsewhere listed

/-- The findings of a class, taken from each of the five groups. -/
theorem findingsOf_ofTokens (initial : Char) (tokens : List Token) (code : FindingCode) :
    let start := Walk.start (Names.table initial (Names.sightings tokens))
    let final := start.run (Site.all tokens)
    (ofTokens initial tokens).findingsOf code =
      (if .invalidName = code then Names.findings initial (Names.sightings tokens) else []) ++
        (start.findings (Site.all tokens)).filter (·.code == code) ++
        (if .undeclaredUse = code then undeclared final.symbols else []) ++
        (if .unclosedControlStructure = code then unclosed final.tally else []) ++
        (if .unbalancedSymbols = code then unbalanced (Bracket.all.map (·.balance tokens))
          else []) := by
  intro start final
  simp only [findingsOf, ofTokens, List.filter_append]
  rw [filter_of_code fun _ => Names.code_of_mem_findings,
    filter_of_code fun _ => code_of_mem_undeclared, filter_of_code fun _ => code_of_mem_unclosed,
    filter_of_code fun _ => code_of_mem_unbalanced]

/-- The findings on unclosed structures are those of the last tally. -/
theorem findingsOf_unclosedControlStructure (initial : Char) (tokens : List Token) :
    (ofTokens initial tokens).findingsOf .unclosedControlStructure =
      unclosed ((Walk.start (Names.table initial (Names.sightings tokens))).run
        (Site.all tokens)).tally := by
  rw [findingsOf_ofTokens, filter_walk_findings (by decide)]
  simp

/-- The findings on names that break the rule are those of the first pass. -/
theorem findingsOf_invalidName (initial : Char) (tokens : List Token) :
    (ofTokens initial tokens).findingsOf .invalidName =
      Names.findings initial (Names.sightings tokens) := by
  rw [findingsOf_ofTokens, filter_walk_findings (by decide)]
  simp

/-- The findings on names without a declaration are those of the last table. -/
theorem findingsOf_undeclaredUse (initial : Char) (tokens : List Token) :
    (ofTokens initial tokens).findingsOf .undeclaredUse =
      undeclared ((Walk.start (Names.table initial (Names.sightings tokens))).run
        (Site.all tokens)).symbols := by
  rw [findingsOf_ofTokens, filter_walk_findings (by decide)]
  simp

end Report
end NovaLint
