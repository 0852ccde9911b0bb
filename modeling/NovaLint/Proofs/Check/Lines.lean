import NovaLint.Proofs.Check.FirstSight
import NovaLint.Proofs.Control.Occurrences

/-!
# Lines of findings

A finding stands on the line of a token.  The checks that look at a token take its line; names that
were never declared stand where they were first seen, and structures that were never closed where
their kind first occurred.  Brackets alone belong to no line, and have line zero.
-/

namespace NovaLint

theorem Site.token_mem_of_mem_all {tokens : List Token} {site : Site} (member : site ∈ all tokens) :
    site.token ∈ tokens := by
  obtain ⟨place, found⟩ := List.mem_iff_getElem?.mp member
  rw [all, getElem?_allAfter] at found
  obtain ⟨token, token_at, rfl⟩ := Option.map_eq_some_iff.mp found
  exact List.mem_of_getElem? token_at

namespace Walk

variable {walk : Walk} {site : Site} {finding : Finding}

/-- What is wrong at a place is wrong on its line. -/
theorem exists_cause_of_mem_findingsAt (member : finding ∈ walk.findingsAt site) :
    ∃ cause : Cause, finding = cause.onLine site.token.line := by
  simp only [findingsAt, List.mem_append, or_assoc] at member
  rcases member with found | found | found | found | found | found | found
  · unfold redeclarations at found
    grind
  · unfold clashFindings at found
    grind
  · unfold returnFindings at found
    grind
  · unfold operatorFindings at found
    grind
  · unfold operandFindings at found
    grind
  · unfold conditionFindings at found
    grind
  · unfold separatorFindings at found
    grind

theorem exists_site_of_mem_findings {sites : List Site} (member : finding ∈ walk.findings sites) :
    ∃ site ∈ sites, ∃ cause : Cause, finding = cause.onLine site.token.line := by
  induction sites generalizing walk with
  | nil => exact absurd member List.not_mem_nil
  | cons site later ih =>
      rcases List.mem_append.mp member with here | behind
      · exact ⟨site, List.mem_cons_self, exists_cause_of_mem_findingsAt here⟩
      · obtain ⟨site', site_mem, caused⟩ := ih behind
        exact ⟨site', List.mem_cons_of_mem site site_mem, caused⟩

end Walk

namespace Names

theorem exists_line_of_mem_findings {initial : Char} {tokens : List Token} {finding : Finding}
    (member : finding ∈ findings initial (sightings tokens)) :
    ∃ token ∈ tokens, token.line = finding.line := by
  rw [findings_sightings] at member
  obtain ⟨place, place_mem, rfl⟩ := List.mem_map.mp member
  obtain ⟨token, token_mem, rfl⟩ := List.mem_map.mp (List.mem_eraseDups.mp place_mem)
  exact ⟨token, (mem_occurrences_iff.mp (List.mem_filter.mp token_mem).1).1, rfl⟩

end Names

namespace Report

theorem exists_line_of_mem_symbols {initial : Char} {tokens : List Token} {entry : Variable}
    (member : entry ∈ (ofTokens initial tokens).symbols) :
    ∃ token ∈ tokens, token.line = entry.line := by
  obtain ⟨firsts, firstsOf, entries_eq⟩ := Names.exists_firstsOf initial tokens
  have sighted : entry.firstSight ∈ (ofTokens initial tokens).symbols.map (·.firstSight) :=
    List.mem_map_of_mem member
  rw [firstSight_symbols, entries_eq, List.map_map] at sighted
  obtain ⟨first, first_mem, first_eq⟩ := List.mem_map.mp sighted
  exact ⟨first, List.mem_of_find?_eq_some (firstsOf.first first first_mem),
    congrArg Variable.line first_eq⟩

theorem exists_line_of_mem_undeclared {initial : Char} {tokens : List Token} {finding : Finding}
    (member : finding ∈ undeclared (walkAfter initial tokens tokens.length).symbols) :
    ∃ token ∈ tokens, token.line = finding.line := by
  obtain ⟨entry, kept, rfl⟩ := List.mem_map.mp member
  rw [walkAfter_length] at kept
  have listed : entry ∈ (ofTokens initial tokens).symbols := (List.mem_filter.mp kept).1
  exact exists_line_of_mem_symbols listed

/-- A kind with open blocks has occurred, so the line of its first occurrence is known. -/
theorem exists_firstLine? {initial : Char} {tokens : List Token} {control : Control}
    (unclosed : 0 < ((tallyAfter initial tokens tokens.length).count control).outstanding) :
    ∃ site, (Site.all tokens).find? (·.control? = some control) = some site ∧
      ((tallyAfter initial tokens tokens.length).count control).firstLine? =
        some site.token.line := by
  have occurs : 0 < (Site.all tokens).countP (·.control? = some control) := by
    have bounded :=
      (coherent_tallyAfter initial tokens tokens.length).outstanding_le control
    rw [tallyAfter_length, Control.Tally.occurrences_run, Control.Tally.count_empty,
      Nat.zero_add] at bounded
    rw [tallyAfter_length] at unclosed
    omega
  obtain ⟨site, found⟩ := Option.isSome_iff_exists.mp
    (List.find?_isSome.mpr (List.countP_pos_iff.mp occurs))
  refine ⟨site, found, ?_⟩
  rw [tallyAfter_length, Control.Tally.firstLine?_run, found, Control.Tally.count_empty]
  rfl

theorem exists_line_of_mem_unclosed {initial : Char} {tokens : List Token} {finding : Finding}
    (member : finding ∈ unclosed (tallyAfter initial tokens tokens.length)) :
    ∃ token ∈ tokens, token.line = finding.line := by
  obtain ⟨balance, kept, rfl⟩ := List.mem_map.mp member
  obtain ⟨listed, open_blocks⟩ := List.mem_filter.mp kept
  obtain ⟨control, _, rfl⟩ := List.mem_map.mp listed
  have positive : 0 < ((tallyAfter initial tokens tokens.length).count control).outstanding := by
    simpa [Control.Balance.isBalanced, Control.Tally.balance, Nat.pos_iff_ne_zero]
      using open_blocks
  obtain ⟨site, found, first_eq⟩ := exists_firstLine? positive
  refine ⟨site.token, Site.token_mem_of_mem_all (List.mem_of_find?_eq_some found), ?_⟩
  change _ = ((tallyAfter initial tokens tokens.length).count control).firstLine?.getD 0
  rw [first_eq, Option.getD_some]

theorem findings_ofTokens (initial : Char) (tokens : List Token) :
    (ofTokens initial tokens).findings =
      Names.findings initial (Names.sightings tokens) ++
        (walkAfter initial tokens 0).findings (Site.all tokens) ++
        undeclared (walkAfter initial tokens tokens.length).symbols ++
        unclosed (tallyAfter initial tokens tokens.length) ++
        unbalanced (Bracket.all.map (·.balance tokens)) := by
  rw [walkAfter_length, tallyAfter, ← walkAfter, walkAfter_length]
  rfl

/-- Every finding stands on the line of a token, except that those on brackets belong to no line. -/
theorem line_of_mem_findings {initial : Char} {tokens : List Token} {finding : Finding}
    (member : finding ∈ (ofTokens initial tokens).findings) :
    if finding.code = .unbalancedSymbols then finding.line = 0
    else ∃ token ∈ tokens, token.line = finding.line := by
  rw [findings_ofTokens] at member
  simp only [List.mem_append, or_assoc] at member
  rcases member with found | found | found | found | found
  · rw [if_neg (by simp [Names.code_of_mem_findings found])]
    exact Names.exists_line_of_mem_findings found
  · have among := Walk.code_of_mem_findings found
    rw [if_neg fun same => absurd (same ▸ among) (by decide)]
    obtain ⟨site, site_mem, cause, rfl⟩ := Walk.exists_site_of_mem_findings found
    exact ⟨site.token, Site.token_mem_of_mem_all site_mem, rfl⟩
  · rw [if_neg (by simp [code_of_mem_undeclared found])]
    exact exists_line_of_mem_undeclared found
  · rw [if_neg (by simp [code_of_mem_unclosed found])]
    exact exists_line_of_mem_unclosed found
  · rw [if_pos (code_of_mem_unbalanced found)]
    obtain ⟨_, _, rfl⟩ := List.mem_map.mp found
    rfl

end Report
end NovaLint
