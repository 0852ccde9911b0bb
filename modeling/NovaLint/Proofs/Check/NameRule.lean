import NovaLint.Proofs.Check.Recast

/-!
# What the rule on names decides

Names are judged while they are collected, before anything else is checked.  The judgement is kept
with the variables and reported in front of all other findings, and nothing looks at it again: two
walks that start under different rules know the same at every place.  So a rule decides which names
are reported as ill-formed, and nothing else of a report.
-/

namespace NovaLint

/-- The variable without the judgement on its name. -/
def Variable.unjudged (entry : Variable) : Variable := { entry with wellNamed := true }

namespace SymbolTable

/-- The table without the judgements on names. -/
def unjudged (table : SymbolTable) : SymbolTable where
  entries := table.entries.map (·.unjudged)
  index := table.index
  inStep name place := by
    rw [table.inStep, List.getElem?_map, Option.map_map]
    rfl

theorem lookup?_unjudged (table : SymbolTable) (name : String) :
    table.unjudged.lookup? name = (table.lookup? name).map (·.unjudged) := by
  rw [lookup?_eq_find?, lookup?_eq_find?, unjudged, List.find?_map]
  rfl

end SymbolTable

namespace Names

/-- Which names are listed, and with which lines, is no matter of the rule. -/
theorem unjudged_table (initial initial' : Char) (sighted : List Token) :
    (table initial sighted).unjudged.entries = (table initial' sighted).unjudged.entries := by
  induction sighted using List.reverseRecOn with
  | nil => rfl
  | append_singleton sighted last ih =>
      have taken_iff : (variableOf initial last).name ∈ (table initial sighted).names ↔
          (variableOf initial' last).name ∈ (table initial' sighted).names := by
        rw [mem_names_table, mem_names_table]
        rfl
      rw [table_concat, table_concat]
      cases Decidable.em ((variableOf initial last).name ∈ (table initial sighted).names) with
      | inl taken =>
          rw [SymbolTable.insert_of_mem taken, SymbolTable.insert_of_mem (taken_iff.mp taken), ih]
      | inr free =>
          have free' := mt taken_iff.mpr free
          change (SymbolTable.insert _ _).2.entries.map _ = (SymbolTable.insert _ _).2.entries.map _
          rw [SymbolTable.entries_insert_of_not_mem free,
            SymbolTable.entries_insert_of_not_mem free', List.map_append, List.map_append]
          exact congrArg (· ++ [(variableOf initial last).unjudged]) ih

end Names

namespace Report

/-- The report without what it says on the rule on names. -/
def unjudged (report : Report) : Report :=
  { report with
    symbols := report.symbols.map (·.unjudged)
    findings := report.findings.filter (·.code != .invalidName) }

variable (initial initial' : Char) (tokens : List Token)

/-- The findings that are not on the rule on names are those of the other four groups. -/
theorem findings_unjudged :
    (ofTokens initial tokens).unjudged.findings =
      (walkAfter initial tokens 0).findings (Site.all tokens) ++
        undeclared (symbolsAfter initial tokens tokens.length).unjudged ++
        unclosed (tallyAfter initial tokens tokens.length) ++
        unbalanced (Bracket.all.map (·.balance tokens)) := by
  have kept : ∀ group : List Finding, (∀ finding ∈ group, finding.code ≠ .invalidName) →
      group.filter (·.code != .invalidName) = group := fun group other =>
    List.filter_eq_self.mpr fun finding member => bne_iff_ne.mpr (other finding member)
  have dropped : (Names.findings initial (Names.sightings tokens)).filter
      (·.code != .invalidName) = [] :=
    List.filter_eq_nil_iff.mpr fun finding member => by
      simp [Names.code_of_mem_findings member]
  have undeclared_eq : undeclared (symbolsAfter initial tokens tokens.length).unjudged =
      undeclared (walkAfter initial tokens tokens.length).symbols := by
    rw [undeclared, SymbolTable.unjudged, List.filter_map, List.map_map]
    rfl
  rw [unjudged, findings_ofTokens, undeclared_eq]
  iterate 4 rw [List.filter_append]
  rw [dropped, List.nil_append, kept _ fun finding member => ?_, kept _ fun finding member => ?_,
    kept _ fun finding member => ?_, kept _ fun finding member => ?_]
  · rw [code_of_mem_unbalanced member]
    decide
  · rw [code_of_mem_unclosed member]
    decide
  · rw [code_of_mem_undeclared member]
    decide
  · exact fun same => absurd (same ▸ Walk.code_of_mem_findings member) (by decide)

/-- Walks under two rules see the same places. -/
theorem similar_sites_same :
    List.Forall₂ (Site.Similar .same tokens) (Site.all tokens) (Site.all tokens) :=
  List.forall₂_same.mpr fun _ member => Site.similar_same (Site.within_of_mem_all member)

/-- Walks under two rules know the same before the first token. -/
theorem similar_start_rules :
    (walkAfter initial tokens 0).Similar .same tokens (walkAfter initial' tokens 0) :=
  similar_start initial initial' ((List.map_id tokens).symm ▸ List.Subset.refl tokens)

/-- Behind the last token they have learned the same of each name. -/
theorem unjudged_symbolsAfter :
    (symbolsAfter initial tokens tokens.length).unjudged.entries =
      (symbolsAfter initial' tokens tokens.length).unjudged.entries := by
  have sights : ∀ rule,
      (symbolsAfter rule tokens tokens.length).unjudged.entries.map (·.firstSight) =
        (Names.table rule (Names.sightings tokens)).unjudged.entries.map (·.firstSight) := by
    intro rule
    have sighted := congrArg (List.map Variable.unjudged) (firstSight_symbols rule tokens)
    rw [List.map_map, List.map_map, symbols_ofTokens] at sighted
    rw [SymbolTable.unjudged, SymbolTable.unjudged, List.map_map, List.map_map]
    exact sighted
  have final : (walkAfter initial' tokens tokens.length).Similar .same tokens
      (walkAfter initial tokens tokens.length) := by
    rw [walkAfter_length, walkAfter_length]
    exact (similar_start_rules initial' initial tokens).run (Recasting.Faithful.same tokens)
      (similar_sites_same tokens)
  apply SymbolTable.entries_eq_of_learned
  · rw [sights, sights, Names.unjudged_table initial initial']
  · intro entry member
    obtain ⟨judged, listed, rfl⟩ := List.mem_map.mp member
    obtain ⟨token, among, isName, name_eq⟩ := exists_name_of_mem_symbolsAfter listed
    have learned_eq := (final.symbols token among isName).learned_eq_of_same
    have found := SymbolTable.lookup?_of_mem listed
    rw [symbolsAfter] at found
    rw [name_eq, found] at learned_eq
    rw [SymbolTable.lookup?_unjudged, Option.map_map]
    exact learned_eq

/-- The rule on names decides which names are reported as ill-formed, and nothing else of a
report. -/
theorem name_rule_isolated :
    (ofTokens initial tokens).unjudged = (ofTokens initial' tokens).unjudged := by
  have symbols_eq := unjudged_symbolsAfter initial initial' tokens
  have walk_eq : (walkAfter initial' tokens 0).findings (Site.all tokens) =
      (walkAfter initial tokens 0).findings (Site.all tokens) :=
    Finding.eq_of_forall₂_recast_same ((similar_start_rules initial initial' tokens).findings
      (Recasting.Faithful.same tokens) (similar_sites_same tokens))
  have tally_eq : tallyAfter initial' tokens tokens.length =
      tallyAfter initial tokens tokens.length := by
    rw [tallyAfter_length, tallyAfter_length]
  have controls_eq : (ofTokens initial' tokens).controls = (ofTokens initial tokens).controls := by
    rw [controls_ofTokens, controls_ofTokens, tally_eq]
  have findings_eq : (ofTokens initial tokens).unjudged.findings =
      (ofTokens initial' tokens).unjudged.findings := by
    rw [findings_unjudged, findings_unjudged, walk_eq, tally_eq, undeclared, undeclared, symbols_eq]
  have variables_eq : (ofTokens initial tokens).unjudged.symbols =
      (ofTokens initial' tokens).unjudged.symbols := by
    rw [unjudged, unjudged, symbols_ofTokens, symbols_ofTokens]
    exact symbols_eq
  have unused_eq : (ofTokens initial' tokens).unused = (ofTokens initial tokens).unused := by
    rw [unused_ofTokens, unused_ofTokens, controls_eq]
  rw [unjudged, unjudged, Report.mk.injEq]
  exact ⟨variables_eq, findings_eq, rfl, controls_eq.symm, unused_eq.symm⟩

end Report
end NovaLint
