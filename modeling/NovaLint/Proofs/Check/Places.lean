import NovaLint.Proofs.Check.Codes

/-!
# A walk seen place by place

What is known at a place of a program is what the walk learns from the tokens before it, and what is
reported there depends on nothing else.  So the findings of a program, or those of one class, are
told for each place alone, and their order is that of the places.
-/

namespace NovaLint

/-- What is collected at one more place comes behind what was collected before. -/
theorem filterMap_range_succ {α : Type} (at? : Nat → Option α) (count : Nat) :
    (List.range (count + 1)).filterMap at? =
      (List.range count).filterMap at? ++ (at? count).toList := by
  rw [List.range_succ, List.filterMap_append]
  cases found : at? count <;> simp [found]

namespace Site

theorem getElem?_allAfter (previous? : Option Token) (tokens : List Token) (place : Nat) :
    (allAfter previous? tokens)[place]? = tokens[place]?.map fun token =>
      ⟨if place = 0 then previous? else tokens[place - 1]?, token, tokens.drop (place + 1)⟩ := by
  induction tokens generalizing previous? place with
  | nil => rfl
  | cons first rest ih =>
      cases place with
      | zero => rfl
      | succ place =>
          rw [allAfter, List.getElem?_cons_succ, ih, List.getElem?_cons_succ]
          cases place with
          | zero => rfl
          | succ place => rfl

theorem length_allAfter (previous? : Option Token) (tokens : List Token) :
    (allAfter previous? tokens).length = tokens.length := by
  induction tokens generalizing previous? with
  | nil => rfl
  | cons token rest ih => rw [allAfter, List.length_cons, ih, List.length_cons]

theorem length_all (tokens : List Token) : (all tokens).length = tokens.length :=
  length_allAfter none tokens

end Site

namespace Walk

/-- What is found on the way is what is found at each place with what is known there. -/
theorem findings_eq_flatMap (walk : Walk) (sites : List Site) :
    walk.findings sites = (List.range sites.length).flatMap fun place =>
      sites[place]?.elim [] (walk.run (sites.take place)).findingsAt := by
  induction sites generalizing walk with
  | nil => rfl
  | cons site later ih =>
      rw [findings, ih, List.length_cons, List.range_succ_eq_map, List.flatMap_cons,
        List.flatMap_map]
      rfl

/-- The findings of a class at a place, taken from each of the checks. -/
theorem filter_findingsAt (walk : Walk) (site : Site) (code : FindingCode) :
    (walk.findingsAt site).filter (·.code == code) =
      (if .redeclaration = code then walk.redeclarations site else []) ++
        (if .incompatibleAssignment = code then walk.clashFindings site else []) ++
        (if .incompatibleReturn = code then walk.returnFindings site else []) ++
        (if .unsupportedOperator = code then walk.operatorFindings site else []) ++
        (if .incompatibleOperands = code then walk.operandFindings site else []) ++
        (if .incompleteControlStructure = code then conditionFindings site else []) ++
        (if .incompleteForStructure = code then separatorFindings site else []) := by
  simp only [findingsAt, List.filter_append]
  rw [Report.filter_of_code fun _ => code_of_mem_redeclarations,
    Report.filter_of_code fun _ => code_of_mem_clashFindings,
    Report.filter_of_code fun _ => code_of_mem_returnFindings,
    Report.filter_of_code fun _ => code_of_mem_operatorFindings,
    Report.filter_of_code fun _ => code_of_mem_operandFindings,
    Report.filter_of_code fun _ => code_of_mem_conditionFindings,
    Report.filter_of_code fun _ => code_of_mem_separatorFindings]

end Walk

namespace Report

/-- What is known behind a number of tokens of a program. -/
def walkAfter (initial : Char) (tokens : List Token) (count : Nat) : Walk :=
  (Walk.start (Names.table initial (Names.sightings tokens))).run ((Site.all tokens).take count)

theorem walkAfter_succ (initial : Char) (tokens : List Token) (place : Nat) :
    walkAfter initial tokens (place + 1) =
      (Site.all tokens)[place]?.elim (walkAfter initial tokens place)
        (walkAfter initial tokens place).step := by
  rw [walkAfter, List.take_add_one, Walk.run_append]
  cases (Site.all tokens)[place]? <;> rfl

/-- What is known behind all tokens of a program. -/
theorem walkAfter_length (initial : Char) (tokens : List Token) :
    walkAfter initial tokens tokens.length =
      (Walk.start (Names.table initial (Names.sightings tokens))).run (Site.all tokens) := by
  rw [walkAfter, ← Site.length_all, List.take_length]

/-- The findings of a class that belongs to the walk. -/
theorem findingsOf_of_mem_codes {code : FindingCode} (among : code ∈ Walk.codes) (initial : Char)
    (tokens : List Token) :
    (ofTokens initial tokens).findingsOf code =
      ((walkAfter initial tokens 0).findings (Site.all tokens)).filter (·.code == code) := by
  have own : .invalidName ≠ code ∧ .undeclaredUse ≠ code ∧ .unclosedControlStructure ≠ code ∧
      .unbalancedSymbols ≠ code := by
    refine ⟨?_, ?_, ?_, ?_⟩ <;> rintro rfl <;> exact absurd among (by decide)
  rw [findingsOf_ofTokens, if_neg own.1, if_neg own.2.1, if_neg own.2.2.1, if_neg own.2.2.2]
  simp only [List.nil_append, List.append_nil]
  rfl

/-- The findings of a class that belongs to the walk, place by place. -/
theorem findingsOf_walk {code : FindingCode} (among : code ∈ Walk.codes) (initial : Char)
    (tokens : List Token) :
    (ofTokens initial tokens).findingsOf code =
      (List.range tokens.length).flatMap fun place =>
        (Site.all tokens)[place]?.elim [] fun site =>
          ((walkAfter initial tokens place).findingsAt site).filter (·.code == code) := by
  rw [findingsOf_of_mem_codes among, Walk.findings_eq_flatMap, Site.length_all,
    List.filter_flatMap]
  congr 1
  funext place
  cases (Site.all tokens)[place]? <;> rfl

end Report
end NovaLint
