import NovaLint.Proofs.Check.Seam

/-!
# Programs one behind the other

A program that closes all that it opens can stand in front of another one that speaks of other names
and lines.  The report on both is then put together from the reports on each: variables and findings
stand one behind the other, and numbers are added.
-/

namespace NovaLint

namespace Bracket

/-- The brackets of two streams together. -/
def Balance.add (front back : Balance) : Balance :=
  { front with
    opened := front.opened + back.opened
    closed := front.closed + back.closed }

theorem balance_append (bracket : Bracket) (front back : List Token) :
    bracket.balance (front ++ back) = (bracket.balance front).add (bracket.balance back) := by
  simp [balance, Balance.add]

theorem opened_concat (passed : List Token) (site : Site) :
    (brace.balance (passed ++ [site.token])).opened =
      (brace.balance passed).opened + if site.kind = .leftBrace then 1 else 0 := by
  rw [balance_append, Site.kind]
  simp only [Balance.add, balance, List.countP_singleton]
  cases site.token.kind <;> rfl

theorem closed_concat (passed : List Token) (site : Site) :
    (brace.balance (passed ++ [site.token])).closed =
      (brace.balance passed).closed + if site.kind = .rightBrace then 1 else 0 := by
  rw [balance_append, Site.kind]
  simp only [Balance.add, balance, List.countP_singleton]
  cases site.token.kind <;> rfl

end Bracket

namespace Names

variable {front back : List Token}

/-- The table of two streams that have no name in common. -/
theorem entries_table_append (initial : Char)
    (apart : ∀ token ∈ front, ∀ other ∈ back, token.text ≠ other.text) :
    (table initial (front ++ back)).entries =
      (table initial front).entries ++ (table initial back).entries := by
  induction back using List.reverseRecOn with
  | nil => rw [List.append_nil]; exact (List.append_nil _).symm
  | append_singleton back last ih =>
      have apart_before : ∀ token ∈ front, ∀ other ∈ back, token.text ≠ other.text :=
        fun token member other among => apart token member other (List.mem_append_left _ among)
      have taken_iff : (variableOf initial last).name ∈ (table initial (front ++ back)).names ↔
          (variableOf initial last).name ∈ (table initial back).names := by
        rw [mem_names_table, mem_names_table, List.map_append, List.mem_append]
        refine or_iff_right fun taken => ?_
        obtain ⟨token, member, same⟩ := List.mem_map.mp taken
        exact apart token member last (by simp) same
      rw [← List.append_assoc, table_concat, table_concat]
      by_cases taken : (variableOf initial last).name ∈ (table initial back).names
      · rw [SymbolTable.insert_of_mem taken, SymbolTable.insert_of_mem (taken_iff.mpr taken)]
        exact ih apart_before
      · rw [SymbolTable.entries_insert_of_not_mem taken,
          SymbolTable.entries_insert_of_not_mem (mt taken_iff.mp taken), ih apart_before,
          List.append_assoc]

theorem eraseDups_append_of_disjoint {α : Type} [BEq α] [LawfulBEq α] {front back : List α}
    (apart : ∀ member ∈ back, member ∉ front) :
    (front ++ back).eraseDups = front.eraseDups ++ back.eraseDups := by
  have kept : back.removeAll front = back :=
    List.filter_eq_self.mpr fun member among => by simpa using apart member among
  rw [List.eraseDups_append, kept]

/-- The findings on the names of two streams that have no name in common. -/
theorem findings_append (initial : Char)
    (apart : ∀ token ∈ front, ∀ other ∈ back, token.text ≠ other.text) :
    findings initial (front ++ back) = findings initial front ++ findings initial back := by
  simp only [findings, List.filter_append, List.map_append]
  rw [eraseDups_append_of_disjoint, List.map_append]
  intro place among taken
  obtain ⟨other, other_mem, rfl⟩ := List.mem_map.mp among
  obtain ⟨token, token_mem, same⟩ := List.mem_map.mp taken
  exact apart token (List.mem_filter.mp token_mem).1 other (List.mem_filter.mp other_mem).1
    (congrArg Prod.fst same)

end Names

namespace Walk

/-- The depth of the scope is the number of open braces, and a function whose body was read to its
end is left: as long as one is known, a brace or a structure is open. -/
structure Follows (passed : List Token) (walk : Walk) : Prop where
  depth_eq : walk.scope.depth + (Bracket.brace.balance passed).closed =
    (Bracket.brace.balance passed).opened
  function : ∀ function ∈ walk.scope.function?,
    function.depth = 0 ∧ (0 < walk.scope.depth ∨ walk.tally.openBlocks ≠ [])

theorem follows_start (symbols : SymbolTable) : (start symbols).Follows [] :=
  ⟨rfl, fun _ none => absurd none (Option.not_mem_none _)⟩

theorem scope_step (walk : Walk) (site : Site) : (walk.step site).scope = walk.scope.step site :=
  rfl

theorem tally_step (walk : Walk) (site : Site) : (walk.step site).tally = walk.tally.behind site :=
  rfl

namespace Follows

variable {walk : Walk} {passed : List Token} {site : Site}

theorem step_leftBrace (follows : walk.Follows passed) (opening : site.kind = .leftBrace) :
    (walk.step site).Follows (passed ++ [site.token]) := by
  have scope_eq : (walk.step site).scope = walk.scope.enter := by
    rw [scope_step, Scope.step, opening]
  refine ⟨?_, fun function known => ?_⟩
  · have depth_eq := follows.depth_eq
    rw [scope_eq, Bracket.opened_concat, Bracket.closed_concat, opening]
    simp only [Scope.enter, reduceCtorEq, if_true, if_false]
    omega
  · rw [scope_eq] at known ⊢
    exact ⟨(follows.function function known).1, .inl (Nat.succ_pos _)⟩

theorem step_rightBrace (follows : walk.Follows passed) (closing : site.kind = .rightBrace)
    (some_open : 0 < walk.scope.depth) : (walk.step site).Follows (passed ++ [site.token]) := by
  have scope_eq : (walk.step site).scope = walk.scope.leave := by
    rw [scope_step, Scope.step, closing]
  refine ⟨?_, fun function known => ?_⟩
  · have depth_eq := follows.depth_eq
    rw [scope_eq, Bracket.opened_concat, Bracket.closed_concat, closing]
    simp only [Scope.leave, reduceCtorEq, if_true, if_false]
    omega
  · rw [scope_eq] at known ⊢
    obtain ⟨before, not_ended⟩ := Option.mem_filter_iff.mp known
    have outside := (follows.function function before).1
    refine ⟨outside, .inl ?_⟩
    change 0 < walk.scope.depth - 1
    rw [outside, bne_iff_ne] at not_ended
    exact Nat.pos_of_ne_zero not_ended.symm

theorem step_of_not_brace (follows : walk.Follows passed) (not_opening : site.kind ≠ .leftBrace)
    (not_closing : site.kind ≠ .rightBrace)
    (outside : site.kind = .functionWord → walk.scope.depth = 0) :
    (walk.step site).Follows (passed ++ [site.token]) := by
  have scope_eq : (walk.step site).scope = site.header?.elim walk.scope fun header =>
      { walk.scope with function? := some ⟨header.1, header.2, walk.scope.depth⟩ } := by
    rw [scope_step, Scope.step]
    split
    · next opening => exact absurd opening not_opening
    · next closing => exact absurd closing not_closing
    · cases site.header? <;> rfl
  have depth_eq : (walk.step site).scope.depth = walk.scope.depth := by
    rw [scope_eq]
    cases site.header? <;> rfl
  refine ⟨?_, fun function known => ?_⟩
  · rw [depth_eq, Bracket.opened_concat, Bracket.closed_concat, if_neg not_opening,
      if_neg not_closing]
    exact follows.depth_eq
  · rw [depth_eq, tally_step]
    cases found : site.header? with
    | none =>
        rw [scope_eq, found] at known
        obtain ⟨function_outside, some_open⟩ := follows.function function known
        exact ⟨function_outside, some_open.imp_right
          (Control.Tally.openBlocks_behind_ne_nil not_closing)⟩
    | some header =>
        have isFunction := Site.of_header? found
        rw [scope_eq, found] at known
        obtain rfl := Option.some.inj known
        refine ⟨outside isFunction, .inr ?_⟩
        rw [Control.Tally.openBlocks_behind_functionWord _ isFunction]
        exact List.cons_ne_nil _ _

end Follows
end Walk

/-! ## Two programs -/

/-- The structures of two streams together, of which the first one leaves none open. -/
def Control.Balance.followedBy (front back : Control.Balance) : Control.Balance :=
  { back with
    occurrences := front.occurrences + back.occurrences
    used := front.used || back.used }

namespace Report

/-- A program leaves nothing open: its last statement is complete, its braces match in number and
none closes what is not open, its structures are closed, and its functions stand outside all
braces. -/
structure SelfContained (initial : Char) (tokens : List Token) : Prop where
  ends : ∀ last ∈ tokens.getLast?, last.kind = .semicolon
  braces_le : ∀ count ≤ tokens.length,
    (Bracket.brace.balance (tokens.take count)).closed ≤
      (Bracket.brace.balance (tokens.take count)).opened
  braces_eq : (Bracket.brace.balance tokens).opened = (Bracket.brace.balance tokens).closed
  unclosed : ∀ balance ∈ (ofTokens initial tokens).controls, balance.unclosed = 0
  functions : ∀ place, (within : place < tokens.length) → tokens[place].kind = .functionWord →
    (Bracket.brace.balance (tokens.take place)).opened =
      (Bracket.brace.balance (tokens.take place)).closed

/-- No brace closes what is not open, and every function stands outside all braces. -/
structure FunctionsOutside (tokens : List Token) : Prop where
  braces_le : ∀ count ≤ tokens.length,
    (Bracket.brace.balance (tokens.take count)).closed ≤
      (Bracket.brace.balance (tokens.take count)).opened
  functions : ∀ place, (within : place < tokens.length) → tokens[place].kind = .functionWord →
    (Bracket.brace.balance (tokens.take place)).opened =
      (Bracket.brace.balance (tokens.take place)).closed

/-- Two programs have no name and no line in common. -/
structure Apart (front back : List Token) : Prop where
  names : ∀ token ∈ Names.occurrences front, ∀ other ∈ Names.occurrences back,
    token.text ≠ other.text
  lines : ∀ token ∈ front, ∀ other ∈ back, token.line ≠ other.line

/-- A report on two programs is put together from the reports on each. -/
structure Composes (front back whole : Report) : Prop where
  symbols_eq : whole.symbols = front.symbols ++ back.symbols
  findingsOf_eq : ∀ code, code ≠ .unclosedControlStructure → code ≠ .unbalancedSymbols →
    whole.findingsOf code = front.findingsOf code ++ back.findingsOf code
  brackets_eq : whole.brackets = List.zipWith .add front.brackets back.brackets
  controls_eq : whole.controls = List.zipWith .followedBy front.controls back.controls

variable {initial : Char} {tokens front back : List Token}

theorem walkAfter_succ_of_lt (initial : Char) {place : Nat} (within : place < tokens.length) :
    ∃ site, site.token = tokens[place] ∧
      walkAfter initial tokens (place + 1) = (walkAfter initial tokens place).step site := by
  have here := Site.getElem?_allAfter none tokens place
  rw [List.getElem?_eq_getElem within, Option.map_some] at here
  rw [walkAfter_succ, Site.all, here, Option.elim_some]
  exact ⟨_, rfl, rfl⟩

theorem SelfContained.functionsOutside (contained : SelfContained initial tokens) :
    FunctionsOutside tokens :=
  ⟨contained.braces_le, contained.functions⟩

/-- No function outlasts its body. -/
theorem FunctionsOutside.follows (outside : FunctionsOutside tokens) (initial : Char)
    {count : Nat} (within : count ≤ tokens.length) :
    (walkAfter initial tokens count).Follows (tokens.take count) := by
  induction count with
  | zero => exact Walk.follows_start _
  | succ place ih =>
      have follows := ih (Nat.le_of_succ_le within)
      obtain ⟨site, token_eq, step_eq⟩ := walkAfter_succ_of_lt initial within
      have passed_eq : tokens.take (place + 1) = tokens.take place ++ [site.token] := by
        rw [token_eq]
        exact (List.take_append_getElem within).symm
      rw [step_eq, passed_eq]
      by_cases opening : site.kind = .leftBrace
      · exact follows.step_leftBrace opening
      by_cases closing : site.kind = .rightBrace
      · -- The depth stops at zero, so it counts the braces only where none closes too much.
        refine follows.step_rightBrace closing ?_
        have depth_eq := follows.depth_eq
        have never_below := outside.braces_le (place + 1) within
        rw [passed_eq, Bracket.opened_concat, Bracket.closed_concat, closing] at never_below
        simp only [reduceCtorEq, if_true, if_false] at never_below
        omega
      · refine follows.step_of_not_brace opening closing fun isFunction => ?_
        change site.token.kind = .functionWord at isFunction
        have balanced := outside.functions place within (token_eq ▸ isFunction)
        have depth_eq := follows.depth_eq
        omega

theorem SelfContained.openBlocks_eq_nil (contained : SelfContained initial tokens) :
    (tallyAfter initial tokens tokens.length).openBlocks = [] := by
  refine List.eq_nil_iff_forall_not_mem.mpr fun control member => ?_
  have listed : (tallyAfter initial tokens tokens.length).balance control ∈
      (ofTokens initial tokens).controls := by
    rw [controls_ofTokens]
    exact List.mem_map_of_mem (by cases control <;> decide)
  have closed : ((tallyAfter initial tokens tokens.length).count control).outstanding = 0 :=
    contained.unclosed _ listed
  rw [(coherent_tallyAfter initial tokens tokens.length).outstanding_eq] at closed
  exact List.count_eq_zero.mp closed member

/-- Behind a program that leaves nothing open no brace and no function is open. -/
theorem SelfContained.scope_eq (contained : SelfContained initial tokens) :
    (walkAfter initial tokens tokens.length).scope = .outermost := by
  obtain ⟨depth_eq, function⟩ :=
    contained.functionsOutside.follows initial (Nat.le_refl tokens.length)
  have depth_zero : (walkAfter initial tokens tokens.length).scope.depth = 0 := by
    have braces_eq := contained.braces_eq
    rw [List.take_length] at depth_eq
    omega
  have no_function : (walkAfter initial tokens tokens.length).scope.function? = none := by
    refine Option.eq_none_iff_forall_not_mem.mpr fun known member => ?_
    rcases (function known member).2 with some_brace | some_block
    · exact absurd depth_zero (Nat.ne_of_gt some_brace)
    · exact some_block contained.openBlocks_eq_nil
  exact congrArg₂ Scope.mk depth_zero no_function

theorem walkAfter_append_front (initial : Char) (front back : List Token) :
    walkAfter initial (front ++ back) front.length =
      (walkAfter initial (front ++ back) 0).run ((Site.all front).map (·.ahead back)) := by
  have length_eq : ((Site.all front).map (·.ahead back)).length = front.length := by
    rw [List.length_map, Site.length_all]
  rw [walkAfter, Site.all_append, ← length_eq, List.take_left]
  rfl

theorem walkAfter_append (initial : Char) (front back : List Token) :
    walkAfter initial (front ++ back) (front ++ back).length =
      (walkAfter initial (front ++ back) front.length).run
        (Site.allAfter front.getLast? back) := by
  rw [walkAfter_length, Site.all_append, Walk.run_append, walkAfter_append_front]
  rfl

/-- At its start a walk knows as much of a part as of the whole. -/
theorem similar_start_of_subset (initial : Char) {tokens others : List Token}
    (subset : tokens ⊆ others) :
    (walkAfter initial tokens 0).Similar .same tokens (walkAfter initial others 0) :=
  similar_start initial initial ((List.map_id tokens).symm ▸ subset)

/-- Behind the first program the walk over both knows as much of it as the walk over it alone. -/
theorem similar_front (contained : SelfContained initial front) (apart : Apart front back) :
    (walkAfter initial front front.length).Similar .same front
      (walkAfter initial (front ++ back) front.length) := by
  rw [walkAfter_length, walkAfter_append_front]
  exact (similar_start_of_subset initial (List.subset_append_left front back)).run
    (Recasting.Faithful.same front) (Site.forall₂_similar_ahead contained.ends apart.lines)

/-- Before the second program the walk over both knows as much of it as the walk over it alone does
at its start. -/
theorem similar_seam (contained : SelfContained initial front) (apart : Apart front back) :
    (walkAfter initial back 0).Similar .same back
      (walkAfter initial (front ++ back) front.length) := by
  have looks := Site.forall₂_similar_ahead contained.ends apart.lines
  have concerns := Site.concerns_of_forall₂ looks
  have not_reported : ∀ token ∈ back,
      token.key ∉ (walkAfter initial (front ++ back) front.length).reported := by
    intro token member reported
    rw [walkAfter_append_front] at reported
    rcases Walk.line_of_mem_reported_run reported with before | ⟨site, site_mem, line_eq⟩
    · exact absurd before List.not_mem_nil
    · exact apart.lines site.token (concerns site site_mem).token_mem token member line_eq.symm
  refine ⟨fun token member isName => ?_, fun token member _ => ?_, fun token member _ => ?_, ?_⟩
  · -- The first program does not speak of the name, so it is known as it was at the start.
    have absent : token.text ∉ (Names.occurrences front).map (·.text) := by
      intro occurs
      obtain ⟨other, other_mem, same⟩ := List.mem_map.mp occurs
      exact apart.names other other_mem token
        (Names.mem_occurrences_iff.mpr ⟨member, isName⟩) same
    have fresh := (similar_start_of_subset initial
      (List.subset_append_right front back)).symbols token member isName
    rw [walkAfter_append_front, SymbolTable.Agrees]
    change ((Walk.run _ _).symbols.lookup? token.text).map _ = _
    rw [Walk.lookup?_run_of_concerns concerns absent]
    exact fresh
  · exact iff_of_false (fun clashed => not_reported token member (List.mem_append_left _ clashed))
      List.not_mem_nil
  · exact iff_of_false (fun refused => not_reported token member (List.mem_append_right _ refused))
      List.not_mem_nil
  · rw [(similar_front contained apart).scope_eq, contained.scope_eq]
    rfl

/-- Behind both programs the walk knows as much of the second one as the walk over it alone. -/
theorem similar_back (contained : SelfContained initial front) (apart : Apart front back) :
    (walkAfter initial back back.length).Similar .same back
      (walkAfter initial (front ++ back) (front ++ back).length) := by
  rw [walkAfter_length, walkAfter_append]
  exact (similar_seam contained apart).run (Recasting.Faithful.same back)
    (Site.forall₂_similar_behind contained.ends back)

/-- What is found on the way through both programs is found in each. -/
theorem walk_findings_append (contained : SelfContained initial front)
    (apart : Apart front back) :
    (walkAfter initial (front ++ back) 0).findings (Site.all (front ++ back)) =
      (walkAfter initial front 0).findings (Site.all front) ++
        (walkAfter initial back 0).findings (Site.all back) := by
  rw [Site.all_append, Walk.findings_append, ← walkAfter_append_front]
  congr 1
  · exact Finding.eq_of_forall₂_recast_same
      ((similar_start_of_subset initial (List.subset_append_left front back)).findings
        (Recasting.Faithful.same front) (Site.forall₂_similar_ahead contained.ends apart.lines))
  · exact Finding.eq_of_forall₂_recast_same ((similar_seam contained apart).findings
      (Recasting.Faithful.same back) (Site.forall₂_similar_behind contained.ends back))

theorem symbols_append (contained : SelfContained initial front) (apart : Apart front back) :
    (ofTokens initial (front ++ back)).symbols =
      (ofTokens initial front).symbols ++ (ofTokens initial back).symbols := by
  have sights : ∀ stream, (symbolsAfter initial stream stream.length).entries.map (·.firstSight) =
      (Names.table initial (Names.occurrences stream)).entries.map (·.firstSight) := by
    intro stream
    rw [← symbols_ofTokens, firstSight_symbols, Names.table_sightings]
  rw [symbols_ofTokens, symbols_ofTokens, symbols_ofTokens]
  refine SymbolTable.entries_eq_of_learned ?_ fun entry member => ?_
  · rw [sights, List.map_append, sights, sights, Names.occurrences_append,
      Names.entries_table_append initial apart.names, List.map_append]
  · rcases List.mem_append.mp member with listed | listed
    · obtain ⟨token, among, isName, name_eq⟩ := exists_name_of_mem_symbolsAfter listed
      have absent : entry.name ∉ (Names.occurrences back).map (·.text) := by
        intro occurs_back
        obtain ⟨other, other_mem, same⟩ := List.mem_map.mp occurs_back
        exact apart.names token (Names.mem_occurrences_iff.mpr ⟨among, isName⟩) other other_mem
          (name_eq.trans same.symm)
      have learned_eq :=
        ((similar_front contained apart).symbols token among isName).learned_eq_of_same
      have concerns := Site.concerns_of_forall₂
        (Site.forall₂_similar_behind contained.ends back)
      have found := SymbolTable.lookup?_of_mem listed
      rw [symbolsAfter] at found
      rw [name_eq, found] at learned_eq
      rw [symbolsAfter, walkAfter_append, Walk.lookup?_run_of_concerns concerns absent]
      exact learned_eq
    · obtain ⟨token, among, isName, name_eq⟩ := exists_name_of_mem_symbolsAfter listed
      have learned_eq :=
        ((similar_back contained apart).symbols token among isName).learned_eq_of_same
      have found := SymbolTable.lookup?_of_mem listed
      rw [symbolsAfter] at found
      rw [name_eq, found] at learned_eq
      exact learned_eq

theorem undeclared_append (contained : SelfContained initial front) (apart : Apart front back) :
    (ofTokens initial (front ++ back)).findingsOf .undeclaredUse =
      (ofTokens initial front).findingsOf .undeclaredUse ++
        (ofTokens initial back).findingsOf .undeclaredUse := by
  have symbols_eq := symbols_append contained apart
  simp only [ofTokens] at symbols_eq
  rw [findingsOf_undeclaredUse, findingsOf_undeclaredUse, findingsOf_undeclaredUse, undeclared,
    symbols_eq, List.filter_append, List.map_append]
  rfl

/-- Findings of a class stand one behind the other, unless they are on the program as a whole. -/
theorem findingsOf_append (contained : SelfContained initial front) (apart : Apart front back)
    {code : FindingCode} (not_unclosed : code ≠ .unclosedControlStructure)
    (not_unbalanced : code ≠ .unbalancedSymbols) :
    (ofTokens initial (front ++ back)).findingsOf code =
      (ofTokens initial front).findingsOf code ++ (ofTokens initial back).findingsOf code := by
  by_cases onNames : code = .invalidName
  · subst onNames
    simp only [findingsOf_invalidName, Names.findings_sightings]
    rw [Names.occurrences_append, Names.findings_append initial apart.names]
  by_cases onUse : code = .undeclaredUse
  · subst onUse
    exact undeclared_append contained apart
  have among : code ∈ Walk.codes := by
    cases code <;> first | decide | contradiction
  simp only [findingsOf_of_mem_codes among]
  rw [walk_findings_append contained apart, List.filter_append]

theorem openBlocks_append (contained : SelfContained initial front) (apart : Apart front back) :
    (tallyAfter initial (front ++ back) (front ++ back).length).openBlocks =
      (tallyAfter initial back back.length).openBlocks := by
  have looks := Site.forall₂_similar_behind contained.ends back
  have front_same : (Control.Tally.run .empty (Site.all front)).SameStack
      (Control.Tally.run .empty ((Site.all front).map (·.ahead back))) :=
    Control.Tally.SameStack.run ⟨rfl, rfl⟩
      (Site.forall₂_similar_ahead contained.ends apart.lines)
  have back_same : (Control.Tally.run .empty (Site.all back)).SameStack
      (Control.Tally.run .empty (Site.allAfter front.getLast? back)) :=
    Control.Tally.SameStack.run ⟨rfl, rfl⟩ looks
  have nothing_open := contained.openBlocks_eq_nil
  rw [tallyAfter_length] at nothing_open
  have not_behind : ∀ last ∈ front.getLast?, last.kind ≠ .rightBrace := fun last before => by
    simp [contained.ends last before]
  rw [tallyAfter_length, tallyAfter_length, Site.all_append, Control.Tally.run_append,
    ← back_same.openBlocks_eq]
  refine Control.Tally.openBlocks_run_allAfter back ?_ (.inr not_behind)
  rw [front_same.openBlocks_eq, nothing_open]
  rfl

theorem balance_append (contained : SelfContained initial front) (apart : Apart front back)
    (control : Control) :
    (tallyAfter initial (front ++ back) (front ++ back).length).balance control =
      ((tallyAfter initial front front.length).balance control).followedBy
        ((tallyAfter initial back back.length).balance control) := by
  have occurrences_eq :
      ((tallyAfter initial (front ++ back) (front ++ back).length).count control).occurrences =
        ((tallyAfter initial front front.length).count control).occurrences +
          ((tallyAfter initial back back.length).count control).occurrences := by
    simp only [tallyAfter_length, Control.Tally.occurrences_run, Control.Tally.count_empty,
      Nat.zero_add]
    rw [Site.all_append, List.countP_append,
      Control.Tally.countP_control?_of_similar
        (Site.forall₂_similar_ahead contained.ends apart.lines),
      Control.Tally.countP_control?_of_similar
        (Site.forall₂_similar_behind contained.ends back)]
  have outstanding_eq :
      ((tallyAfter initial (front ++ back) (front ++ back).length).count control).outstanding =
        ((tallyAfter initial back back.length).count control).outstanding := by
    rw [(coherent_tallyAfter initial _ _).outstanding_eq,
      (coherent_tallyAfter initial _ _).outstanding_eq, openBlocks_append contained apart]
  have used_eq : ∀ first second : Nat, (first + second != 0) = (first != 0 || second != 0) := by
    intro first second
    cases first <;> cases second <;> simp
  simp only [Control.Tally.balance, Control.Balance.followedBy, occurrences_eq, outstanding_eq,
    used_eq]

/-- A program that leaves nothing open can stand in front of any program that speaks of other names
and lines. -/
theorem composes_append (contained : SelfContained initial front) (apart : Apart front back) :
    Composes (ofTokens initial front) (ofTokens initial back)
      (ofTokens initial (front ++ back)) where
  symbols_eq := symbols_append contained apart
  findingsOf_eq _ := findingsOf_append contained apart
  brackets_eq := by
    have brackets_eq : ∀ stream, (ofTokens initial stream).brackets =
        Bracket.all.map (·.balance stream) := fun _ => rfl
    rw [brackets_eq, brackets_eq, brackets_eq, List.zipWith_map, List.zipWith_self]
    exact List.map_congr_left fun bracket _ => bracket.balance_append front back
  controls_eq := by
    rw [controls_ofTokens, controls_ofTokens, controls_ofTokens, List.zipWith_map,
      List.zipWith_self]
    exact List.map_congr_left fun control _ => balance_append contained apart control

/-- A text that leaves nothing open. -/
def closedText : String := "int _a = 1;\nfunction int _f() \x7b return 2.5; \x7d;"

/-- A text that speaks of other names and lines, and leaves a brace and a structure open. -/
def openText : String := "\n\n_b = _b + 'c';\nwhile (x > 1 \x7b"

theorem composes_append_closed_open :
    SelfContained '_' (tokenize closedText) ∧ Apart (tokenize closedText) (tokenize openText) ∧
      Composes (ofTokens '_' (tokenize closedText)) (ofTokens '_' (tokenize openText))
        (ofTokens '_' (tokenize closedText ++ tokenize openText)) := by
  have contained : SelfContained '_' (tokenize closedText) :=
    ⟨by decide +kernel, by decide +kernel, by decide +kernel, by decide +kernel,
      by decide +kernel⟩
  have apart : Apart (tokenize closedText) (tokenize openText) :=
    ⟨by decide +kernel, by decide +kernel⟩
  exact ⟨contained, apart, composes_append contained apart⟩

end Report
end NovaLint
