import NovaLint.Proofs.Check.Groups
import NovaLint.Proofs.Check.Similar

/-!
# Names and lines of a program

The names of a program may be exchanged for others, as long as different names stay different and
the rule on names judges them as before; so may its lines, as long as different lines stay
different.  The report is then the same, written with the other names and lines.  Nothing in it
depends on what a name or the number of a line is, only on which of them are equal.
-/

namespace NovaLint

namespace Site

/-- The place as it is written in the other program. -/
def recast (recasting : Recasting) (site : Site) : Site :=
  { previous? := site.previous?.map (·.recast recasting)
    token := site.token.recast recasting
    rest := site.rest.map (·.recast recasting) }

variable {recasting : Recasting} {tokens : List Token} {site : Site}

theorem allAfter_recast (recasting : Recasting) (previous? : Option Token) (tokens : List Token) :
    allAfter (previous?.map (·.recast recasting)) (tokens.map (·.recast recasting)) =
      (allAfter previous? tokens).map (·.recast recasting) := by
  induction tokens generalizing previous? with
  | nil => rfl
  | cons token rest ih =>
      rw [List.map_cons, allAfter, allAfter, List.map_cons, ← ih]
      rfl

theorem all_recast (recasting : Recasting) (tokens : List Token) :
    all (tokens.map (·.recast recasting)) = (all tokens).map (·.recast recasting) :=
  allAfter_recast recasting none tokens

theorem kind_recast (recasting : Recasting) (site : Site) :
    (site.recast recasting).kind = site.kind := rfl

theorem next?_recast (recasting : Recasting) (site : Site) :
    (site.recast recasting).next? = site.next?.map (·.recast recasting) :=
  List.head?_map ..

theorem nextIs_recast (recasting : Recasting) (site : Site) (kind : Kind) :
    (site.recast recasting).nextIs kind = site.nextIs kind := by
  rw [nextIs, next?_recast, Option.any_map]
  rfl

theorem previousIs_recast (recasting : Recasting) (site : Site) (kind : Kind) :
    (site.recast recasting).previousIs kind = site.previousIs kind := by
  rw [previousIs, recast, Option.any_map]
  rfl

theorem takeWhile_congr {α : Type} {items : List α} {keep keep' : α → Bool}
    (same : ∀ item ∈ items, keep item = keep' item) :
    items.takeWhile keep = items.takeWhile keep' := by
  induction items with
  | nil => rfl
  | cons item items ih =>
      rw [List.takeWhile_cons, List.takeWhile_cons, same item List.mem_cons_self,
        ih fun other member => same other (List.mem_cons_of_mem item member)]

theorem restOfLine_recast (faithful : recasting.Faithful tokens) (within : site.Within tokens) :
    (site.recast recasting).restOfLine = site.restOfLine.map (·.recast recasting) := by
  rw [restOfLine, restOfLine, recast, ← List.map_drop, List.takeWhile_map]
  congr 1
  refine takeWhile_congr fun token member => ?_
  have token_mem := within.rest_mem token (List.mem_of_mem_drop member)
  rw [Bool.eq_iff_iff]
  simpa using faithful.line_eq_iff token_mem within.token_mem

theorem separators_recast (faithful : recasting.Faithful tokens) (within : site.Within tokens) :
    (site.recast recasting).separators = site.separators := by
  rw [separators, restOfLine_recast faithful within, List.takeWhile_map, List.countP_map]
  rfl

theorem header?_recast (recasting : Recasting) (site : Site) :
    (site.recast recasting).header? =
      site.header?.map fun (name, type) => (recasting.text name, type) := by
  obtain ⟨previous?, token, rest⟩ := site
  unfold header? recast kind
  by_cases isFunction : token.kind = .functionWord
  · match rest with
    | [] | [_] => simp [isFunction]
    | returns :: name :: _ =>
        cases typed : ValueType.ofTypeName? returns.kind with
        | none => simp [isFunction, typed]
        | some type =>
            by_cases isName : name.kind = .identifier <;> simp [isFunction, typed, isName]
  · simp [isFunction]

theorem similar_recast (faithful : recasting.Faithful tokens) (within : site.Within tokens) :
    site.Similar recasting tokens (site.recast recasting) where
  toWithin := within
  token_eq := rfl
  declaration_eq := by
    simp only [declaration?, next?_recast]
    change (ValueType.ofTypeName? site.kind >>= _) = _
    cases ValueType.ofTypeName? site.kind with
    | none => rfl
    | some type =>
        cases site.next? with
        | none => rfl
        | some name => by_cases isName : name.kind = .identifier <;> simp [isName]
  value_eq := by
    unfold assignedValue?
    rw [kind_recast, nextIs_recast]
    by_cases assigns : site.kind = .identifier ∧ site.nextIs .assign
    · rw [if_pos assigns, if_pos assigns, recast, List.getElem?_map]
    · rw [if_neg assigns, if_neg assigns, Option.map_none]
  returned_eq := by
    unfold returnedValue?
    rw [kind_recast, next?_recast]
    by_cases returns : site.kind = .returnWord
    · rw [if_pos returns, if_pos returns]
    · rw [if_neg returns, if_neg returns, Option.map_none]
  header_eq := header?_recast recasting site
  operands_eq := .inl <| by
    unfold operands?
    rw [kind_recast, next?_recast]
    by_cases operates : site.kind.isArithmetic
    · rw [if_pos operates, if_pos operates, recast]
      cases site.previous? <;> cases site.next? <;> rfl
    · rw [if_neg operates, if_neg operates, Option.map_none]
  opening_eq _ := nextIs_recast recasting site .leftParen
  closing_eq _ := by
    rw [restOfLine_recast faithful within, List.any_map]
    rfl
  separators_eq _ := separators_recast faithful within
  occurrence_eq lastClosed? := by
    unfold occurrence?
    rw [nextIs_recast, previousIs_recast, previousIs_recast]
    rfl

theorem recast_same (site : Site) : site.recast .same = site := by
  simp [recast]

/-- Every place looks like itself. -/
theorem similar_same (within : site.Within tokens) : site.Similar .same tokens site := by
  have similar := similar_recast (Recasting.Faithful.same tokens) within
  rwa [recast_same] at similar

end Site

theorem eraseDups_map_of_inj {α β : Type} [BEq α] [LawfulBEq α] [BEq β] [LawfulBEq β]
    {whole : List α} {image : α → β}
    (inj : ∀ member ∈ whole, ∀ other ∈ whole, image member = image other → member = other) :
    (whole.map image).eraseDups = whole.eraseDups.map image := by
  induction whole using List.reverseRecOn with
  | nil => rfl
  | append_singleton whole last ih =>
      have inj_before : ∀ member ∈ whole, ∀ other ∈ whole, image member = image other →
          member = other := fun member member_mem other other_mem =>
        inj member (List.mem_append_left _ member_mem) other (List.mem_append_left _ other_mem)
      have seen_iff : image last ∈ whole.map image ↔ last ∈ whole := by
        refine ⟨fun seen => ?_, List.mem_map_of_mem⟩
        obtain ⟨other, other_mem, same⟩ := List.mem_map.mp seen
        exact inj other (List.mem_append_left _ other_mem) last (by simp) same ▸ other_mem
      rw [List.map_append, List.map_singleton, eraseDups_concat, eraseDups_concat, ih inj_before]
      simp only [seen_iff]
      split
      · rfl
      · rw [List.map_append, List.map_singleton]

/-- A variable as it is written in the other program. -/
def Variable.recast (recasting : Recasting) (entry : Variable) : Variable :=
  { entry with
    name := recasting.text entry.name
    value? := entry.value?.map recasting.text
    line := recasting.line entry.line }

namespace Names

variable {recasting : Recasting} {tokens : List Token} {initial : Char}

theorem occurrences_recast (recasting : Recasting) (tokens : List Token) :
    occurrences (tokens.map (·.recast recasting)) =
      (occurrences tokens).map (·.recast recasting) := by
  rw [occurrences, List.filter_map]
  rfl

/-- The rule on names judges the names of a stream as before. -/
def SameRule (initial : Char) (recasting : Recasting) (tokens : List Token) : Prop :=
  ∀ token ∈ occurrences tokens,
    isWellNamed initial (recasting.text token.text) = isWellNamed initial token.text

/-- The table of a stream that is written differently lists the same variables. -/
theorem entries_table_recast (faithful : recasting.Faithful tokens)
    (rule : SameRule initial recasting tokens) {sighted : List Token}
    (names : ∀ sighting ∈ sighted, sighting ∈ occurrences tokens) :
    (table initial (sighted.map (·.recast recasting))).entries =
      (table initial sighted).entries.map (·.recast recasting) := by
  induction sighted using List.reverseRecOn with
  | nil => rfl
  | append_singleton sighted last ih =>
      have names_before : ∀ sighting ∈ sighted, sighting ∈ occurrences tokens :=
        fun sighting member => names sighting (List.mem_append_left _ member)
      have last_name := names last (by simp)
      obtain ⟨last_mem, last_kind⟩ := mem_occurrences_iff.mp last_name
      have variable_eq : variableOf initial (last.recast recasting) =
          (variableOf initial last).recast recasting := by
        simp [variableOf, Variable.sighted, Variable.recast, rule last last_name]
      have taken_iff : (variableOf initial (last.recast recasting)).name ∈
          (table initial (sighted.map (·.recast recasting))).names ↔
            (variableOf initial last).name ∈ (table initial sighted).names := by
        rw [mem_names_table, mem_names_table, List.map_map]
        refine ⟨fun seen => ?_, fun seen => ?_⟩
        · obtain ⟨other, other_mem, same⟩ := List.mem_map.mp seen
          obtain ⟨other_among, other_kind⟩ := mem_occurrences_iff.mp (names_before other other_mem)
          have text_eq := faithful.text_inj other other_among last last_mem
            (by simp [other_kind, last_kind]) same
          exact List.mem_map.mpr ⟨other, other_mem, text_eq⟩
        · obtain ⟨other, other_mem, same⟩ := List.mem_map.mp seen
          exact List.mem_map.mpr ⟨other, other_mem, congrArg recasting.text same⟩
      rw [List.map_append, List.map_singleton, table_concat, table_concat]
      by_cases taken : (variableOf initial last).name ∈ (table initial sighted).names
      · rw [SymbolTable.insert_of_mem taken, SymbolTable.insert_of_mem (taken_iff.mpr taken),
          ih names_before]
      · rw [SymbolTable.entries_insert_of_not_mem taken,
          SymbolTable.entries_insert_of_not_mem (mt taken_iff.mp taken), ih names_before,
          List.map_append, List.map_singleton, variable_eq]

theorem findings_recast (faithful : recasting.Faithful tokens)
    (rule : SameRule initial recasting tokens) :
    List.Forall₂ (Finding.Recast recasting) (findings initial (occurrences tokens))
      (findings initial ((occurrences tokens).map (·.recast recasting))) := by
  let offenders := (occurrences tokens).filter fun name => !isWellNamed initial name.text
  have offenders_eq : ((occurrences tokens).map (·.recast recasting)).filter
      (fun name => !isWellNamed initial name.text) = offenders.map (·.recast recasting) := by
    rw [List.filter_map]
    congr 1
    refine List.filter_congr fun name member => ?_
    simp [rule name member]
  have keys_eq : ((offenders.map (·.recast recasting)).map Token.key) =
      (offenders.map Token.key).map (Prod.map recasting.text recasting.line) := by
    rw [List.map_map, List.map_map]
    rfl
  have keys_inj : ∀ key ∈ offenders.map Token.key, ∀ other ∈ offenders.map Token.key,
      Prod.map recasting.text recasting.line key = Prod.map recasting.text recasting.line other →
        key = other := by
    intro key key_mem other other_mem same
    obtain ⟨token, token_mem, rfl⟩ := List.mem_map.mp key_mem
    obtain ⟨token', token'_mem, rfl⟩ := List.mem_map.mp other_mem
    obtain ⟨among, isName⟩ := mem_occurrences_iff.mp (List.mem_filter.mp token_mem).1
    obtain ⟨among', isName'⟩ := mem_occurrences_iff.mp (List.mem_filter.mp token'_mem).1
    exact (faithful.key_eq_iff among among' (by simp [isName, isName'])).mp same
  have findings_eq : ∀ sighted : List Token, findings initial sighted =
      (((sighted.filter fun name => !isWellNamed initial name.text).map Token.key).eraseDups).map
        fun key => (Cause.invalidName key.1 initial).onLine key.2 := fun _ => rfl
  rw [findings_eq, findings_eq, offenders_eq, keys_eq, eraseDups_map_of_inj keys_inj,
    List.map_map, List.forall₂_map_left_iff, List.forall₂_map_right_iff, List.forall₂_same]
  exact fun key _ => ⟨.invalidName key.1 initial, key.2, rfl, rfl⟩

end Names

/-- A report as it is written in the other program.  What is found on brackets belongs to no line,
and stays as it is. -/
structure Report.Recast (recasting : Recasting) (report other : Report) : Prop where
  symbols_eq : other.symbols = report.symbols.map (·.recast recasting)
  findings : List.Forall₂ (fun finding finding' =>
    if finding.code = .unbalancedSymbols then finding' = finding
    else finding.Recast recasting finding') report.findings other.findings
  brackets_eq : other.brackets = report.brackets
  controls_eq : other.controls = report.controls
  unused_eq : other.unused = report.unused

namespace Report

variable {recasting : Recasting} {tokens : List Token} {initial : Char}

theorem similar_sites (faithful : recasting.Faithful tokens) :
    List.Forall₂ (Site.Similar recasting tokens) (Site.all tokens)
      (Site.all (tokens.map (·.recast recasting))) := by
  rw [Site.all_recast, List.forall₂_map_right_iff, List.forall₂_same]
  exact fun site member => Site.similar_recast faithful (Site.within_of_mem_all member)

/-- Before the first token a walk knows as much of a stream as of a longer one, whatever the rule on
names is. -/
theorem similar_start (initial initial' : Char) {tokens others : List Token}
    (among : tokens.map (·.recast recasting) ⊆ others) :
    (walkAfter initial tokens 0).Similar recasting tokens (walkAfter initial' others 0) where
  symbols _ member isName :=
    Names.agrees_table (Names.text_mem_occurrences member isName)
      (Names.text_mem_occurrences (among (List.mem_map_of_mem member)) isName) initial initial'
  clashes _ _ _ := iff_of_false List.not_mem_nil List.not_mem_nil
  refused _ _ _ := iff_of_false List.not_mem_nil List.not_mem_nil
  scope_eq := rfl

/-- Behind the last token both walks know the same. -/
theorem similar_final (faithful : recasting.Faithful tokens) (initial : Char) :
    (walkAfter initial tokens tokens.length).Similar recasting tokens
      (walkAfter initial (tokens.map (·.recast recasting))
        (tokens.map (·.recast recasting)).length) := by
  rw [walkAfter_length, walkAfter_length]
  exact (similar_start initial initial (List.Subset.refl _)).run faithful (similar_sites faithful)

/-- Every variable is the name of a token. -/
theorem exists_name_of_mem_symbolsAfter {count : Nat} {entry : Variable}
    (listed : entry ∈ (symbolsAfter initial tokens count).entries) :
    ∃ token ∈ tokens, token.kind = .identifier ∧ token.text = entry.name := by
  obtain ⟨token, token_mem, same⟩ := List.mem_map.mp
    ((mem_names_symbolsAfter initial tokens).mp (List.mem_map_of_mem listed))
  obtain ⟨among, isName⟩ := Names.mem_occurrences_iff.mp token_mem
  exact ⟨token, among, isName, same⟩

theorem symbols_recast (faithful : recasting.Faithful tokens)
    (rule : Names.SameRule initial recasting tokens) :
    (ofTokens initial (tokens.map (·.recast recasting))).symbols =
      (ofTokens initial tokens).symbols.map (·.recast recasting) := by
  have names_eq : ∀ stream, Names.table initial (Names.sightings stream) =
      Names.table initial (Names.occurrences stream) := Names.table_sightings initial
  rw [symbols_ofTokens, symbols_ofTokens]
  refine SymbolTable.entries_eq_of_learned ?_ fun entry member => ?_
  · rw [← symbols_ofTokens, firstSight_symbols, names_eq, Names.occurrences_recast,
      Names.entries_table_recast faithful rule fun _ => id, ← names_eq, List.map_map, List.map_map]
    have sights := congrArg (List.map (Variable.recast recasting))
      (firstSight_symbols initial tokens)
    rw [List.map_map, List.map_map, symbols_ofTokens] at sights
    exact sights.symm
  · obtain ⟨entry, listed, rfl⟩ := List.mem_map.mp member
    have found := SymbolTable.lookup?_of_mem listed
    obtain ⟨token, among, isName, same⟩ := exists_name_of_mem_symbolsAfter listed
    have agrees := (similar_final faithful initial).symbols token among isName
    rw [SymbolTable.Agrees, same] at agrees
    exact agrees.trans (congrArg _ found)

/-- Findings that are not on brackets are written differently, and nothing else. -/
theorem forall₂_of_recast {group group' : List Finding}
    (recast : List.Forall₂ (Finding.Recast recasting) group group')
    (codes : ∀ finding ∈ group, finding.code ≠ .unbalancedSymbols) :
    List.Forall₂ (fun finding finding' =>
      if finding.code = .unbalancedSymbols then finding' = finding
      else finding.Recast recasting finding') group group' := by
  refine ((List.forall₂_and_left ..).mpr ⟨codes, recast⟩).imp fun finding finding' both => ?_
  rw [if_neg both.1]
  exact both.2

theorem undeclared_recast {symbols symbols' : SymbolTable}
    (entries_eq : symbols'.entries = symbols.entries.map (·.recast recasting)) :
    List.Forall₂ (Finding.Recast recasting) (undeclared symbols) (undeclared symbols') := by
  have kept_eq : symbols'.entries.filter (fun entry => !entry.declared) =
      (symbols.entries.filter fun entry => !entry.declared).map (·.recast recasting) := by
    rw [entries_eq, List.filter_map]
    rfl
  rw [undeclared, undeclared, kept_eq, List.map_map, List.forall₂_map_left_iff,
    List.forall₂_map_right_iff, List.forall₂_same]
  exact fun entry _ => ⟨.undeclaredUse entry.name, entry.line, rfl, rfl⟩

theorem unclosed_recast {tally tally' : Control.Tally}
    (balance_eq : tally'.balance = tally.balance)
    (lines : ∀ control, 0 < (tally.count control).outstanding → ∃ line,
      (tally.count control).firstLine? = some line ∧
        (tally'.count control).firstLine? = some (recasting.line line)) :
    List.Forall₂ (Finding.Recast recasting) (unclosed tally) (unclosed tally') := by
  rw [unclosed, unclosed, balance_eq, List.forall₂_map_left_iff, List.forall₂_map_right_iff,
    List.forall₂_same]
  intro balance member
  obtain ⟨listed, open_blocks⟩ := List.mem_filter.mp member
  obtain ⟨control, _, rfl⟩ := List.mem_map.mp listed
  have positive : 0 < (tally.count control).outstanding := by
    simpa [Control.Balance.isBalanced, Control.Tally.balance, Nat.pos_iff_ne_zero]
      using open_blocks
  obtain ⟨line, first_eq, first_eq'⟩ := lines control positive
  change Finding.Recast recasting
    ((Cause.unclosedControl control _).onLine ((tally.count control).firstLine?.getD 0))
    ((Cause.unclosedControl control _).onLine ((tally'.count control).firstLine?.getD 0))
  rw [first_eq, first_eq']
  exact ⟨.unclosedControl control _, line, rfl, rfl⟩

theorem tally_balance_recast (faithful : recasting.Faithful tokens) (initial : Char) :
    (tallyAfter initial (tokens.map (·.recast recasting))
        (tokens.map (·.recast recasting)).length).balance =
      (tallyAfter initial tokens tokens.length).balance := by
  funext control
  rw [tallyAfter_length, tallyAfter_length]
  exact Control.Tally.balance_of_similar (similar_sites faithful) control

theorem firstLine?_recast (faithful : recasting.Faithful tokens) (initial : Char)
    {control : Control}
    (open_blocks : 0 < ((tallyAfter initial tokens tokens.length).count control).outstanding) :
    ∃ line, ((tallyAfter initial tokens tokens.length).count control).firstLine? = some line ∧
      ((tallyAfter initial (tokens.map (·.recast recasting))
        (tokens.map (·.recast recasting)).length).count control).firstLine? =
          some (recasting.line line) := by
  obtain ⟨site, found, first_eq⟩ := exists_firstLine? open_blocks
  refine ⟨site.token.line, first_eq, ?_⟩
  rw [tallyAfter_length, Control.Tally.firstLine?_run, Control.Tally.count_empty,
    Control.Tally.firstLine?_of_similar (similar_sites faithful), found]
  rfl

theorem balance_recast (recasting : Recasting) (tokens : List Token) (bracket : Bracket) :
    bracket.balance (tokens.map (·.recast recasting)) = bracket.balance tokens := by
  rw [Bracket.balance, List.countP_map, List.countP_map]
  rfl

/-- The report on a stream that is written differently is the report on the stream, written
differently. -/
theorem recast_ofTokens (faithful : recasting.Faithful tokens)
    (rule : Names.SameRule initial recasting tokens) :
    (ofTokens initial tokens).Recast recasting
      (ofTokens initial (tokens.map (·.recast recasting))) := by
  have symbols_eq := symbols_recast faithful rule
  have tally_eq := tally_balance_recast faithful initial
  have brackets_eq : Bracket.all.map (·.balance (tokens.map (·.recast recasting))) =
      Bracket.all.map (·.balance tokens) :=
    List.map_congr_left fun bracket _ => balance_recast recasting tokens bracket
  have controls_eq : (ofTokens initial (tokens.map (·.recast recasting))).controls =
      (ofTokens initial tokens).controls := by
    rw [controls_ofTokens, controls_ofTokens, tally_eq]
  refine ⟨symbols_eq, ?_, brackets_eq, controls_eq, ?_⟩
  · rw [findings_ofTokens, findings_ofTokens, brackets_eq]
    iterate 4 apply List.rel_append
    · rw [Names.findings_sightings, Names.findings_sightings, Names.occurrences_recast]
      refine forall₂_of_recast (Names.findings_recast faithful rule) fun finding member => ?_
      simp [Names.code_of_mem_findings member]
    · refine forall₂_of_recast ((similar_start initial initial (List.Subset.refl _)).findings
        faithful (similar_sites faithful)) fun finding member same => ?_
      exact absurd (same ▸ Walk.code_of_mem_findings member) (by decide)
    · rw [symbols_ofTokens, symbols_ofTokens] at symbols_eq
      refine forall₂_of_recast (undeclared_recast symbols_eq) fun finding member => ?_
      simp [code_of_mem_undeclared member]
    · refine forall₂_of_recast (unclosed_recast tally_eq fun control =>
        firstLine?_recast faithful initial) fun finding member => ?_
      simp [code_of_mem_unclosed member]
    · refine List.forall₂_same.mpr fun finding member => ?_
      rw [if_pos (code_of_mem_unbalanced member)]
  · rw [unused_ofTokens, unused_ofTokens, controls_eq]

end Report
end NovaLint
