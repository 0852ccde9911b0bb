import NovaLint.Proofs.Check.Declarations
import NovaLint.Proofs.Check.Lines
import NovaLint.Token.Cursor
import Mathlib.Data.List.Forall2

/-!
# The five groups of findings

The findings of a report come in five groups, one behind the other: names, the walk through the
program, names without a declaration, blocks that were never closed, and brackets.  The groups have
no class in common.  The first three follow the order of the tokens that they are about, so their
lines never decrease where those of the tokens do not.  The last two follow the order in which
reports list control structures and brackets.
-/

namespace NovaLint

section EraseDups

variable {α : Type} [BEq α] [LawfulBEq α]

theorem eraseDups_sublist (whole : List α) : whole.eraseDups.Sublist whole := by
  induction whole using List.reverseRecOn with
  | nil => exact List.Sublist.slnil
  | append_singleton whole last ih =>
      rw [eraseDups_concat]
      split
      · exact ih.trans (List.sublist_append_left whole [last])
      · exact ih.append (List.Sublist.refl [last])

end EraseDups

/-- The tokens stand in the order of their lines. -/
def LinesAscend (tokens : List Token) : Prop :=
  tokens.Pairwise fun earlier later => earlier.line ≤ later.line

instance : DecidablePred LinesAscend := fun tokens =>
  inferInstanceAs (Decidable (tokens.Pairwise _))

/-- The findings stand in the order of their lines. -/
def FindingsAscend (findings : List Finding) : Prop :=
  findings.Pairwise fun earlier later => earlier.line ≤ later.line

theorem findingsAscend_iff {findings : List Finding} :
    FindingsAscend findings ↔ (findings.map (·.line)).Pairwise (· ≤ ·) :=
  List.pairwise_map.symm

namespace Names

theorem linesAscend_occurrences {tokens : List Token} (ascend : LinesAscend tokens) :
    ((occurrences tokens).map (·.line)).Pairwise (· ≤ ·) :=
  List.pairwise_map.mpr (ascend.sublist List.filter_sublist)

theorem sublist_lines_findings (initial : Char) (sighted : List Token) :
    ((findings initial sighted).map (·.line)).Sublist (sighted.map (·.line)) := by
  let offenders := sighted.filter fun sighting => !isWellNamed initial sighting.text
  have lines_eq : (findings initial sighted).map (·.line) =
      ((offenders.map fun sighting => (sighting.text, sighting.line)).eraseDups).map (·.2) := by
    rw [findings, List.map_map]
    rfl
  have kept := (eraseDups_sublist
    (offenders.map fun sighting => (sighting.text, sighting.line))).map Prod.snd
  rw [List.map_map] at kept
  have among : (offenders.map (·.line)).Sublist (sighted.map (·.line)) :=
    List.filter_sublist.map Token.line
  rw [lines_eq]
  exact kept.trans among

theorem sublist_lines_table (initial : Char) (sighted : List Token) :
    ((table initial sighted).entries.map (·.line)).Sublist (sighted.map (·.line)) := by
  induction sighted using List.reverseRecOn with
  | nil => exact List.Sublist.slnil
  | append_singleton sighted last ih =>
      rw [table_concat, List.map_append]
      by_cases taken : (variableOf initial last).name ∈ (table initial sighted).names
      · rw [SymbolTable.insert_of_mem taken]
        exact ih.trans (List.sublist_append_left _ _)
      · rw [SymbolTable.entries_insert_of_not_mem taken, List.map_append]
        exact ih.append (List.Sublist.refl _)

theorem findingsAscend {initial : Char} {tokens : List Token} (ascend : LinesAscend tokens) :
    FindingsAscend (findings initial (sightings tokens)) := by
  rw [findingsAscend_iff, findings_sightings]
  exact (linesAscend_occurrences ascend).sublist (sublist_lines_findings initial _)

end Names

namespace Site

theorem map_token_allAfter (previous? : Option Token) (tokens : List Token) :
    (allAfter previous? tokens).map (·.token) = tokens := by
  induction tokens generalizing previous? with
  | nil => rfl
  | cons token rest ih => rw [allAfter, List.map_cons, ih]

end Site

namespace Walk

theorem line_of_mem_findingsAt {walk : Walk} {site : Site} {finding : Finding}
    (member : finding ∈ walk.findingsAt site) : finding.line = site.token.line := by
  obtain ⟨_, rfl⟩ := exists_cause_of_mem_findingsAt member
  rfl

/-- What is found on the way is found in the order of the places. -/
theorem findingsAscend {sites : List Site} (walk : Walk)
    (ascend : sites.Pairwise fun earlier later => earlier.token.line ≤ later.token.line) :
    FindingsAscend (walk.findings sites) := by
  induction sites generalizing walk with
  | nil => exact List.Pairwise.nil
  | cons site later ih =>
      obtain ⟨here_le, later_ascend⟩ := List.pairwise_cons.mp ascend
      refine List.pairwise_append.mpr ⟨?_, ih (walk.step site) later_ascend, ?_⟩
      · refine List.pairwise_of_forall_mem_list fun earlier first after second => ?_
        exact Nat.le_of_eq
          ((line_of_mem_findingsAt first).trans (line_of_mem_findingsAt second).symm)
      · intro earlier here after behind
        obtain ⟨other, other_mem, cause, rfl⟩ := exists_site_of_mem_findings behind
        rw [line_of_mem_findingsAt here]
        exact here_le other other_mem

end Walk

/-- The classes of findings that are about a name. -/
def FindingCode.aboutNames : List FindingCode :=
  [.invalidName, .redeclaration, .undeclaredUse, .incompatibleAssignment]

theorem Cause.isSome_subject?_iff (cause : Cause) :
    cause.subject?.isSome ↔ cause.code ∈ FindingCode.aboutNames := by
  cases cause <;> simp [subject?, code, FindingCode.aboutNames]

namespace Walk

variable {walk : Walk} {finding : Finding} {name : String}

theorem subject_mem_of_mem_redeclarations {site : Site}
    (member : finding ∈ walk.redeclarations site) (subject : finding.subject? = some name) :
    name ∈ walk.symbols.names := by
  unfold redeclarations at member
  split at member
  · split at member
    · next entry found =>
        split at member
        · obtain rfl := List.mem_singleton.mp member
          obtain rfl := Option.some.inj subject
          exact SymbolTable.mem_names_iff.mpr ⟨entry, found⟩
        · exact absurd member List.not_mem_nil
    · exact absurd member List.not_mem_nil
  · exact absurd member List.not_mem_nil

theorem subject_mem_of_mem_clashFindings {site : Site}
    (member : finding ∈ walk.clashFindings site) (subject : finding.subject? = some name) :
    name ∈ walk.symbols.names := by
  unfold clashFindings at member
  split at member
  · next clash =>
      split at member
      · exact absurd member List.not_mem_nil
      · obtain rfl := List.mem_singleton.mp member
        obtain rfl := Option.some.inj subject
        simp only [clash?, assignment?, Option.bind_eq_bind, Option.bind_eq_some_iff] at clash
        obtain ⟨_, ⟨_, _, entry, found, _⟩, _⟩ := clash
        exact SymbolTable.mem_names_iff.mpr ⟨entry, found⟩
  · exact absurd member List.not_mem_nil

theorem subject_mem_of_mem_findingsAt {site : Site} (member : finding ∈ walk.findingsAt site)
    (subject : finding.subject? = some name) : name ∈ walk.symbols.names := by
  have about : finding.code ∈ FindingCode.aboutNames := by
    obtain ⟨cause, rfl⟩ := exists_cause_of_mem_findingsAt member
    exact cause.isSome_subject?_iff.mp (Option.isSome_of_mem subject)
  simp only [findingsAt, List.mem_append, or_assoc] at member
  rcases member with found | found | found | found | found | found | found
  · exact subject_mem_of_mem_redeclarations found subject
  · exact subject_mem_of_mem_clashFindings found subject
  · exact absurd (code_of_mem_returnFindings found ▸ about) (by decide)
  · exact absurd (code_of_mem_operatorFindings found ▸ about) (by decide)
  · exact absurd (code_of_mem_operandFindings found ▸ about) (by decide)
  · exact absurd (code_of_mem_conditionFindings found ▸ about) (by decide)
  · exact absurd (code_of_mem_separatorFindings found ▸ about) (by decide)

theorem subject_mem_of_mem_findings {sites : List Site} (member : finding ∈ walk.findings sites)
    (subject : finding.subject? = some name) : name ∈ walk.symbols.names := by
  induction sites generalizing walk with
  | nil => exact absurd member List.not_mem_nil
  | cons site later ih =>
      rcases List.mem_append.mp member with here | behind
      · exact subject_mem_of_mem_findingsAt here subject
      · exact names_run walk [site] ▸ ih behind

end Walk

/-- The token at a place is the first of a stream that stands for a structure of the kind. -/
structure Control.FirstAt (tokens : List Token) (control : Control) (place : Nat) (token : Token) :
    Prop where
  /-- The token stands at the place. -/
  tokenAt : tokens[place]? = some token
  /-- It stands for a structure of the kind. -/
  occurs : control.occursAt tokens place
  /-- No token before does. -/
  first : ∀ earlier < place, ¬ control.occursAt tokens earlier

/-- A finding on the open blocks of a kind, on the line of the first structure of the kind. -/
def Control.ReportsUnclosed (tokens : List Token) (balance : Control.Balance)
    (finding : Finding) : Prop :=
  ∃ place token, balance.control.FirstAt tokens place token ∧
    finding = (Cause.unclosedControl balance.control balance.unclosed).onLine token.line

theorem Site.tokenAt_of_all {tokens : List Token} {place : Nat} {site : Site}
    (found : (all tokens)[place]? = some site) : tokens[place]? = some site.token := by
  rw [all, getElem?_allAfter] at found
  obtain ⟨token, token_at, rfl⟩ := Option.map_eq_some_iff.mp found
  exact token_at

theorem Site.occursAt_iff {tokens : List Token} {place : Nat} {site : Site}
    (found : (all tokens)[place]? = some site) (control : Control) :
    control.occursAt tokens place ↔ site.control? = some control := by
  rw [all, getElem?_allAfter] at found
  obtain ⟨token, token_at, rfl⟩ := Option.map_eq_some_iff.mp found
  exact (control?_eq_some_iff token_at control).symm

/-- The first place that stands for a kind holds the first token that does. -/
theorem Site.exists_firstAt {tokens : List Token} {control : Control} {site : Site}
    (found : (all tokens).find? (·.control? = some control) = some site) :
    ∃ place, control.FirstAt tokens place site.token := by
  obtain ⟨occurs, place, within, rfl, before⟩ := List.find?_eq_some_iff_getElem.mp found
  have here := List.getElem?_eq_getElem within
  refine ⟨place, tokenAt_of_all here, ?_, fun earlier earlier_lt => ?_⟩
  · exact (occursAt_iff here control).mpr (of_decide_eq_true occurs)
  · have earlier_at := List.getElem?_eq_getElem (Nat.lt_trans earlier_lt within)
    rw [occursAt_iff earlier_at control]
    simpa using before earlier earlier_lt

namespace Report

variable (initial : Char) (tokens : List Token)

/-- Each kind with open blocks is reported once, in the order of the kinds. -/
theorem reportsUnclosed :
    List.Forall₂ (Control.ReportsUnclosed tokens)
      ((ofTokens initial tokens).controls.filter fun balance => 0 < balance.unclosed)
      (unclosed (tallyAfter initial tokens tokens.length)) := by
  have kept : ∀ balance : Control.Balance, decide (0 < balance.unclosed) = !balance.isBalanced := by
    intro balance
    rw [Bool.eq_iff_iff]
    simp [Control.Balance.isBalanced, Nat.pos_iff_ne_zero]
  rw [controls_ofTokens, unclosed, List.forall₂_map_right_iff, List.filter_congr fun b _ => kept b,
    List.forall₂_same]
  intro balance member
  obtain ⟨listed, open_blocks⟩ := List.mem_filter.mp member
  obtain ⟨control, _, rfl⟩ := List.mem_map.mp listed
  rw [← kept, decide_eq_true_iff] at open_blocks
  obtain ⟨site, found, first_eq⟩ := exists_firstLine? open_blocks
  obtain ⟨place, firstAt⟩ := Site.exists_firstAt found
  refine ⟨place, site.token, firstAt, ?_⟩
  change Cause.onLine _
    (((tallyAfter initial tokens tokens.length).count control).firstLine?.getD 0) = _
  rw [first_eq, Option.getD_some]

theorem unbalanced_eq :
    unbalanced (Bracket.all.map (·.balance tokens)) =
      (Bracket.all.filter fun bracket =>
        (bracket.balance tokens).opened ≠ (bracket.balance tokens).closed).map fun bracket =>
          (Cause.unbalancedBrackets (bracket.balance tokens)).onLine 0 := by
  rw [unbalanced, List.filter_map, List.map_map]
  congr 1
  refine List.filter_congr fun bracket _ => ?_
  rw [Bool.eq_iff_iff]
  simp [Bracket.Balance.isBalanced]

theorem linesAscend_sites {tokens : List Token} (ascend : LinesAscend tokens) :
    (Site.all tokens).Pairwise fun earlier later => earlier.token.line ≤ later.token.line := by
  rw [LinesAscend, ← Site.map_token_allAfter none tokens, List.pairwise_map] at ascend
  exact ascend

theorem findingsAscend_undeclared {tokens : List Token} (ascend : LinesAscend tokens) :
    FindingsAscend (undeclared (symbolsAfter initial tokens tokens.length)) := by
  have lines_eq := congrArg (List.map Variable.line) (firstSight_symbols initial tokens)
  rw [List.map_map, List.map_map] at lines_eq
  have sighted : ((ofTokens initial tokens).symbols.map (·.line)).Sublist
      ((Names.occurrences tokens).map (·.line)) := by
    refine lines_eq ▸ ?_
    rw [Names.table_sightings]
    exact Names.sublist_lines_table initial (Names.occurrences tokens)
  have kept : ((undeclared (symbolsAfter initial tokens tokens.length)).map (·.line)).Sublist
      ((ofTokens initial tokens).symbols.map (·.line)) := by
    rw [undeclared, List.map_map, symbols_ofTokens]
    exact List.filter_sublist.map Variable.line
  rw [findingsAscend_iff]
  exact (Names.linesAscend_occurrences ascend).sublist (kept.trans sighted)

theorem nodup_subjects_undeclared (symbols : SymbolTable) :
    ((undeclared symbols).map (·.subject?)).Nodup := by
  have names_nodup := (List.filter_sublist (p := fun entry => !entry.declared)
    (l := symbols.entries)).map Variable.name |>.nodup symbols.distinct
  have subjects_eq : (undeclared symbols).map (·.subject?) =
      ((symbols.entries.filter fun entry => !entry.declared).map (·.name)).map some := by
    rw [undeclared, List.map_map, List.map_map]
    rfl
  rw [subjects_eq]
  exact List.Pairwise.map some (fun _ _ different same => different (Option.some.inj same))
    names_nodup

/-- Every finding has a cause. -/
theorem exists_cause_of_mem_findings {finding : Finding}
    (member : finding ∈ (ofTokens initial tokens).findings) :
    ∃ cause : Cause, finding = cause.onLine finding.line := by
  rw [findings_ofTokens] at member
  simp only [List.mem_append, or_assoc] at member
  rcases member with found | found | found | found | found
  · obtain ⟨_, _, rfl⟩ := List.mem_map.mp found
    exact ⟨_, rfl⟩
  · obtain ⟨_, _, cause, rfl⟩ := Walk.exists_site_of_mem_findings found
    exact ⟨cause, rfl⟩
  · obtain ⟨_, _, rfl⟩ := List.mem_map.mp found
    exact ⟨_, rfl⟩
  · obtain ⟨_, _, rfl⟩ := List.mem_map.mp found
    exact ⟨_, rfl⟩
  · obtain ⟨_, _, rfl⟩ := List.mem_map.mp found
    exact ⟨_, rfl⟩

theorem names_ofTokens :
    (ofTokens initial tokens).symbols.map (·.name) =
      (Names.table initial (Names.sightings tokens)).names :=
  Walk.names_run ..

/-- What a finding is about is a name of the program. -/
theorem subject_mem_of_mem_findings {finding : Finding} {name : String}
    (member : finding ∈ (ofTokens initial tokens).findings)
    (subject : finding.subject? = some name) :
    name ∈ (ofTokens initial tokens).symbols.map (·.name) := by
  rw [findings_ofTokens] at member
  simp only [List.mem_append, or_assoc] at member
  rcases member with found | found | found | found | found
  · obtain ⟨place, listed, rfl⟩ := List.mem_map.mp found
    obtain rfl := Option.some.inj subject
    obtain ⟨sighting, offending, rfl⟩ := List.mem_map.mp (List.mem_eraseDups.mp listed)
    rw [names_ofTokens, Names.mem_names_table]
    exact List.mem_map_of_mem (List.mem_filter.mp offending).1
  · rw [names_ofTokens]
    exact Walk.subject_mem_of_mem_findings found subject
  · obtain ⟨entry, kept, rfl⟩ := List.mem_map.mp found
    obtain rfl := Option.some.inj subject
    rw [symbols_ofTokens]
    exact List.mem_map_of_mem (List.mem_filter.mp kept).1
  · obtain ⟨_, _, rfl⟩ := List.mem_map.mp found
    cases subject
  · obtain ⟨_, _, rfl⟩ := List.mem_map.mp found
    cases subject

/-- A finding that is not on brackets stands on the line of a token. -/
theorem exists_line_of_mem_groups {tokens : List Token} {finding : Finding}
    (member : finding ∈ Names.findings initial (Names.sightings tokens) ++
      (walkAfter initial tokens 0).findings (Site.all tokens) ++
      undeclared (symbolsAfter initial tokens tokens.length) ++
      unclosed (tallyAfter initial tokens tokens.length)) :
    ∃ token ∈ tokens, token.line = finding.line := by
  simp only [List.mem_append, or_assoc] at member
  rcases member with found | found | found | found
  · exact Names.exists_line_of_mem_findings found
  · obtain ⟨site, site_mem, cause, rfl⟩ := Walk.exists_site_of_mem_findings found
    exact ⟨site.token, Site.token_mem_of_mem_all site_mem, rfl⟩
  · exact exists_line_of_mem_undeclared found
  · exact exists_line_of_mem_unclosed found

end Report

/-- The findings of a report, taken apart. -/
structure FindingGroups where
  /-- Names that break the rule on names. -/
  names : List Finding
  /-- What is found on the way through the program. -/
  walk : List Finding
  /-- Names without a declaration. -/
  undeclared : List Finding
  /-- Kinds of structures with blocks that were never closed. -/
  unclosed : List Finding
  /-- Families of brackets that do not balance. -/
  unbalanced : List Finding

/-- The findings of a report on a stream come in groups, and each group keeps to its classes, its
order and its lines. -/
structure FindingGroups.Cover (groups : FindingGroups) (tokens : List Token) (report : Report) :
    Prop where
  /-- The groups come one behind the other, and there is nothing else. -/
  findings_eq : report.findings =
    groups.names ++ groups.walk ++ groups.undeclared ++ groups.unclosed ++ groups.unbalanced
  code_names : ∀ finding ∈ groups.names, finding.code = .invalidName
  code_walk : ∀ finding ∈ groups.walk, finding.code ∈ Walk.codes
  code_undeclared : ∀ finding ∈ groups.undeclared, finding.code = .undeclaredUse
  /-- No variable is reported twice for want of a declaration. -/
  undeclared_once : (groups.undeclared.map (·.subject?)).Nodup
  /-- The kinds of structures are listed in their order. -/
  controls_eq : report.controls.map (·.control) = Control.all
  /-- Each kind with open blocks is reported once, where the kind first occurs. -/
  unclosed_each : List.Forall₂ (Control.ReportsUnclosed tokens)
    (report.controls.filter fun balance => 0 < balance.unclosed) groups.unclosed
  /-- Each family with unequal numbers is reported once, on no line. -/
  unbalanced_each : groups.unbalanced =
    (Bracket.all.filter fun bracket =>
      (bracket.balance tokens).opened ≠ (bracket.balance tokens).closed).map fun bracket =>
        (Cause.unbalancedBrackets (bracket.balance tokens)).onLine 0
  /-- The order of the text is kept. -/
  ascend : LinesAscend tokens →
    FindingsAscend groups.names ∧ FindingsAscend groups.walk ∧ FindingsAscend groups.undeclared
  /-- All groups but the last stand on lines of tokens. -/
  line_mem : ∀ finding ∈ groups.names ++ groups.walk ++ groups.undeclared ++ groups.unclosed,
    ∃ token ∈ tokens, token.line = finding.line
  /-- Four classes are about a name, and the others about none. -/
  subject_iff : ∀ finding ∈ report.findings,
    finding.subject?.isSome ↔ finding.code ∈ FindingCode.aboutNames
  /-- What a finding is about is a variable of the report. -/
  subject_mem : ∀ finding ∈ report.findings, ∀ name, finding.subject? = some name →
    name ∈ report.symbols.map (·.name)

namespace Report

/-- A text in which something of each group is wrong. -/
def wrongThroughout : String := "while (x\n\x7b\nint _a = 2.5;"

end Report
end NovaLint
