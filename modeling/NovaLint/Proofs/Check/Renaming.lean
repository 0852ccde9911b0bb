import NovaLint.Proofs.Check.Recast

/-!
# Other names and other lines

Exchanging the names of a program for others changes the report in its names only, and exchanging
its lines for others changes it in its lines only, whatever the order of the new lines is.  Both are
ways of writing the program differently; where the bytes of its tokens stand plays no part at all.
-/

namespace NovaLint

theorem Cause.subject?_recast (recasting : Recasting) (cause : Cause) :
    (cause.recast recasting).subject? = cause.subject?.map recasting.text := by
  cases cause <;> rfl

/-- Related members have the same images. -/
theorem map_eq_map_of_forall₂ {α β γ : Type} {related : α → β → Prop} {left : List α}
    {right : List β} {image : α → γ} {image' : β → γ} (all : List.Forall₂ related left right)
    (same : ∀ member ∈ left, ∀ other, related member other → image' other = image member) :
    right.map image' = left.map image := by
  induction all with
  | nil => rfl
  | cons here _ ih =>
      obtain ⟨same_here, same_later⟩ := List.forall_mem_cons.mp same
      rw [List.map_cons, List.map_cons, same_here _ here, ih same_later]

/-- The token under another name, if it is a name. -/
def Token.rename (rename : String → String) (token : Token) : Token :=
  if token.kind = .identifier then { token with text := rename token.text } else token

namespace Names

/-- The names of a stream are renamed, and other texts are left as they are. -/
def renameText (rename : String → String) (tokens : List Token) (text : String) : String :=
  if text ∈ (occurrences tokens).map (·.text) then rename text else text

/-- A renaming that is fit for a stream: other tokens are not spelled like names, different names
stay different, and the rule on names judges them as before. -/
structure Renames (initial : Char) (rename : String → String) (tokens : List Token) : Prop where
  apart : ∀ token ∈ tokens, token.kind ≠ .identifier →
    token.text ∉ (occurrences tokens).map (·.text)
  inj : ∀ name ∈ (occurrences tokens).map (·.text), ∀ other ∈ (occurrences tokens).map (·.text),
    rename name = rename other → name = other
  rule : ∀ name ∈ (occurrences tokens).map (·.text),
    [initial] <+: (rename name).toList ↔ [initial] <+: name.toList

/-- A renaming as a way of writing tokens. -/
def recasting (rename : String → String) (tokens : List Token) : Recasting :=
  ⟨renameText rename tokens, id, id⟩

namespace Renames

variable {initial : Char} {rename : String → String} {tokens : List Token}

theorem text_of_name (rename : String → String) {token : Token} (member : token ∈ tokens)
    (isName : token.kind = .identifier) :
    token.text ∈ (occurrences tokens).map (·.text) ∧
      renameText rename tokens token.text = rename token.text := by
  have occurs := text_mem_occurrences member isName
  exact ⟨occurs, if_pos occurs⟩

theorem map_rename_eq (renames : Renames initial rename tokens) :
    tokens.map (·.rename rename) = tokens.map (·.recast (recasting rename tokens)) := by
  refine List.map_congr_left fun token member => ?_
  unfold Token.rename
  split
  · next isName =>
      rw [← (text_of_name rename member isName).2]
      rfl
  · next other =>
      have kept : renameText rename tokens token.text = token.text :=
        if_neg (renames.apart token member other)
      simp [Token.recast, recasting, kept]

theorem faithful (renames : Renames initial rename tokens) :
    (recasting rename tokens).Faithful tokens where
  text_inj token member other other_mem alike same := by
    change renameText rename tokens token.text = renameText rename tokens other.text at same
    by_cases isName : token.kind = .identifier
    · obtain ⟨occurs, text_eq⟩ := text_of_name rename member isName
      obtain ⟨occurs', text_eq'⟩ := text_of_name rename other_mem (alike.mp isName)
      rw [text_eq, text_eq'] at same
      exact renames.inj _ occurs _ occurs' same
    · rw [renameText, renameText, if_neg (renames.apart token member isName),
        if_neg (renames.apart other other_mem (mt alike.mpr isName))] at same
      exact same
  line_inj _ _ _ _ := id

theorem sameRule (renames : Renames initial rename tokens) :
    SameRule initial (recasting rename tokens) tokens := by
  intro token occurs
  obtain ⟨member, isName⟩ := mem_occurrences_iff.mp occurs
  obtain ⟨occurs_text, text_eq⟩ := text_of_name rename member isName
  rw [isWellNamed_eq, isWellNamed_eq]
  change decide ([initial] <+: (renameText rename tokens token.text).toList) = _
  rw [text_eq]
  exact decide_eq_decide.mpr (renames.rule _ occurs_text)

end Renames
end Names

namespace Report

open Names

variable {initial : Char} {rename : String → String} {tokens : List Token}

/-- Renaming the names of a program renames the names of its report, and changes nothing else. -/
theorem report_renamed (renames : Renames initial rename tokens) :
    let report := ofTokens initial tokens
    let renamed := ofTokens initial (tokens.map (·.rename rename))
    renamed.symbols = report.symbols.map (fun entry =>
        { entry with
          name := rename entry.name
          value? := entry.value?.map (renameText rename tokens) }) ∧
      renamed.findings.map (fun finding => (finding.code, finding.line, finding.subject?)) =
        report.findings.map (fun finding =>
          (finding.code, finding.line, finding.subject?.map rename)) ∧
      renamed.brackets = report.brackets ∧
      renamed.controls = report.controls ∧
      renamed.unused = report.unused := by
  intro report renamed
  have recast : report.Recast (recasting rename tokens) renamed := by
    have written := recast_ofTokens renames.faithful renames.sameRule
    rw [← renames.map_rename_eq] at written
    exact written
  have name_of_mem : ∀ name ∈ report.symbols.map (·.name),
      renameText rename tokens name = rename name := by
    intro name member
    rw [names_ofTokens, table_sightings, mem_names_table] at member
    exact if_pos member
  refine ⟨?_, ?_, recast.brackets_eq, recast.controls_eq, recast.unused_eq⟩
  · rw [recast.symbols_eq]
    refine List.map_congr_left fun entry member => ?_
    have name_eq := name_of_mem entry.name (List.mem_map_of_mem member)
    simp [Variable.recast, recasting, name_eq]
  · refine map_eq_map_of_forall₂ recast.findings fun finding member finding' here => ?_
    split at here
    · next onBrackets =>
        obtain ⟨cause, from_cause⟩ := exists_cause_of_mem_findings initial tokens member
        have about_none : finding.subject? = none := by
          rw [from_cause, ← Option.not_isSome_iff_eq_none]
          change ¬ cause.subject?.isSome
          rw [cause.isSome_subject?_iff]
          change ¬ (cause.onLine finding.line).code ∈ _
          rw [← from_cause, onBrackets]
          decide
        rw [here, about_none, Option.map_none]
    · obtain ⟨cause, line, rfl, rfl⟩ := here
      have subject_eq : cause.subject?.map (renameText rename tokens) =
          cause.subject?.map rename := by
        cases subject : cause.subject? with
        | none => rfl
        | some name =>
            rw [Option.map_some, Option.map_some,
              name_of_mem name (subject_mem_of_mem_findings initial tokens member subject)]
      change ((cause.recast _).code, line, (cause.recast _).subject?) =
        (cause.code, line, cause.subject?.map rename)
      rw [Cause.code_recast, Cause.subject?_recast, ← subject_eq]
      rfl

/-- Exchange two names. -/
def exchange (name other text : String) : String :=
  if text = name then other else if text = other then name else text

theorem report_renamed_exchanged :
    Renames '_' (exchange "_a" "_b") (tokenize "int _a = 1; _b = _a;") ∧
      (ofTokens '_' ((tokenize "int _a = 1; _b = _a;").map
        (·.rename (exchange "_a" "_b")))).symbols =
          [⟨"_b", .integer, some "1", 1, true, true⟩, ⟨"_a", .unknown, none, 1, false, true⟩] := by
  have renames : Renames '_' (exchange "_a" "_b") (tokenize "int _a = 1; _b = _a;") :=
    ⟨by decide +kernel, by decide +kernel, by decide +kernel⟩
  refine ⟨renames, (report_renamed renames).1.trans ?_⟩
  decide +kernel

end Report

/-- Two tokens differ in their lines and spans only, and the line of the second one is told by the
line of the first. -/
structure Token.Relined (line : Nat → Nat) (token other : Token) : Prop where
  kind_eq : other.kind = token.kind
  text_eq : other.text = token.text
  line_eq : other.line = line token.line

namespace Report

/-- The report with other lines.  What is found on brackets belongs to no line. -/
def reline (line : Nat → Nat) (report : Report) : Report :=
  { report with
    symbols := report.symbols.map fun entry => { entry with line := line entry.line }
    findings := report.findings.map fun finding =>
      if finding.code = .unbalancedSymbols then finding
      else { finding with line := line finding.line } }

theorem reline_id (report : Report) : report.reline id = report := by
  simp [reline]

/-- A report that is written with the same texts differs in its lines only. -/
theorem Recast.eq_reline {recasting : Recasting} {report other : Report}
    (recast : report.Recast recasting other) (same : recasting.text = id) :
    other = report.reline recasting.line := by
  have symbols_eq : other.symbols = (report.reline recasting.line).symbols := by
    rw [recast.symbols_eq]
    exact List.map_congr_left fun entry _ => by simp [Variable.recast, same]
  have findings_eq : other.findings = (report.reline recasting.line).findings := by
    rw [← List.map_id other.findings]
    refine map_eq_map_of_forall₂ recast.findings fun finding _ finding' here => ?_
    split at here
    · next onBrackets => rw [if_pos onBrackets, id, here]
    · next offBrackets =>
        obtain ⟨cause, line, rfl, rfl⟩ := here
        rw [if_neg offBrackets, Cause.recast_of_text same]
        rfl
  obtain ⟨symbols, findings, brackets, controls, unused⟩ := other
  obtain ⟨_, _, brackets_eq, controls_eq, unused_eq⟩ := recast
  simp_all [reline]

variable {initial : Char} {line : Nat → Nat} {tokens others : List Token}

/-- Exchanging the lines of a program exchanges the lines of its report, and changes nothing else;
spans play no part. -/
theorem report_relined (initial : Char)
    (relined : List.Forall₂ (Token.Relined line) tokens others)
    (inj : ∀ token ∈ tokens, ∀ other ∈ tokens,
      line token.line = line other.line → token.line = other.line) :
    ofTokens initial others = (ofTokens initial tokens).reline line ∧
      ∀ finding ∈ (ofTokens initial others).findings,
        finding.code = .unbalancedSymbols → finding.line = 0 := by
  -- Both streams lose their spans, after which they are the same one.
  let spanless : Recasting := ⟨id, id, fun _ => ⟨0, 0⟩⟩
  let renumbered : Recasting := ⟨id, line, fun _ => ⟨0, 0⟩⟩
  have spanless_faithful : spanless.Faithful others :=
    ⟨fun _ _ _ _ _ => id, fun _ _ _ _ => id⟩
  have renumbered_faithful : renumbered.Faithful tokens := ⟨fun _ _ _ _ _ => id, inj⟩
  have streams_eq : others.map (·.recast spanless) = tokens.map (·.recast renumbered) :=
    map_eq_map_of_forall₂ relined fun token _ other here => by
      simp [Token.recast, spanless, renumbered, here.kind_eq, here.text_eq, here.line_eq]
  have without_spans : ofTokens initial (others.map (·.recast spanless)) =
      (ofTokens initial others).reline id :=
    (recast_ofTokens spanless_faithful fun _ _ => rfl).eq_reline rfl
  have with_lines : ofTokens initial (tokens.map (·.recast renumbered)) =
      (ofTokens initial tokens).reline line :=
    (recast_ofTokens renumbered_faithful fun _ _ => rfl).eq_reline rfl
  rw [reline_id, streams_eq] at without_spans
  refine ⟨without_spans.symm.trans with_lines, fun finding member onBrackets => ?_⟩
  have line_eq := line_of_mem_findings member
  rwa [if_pos onBrackets] at line_eq

/-- The first nine lines in the opposite order, without spans. -/
def upward : Recasting := ⟨id, (10 - ·), fun _ => ⟨0, 0⟩⟩

theorem report_relined_upward :
    List.Forall₂ (Token.Relined upward.line) (tokenize "int _a = (1;\nb = 2;")
        ((tokenize "int _a = (1;\nb = 2;").map (·.recast upward)) ∧
      (∀ token ∈ tokenize "int _a = (1;\nb = 2;", ∀ other ∈ tokenize "int _a = (1;\nb = 2;",
        upward.line token.line = upward.line other.line → token.line = other.line) ∧
      (ofTokens '_' ((tokenize "int _a = (1;\nb = 2;").map (·.recast upward))).findings.map
        (fun finding => (finding.code, finding.line)) =
          [(.invalidName, 8), (.undeclaredUse, 8), (.unbalancedSymbols, 0)] := by
  have relined : List.Forall₂ (Token.Relined upward.line) (tokenize "int _a = (1;\nb = 2;")
      ((tokenize "int _a = (1;\nb = 2;").map (·.recast upward)) :=
    List.forall₂_map_right_iff.mpr (List.forall₂_same.mpr fun _ _ => ⟨rfl, rfl, rfl⟩)
  have inj : ∀ token ∈ tokenize "int _a = (1;\nb = 2;",
      ∀ other ∈ tokenize "int _a = (1;\nb = 2;",
        upward.line token.line = upward.line other.line → token.line = other.line := by
    decide +kernel
  refine ⟨relined, inj, ?_⟩
  rw [(report_relined '_' relined inj).1]
  decide +kernel

end Report
end NovaLint
