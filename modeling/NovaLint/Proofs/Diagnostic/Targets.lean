import NovaLint.CommandLine.Run
import NovaLint.Proofs.Check.Lines
import NovaLint.Proofs.Statement.LineByLine
import NovaLint.Proofs.Text.LineSpans
import NovaLint.Proofs.Token.Tiling

/-!
# Diagnostics hit their targets

The line of a token is counted by the scanner on its way, the lines of a file are cut when the file
is added, and both count line feeds.  So a line that is known from a token is a line of the file,
and the label on it holds the token.  Every diagnostic is about a token or about the line of one,
but for those on brackets, which have no label.
-/

namespace NovaLint

/-- The bytes are those of the line with a number, and the tokens of that number lie within them. -/
structure Text.HoldsLine (source : String) (number : Nat) (span : Span) : Prop where
  /-- The bytes are those of the line. -/
  isLine : IsLine source number span
  /-- All tokens of the line lie within. -/
  holds : ∀ token ∈ tokenize source, token.line = number → token.span.Within span

/-- The file has the line of every token of its text. -/
theorem SourceFile.exists_holdsLine (name : String) {source : String} {token : Token}
    (member : token ∈ tokenize source) :
    ∃ span, (ofText name source).lineSpan? token.line = some span ∧
      Text.HoldsLine source token.line span := by
  have tiles := tiles_tokenize source
  obtain ⟨front, back, source_eq, start_eq, _⟩ := tiles.slice token member
  have front_of : front <+: source.toList := ⟨_, source_eq.symm⟩
  rw [tiles.line token member front front_of start_eq]
  obtain ⟨span, found, isLine⟩ := exists_isLine name source front_of
  refine ⟨span, found, isLine, fun other other_mem same_line => ?_⟩
  refine isLine.within (tiles.slice other other_mem) (tiles.one_line other other_mem) ?_
  intro before before_of before_eq
  rw [← same_line, tiles.line other other_mem before before_of before_eq]

theorem TokenLines.exists_line_of_mem_verdicts {source : String} {verdict : Verdict}
    (member : verdict ∈ (ofTokens (tokenize source)).verdicts) :
    ∃ token ∈ tokenize source, token.line = verdict.line := by
  obtain ⟨entry, entry_mem, rfl⟩ := List.mem_map.mp member
  rw [entries_tokenize] at entry_mem
  obtain ⟨line, line_mem, found⟩ := List.mem_filterMap.mp entry_mem
  obtain ⟨nonempty, rfl⟩ := Text.Line.group?_eq_some_iff.mp found
  obtain ⟨token, token_mem⟩ := List.exists_mem_of_ne_nil _ nonempty
  refine ⟨token, ?_, Text.Line.line_of_mem_tokens token_mem⟩
  rw [tokenize_eq_flatMap]
  exact List.mem_flatMap.mpr ⟨line, line_mem, token_mem⟩

namespace Diagnostic

/-- A diagnostic has one label, on some bytes of the only file, and nothing else to say. -/
structure PointsAt (diagnostic : Diagnostic) (source : String) (span : Text.Span)
    (message : String) : Prop where
  /-- The label. -/
  label?_eq : diagnostic.label? = some ⟨0, span, message⟩
  /-- There are no notes. -/
  notes_eq : diagnostic.notes = []
  /-- The bytes are bytes of the text. -/
  stop_le : span.stop ≤ source.utf8ByteSize

/-- A diagnostic points at the line with a number. -/
def PointsAtLine (diagnostic : Diagnostic) (source : String) (number : Nat) (message : String) :
    Prop :=
  ∃ span, Text.HoldsLine source number span ∧ diagnostic.PointsAt source span message

theorem pointsAt_ofToken {source : String} {token : Token} (member : token ∈ tokenize source) :
    (ofToken 0 token).PointsAt source token.span s!"unrecognized character '{token.text}'" ∧
      ∃ line, Text.HoldsLine source token.line line ∧ token.span.Within line := by
  obtain ⟨line, _, holdsLine⟩ := SourceFile.exists_holdsLine "" member
  have within := holdsLine.holds token member rfl
  exact ⟨⟨rfl, rfl, within.2.trans holdsLine.isLine.stop_le⟩, line, holdsLine, within⟩

theorem pointsAtLine_onLine (name : String) {source : String} {number : Nat}
    (occupied : ∃ token ∈ tokenize source, token.line = number) (code? : Option String)
    (title message : String) :
    (onLine ⟨[.ofText name source]⟩ 0 number code? title message).PointsAtLine source number
      message := by
  obtain ⟨token, member, rfl⟩ := occupied
  obtain ⟨span, found, holdsLine⟩ := SourceFile.exists_holdsLine name member
  have found_in : Sources.lineSpan? ⟨[.ofText name source]⟩ 0 token.line = some span := found
  refine ⟨span, holdsLine, ?_, ?_, holdsLine.isLine.stop_le⟩
  · rw [onLine, found_in]
  · rw [onLine, found_in]

end Diagnostic

/-- The diagnostics of a run are about the input file alone.  Each is made for one error, in order.
A character that starts no token is labelled itself, what is wrong with a line is labelled on that
very line and on all its tokens, and only what is wrong with the brackets is a note. -/
theorem CommandLine.Options.diagnostics_hit (options : Options) (source : String) :
    let analysis := Analysis.ofSource options.initial source
    let (sources, diagnostics) := options.diagnostics source analysis
    sources = ⟨[.ofText options.input source]⟩ ∧
    ∃ lexical syntactic semantic, diagnostics = lexical ++ syntactic ++ semantic ∧
      List.Forall₂ (fun token diagnostic =>
        diagnostic.PointsAt source token.span s!"unrecognized character '{token.text}'" ∧
          ∃ line, Text.HoldsLine source token.line line ∧ token.span.Within line)
        analysis.lexicalErrors lexical ∧
      List.Forall₂ (fun verdict diagnostic =>
        diagnostic.PointsAtLine source verdict.line (verdict.message?.getD ""))
        analysis.invalidLines syntactic ∧
      List.Forall₂ (fun finding diagnostic =>
        if finding.code = .unbalancedSymbols then
          diagnostic.label? = none ∧ diagnostic.notes = [finding.message]
        else diagnostic.PointsAtLine source finding.line finding.message)
        analysis.report.findings semantic := by
  refine ⟨rfl, _, _, _, rfl, ?_, ?_, ?_⟩ <;> rw [List.forall₂_map_right_iff, List.forall₂_same]
  · intro token member
    exact Diagnostic.pointsAt_ofToken (List.mem_filter.mp member).1
  · intro verdict member
    have occupied := TokenLines.exists_line_of_mem_verdicts (List.mem_filter.mp member).1
    exact Diagnostic.pointsAtLine_onLine options.input occupied ..
  · intro finding member
    have placed := Report.line_of_mem_findings member
    split at placed
    · next brackets =>
        rw [if_pos brackets, Diagnostic.ofFinding, placed]
        exact ⟨rfl, rfl⟩
    · next not_brackets =>
        rw [if_neg not_brackets]
        exact Diagnostic.pointsAtLine_onLine options.input placed ..

end NovaLint
