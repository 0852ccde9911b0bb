import NovaLint.CommandLine.Run
import NovaLint.Proofs.CommandLine.Writing

/-!
# How a run ends

A run asks twice whether anything is wrong: the list of diagnostics is empty or not, and the
analysis is clean or not.  Both agree, so a run that prints no diagnostics succeeds unless an export
fails, and an export is refused only with a number of errors that is not zero.  A run changes
nothing but the file it exports to, and that only where nothing is wrong.
-/

namespace NovaLint

namespace Analysis

variable (analysis : Analysis)

/-- Number of things that are wrong. -/
def errorCount : Nat :=
  analysis.lexicalErrors.length + analysis.invalidLines.length + analysis.report.findings.length

theorem errorCount_eq_zero_iff : analysis.errorCount = 0 ↔ analysis.isClean := by
  simp [errorCount, isClean, hasLexicalErrors, Report.hasFindings, Nat.add_eq_zero_iff]

theorem length_ofAnalysis (sources : Sources) (file : Nat) :
    (Diagnostic.ofAnalysis sources file analysis).length = analysis.errorCount := by
  simp [Diagnostic.ofAnalysis, errorCount, Nat.add_assoc]

end Analysis

namespace CommandLine

/-- What is printed and how the run ends, if the write that is planned has some fate. -/
def Plan.outcome (plan : Plan) (fate : Except FileError Unit) : Output :=
  match plan.export? with
  | none => plan.output
  | some file => file.complete plan.output fate

namespace Options

variable {options : Options} {input : Except FileError String} {source path content : String}

/-- The analysis of a source text under the options. -/
def analysis (options : Options) (source : String) : Analysis :=
  .ofSource options.initial source

/-- The diagnostics that are printed for a source text. -/
def errors (options : Options) (source : String) : List Diagnostic :=
  (options.diagnostics source (options.analysis source)).2

/-- The input could be read and the settings are accepted, so its text is checked. -/
structure Checks (options : Options) (input : Except FileError String) (source : String) :
    Prop where
  /-- The text was read. -/
  readable : input = .ok source
  /-- Names may have to start with the character that was chosen. -/
  accepted : options.settings.refusal? = none

/-- An export was asked for, and nothing is wrong with the text that is exported. -/
structure Exports (options : Options) (input : Except FileError String) (path content : String) :
    Prop where
  /-- The path was given. -/
  asked : options.exportPath? = some path
  /-- A clean text was checked, and its tokens are exported by line. -/
  clean : ∃ source, options.Checks input source ∧ (options.analysis source).isClean ∧
    content = (options.analysis source).lines.exported

/-- What is told of the stages and the errors of a text. -/
def printed (options : Options) (source : String) : String :=
  options.progress (options.analysis source) ++
    Diagnostic.texts (options.diagnostics source (options.analysis source)).1
      (options.errors source)

/-- Why a text is not exported. -/
def refusal (options : Options) (source : String) : Failure :=
  .exporting
    s!"{(options.analysis source).errorCount} error(s) found, fix them before exporting tokens"

/-- How a run ends, given what became of reading its input and of writing its export. -/
structure Ends (options : Options) (input : Except FileError String)
    (fate : Except FileError Unit) (output : Output) : Prop where
  /-- The exit status tells success or failure. -/
  status : output.exit = 0 ∨ output.exit = 1
  /-- A run succeeds if a text was checked, no diagnostics were made, and an export was written if
  one was asked for. -/
  success : output.exit = 0 ↔
    ∃ source, options.Checks input source ∧ options.errors source = [] ∧
      (options.exportPath?.isSome → fate = .ok ())
  /-- Whoever is refused an export is told the number of errors, which is not zero. -/
  refusal : ∀ source, options.Checks input source → options.errors source ≠ [] →
    options.exportPath?.isSome →
      (options.analysis source).errorCount ≠ 0 ∧
      output.stderr = options.printed source ++ "error: Export refused: " ++
        toString (options.analysis source).errorCount ++
        " error(s) found, fix them before exporting tokens\n"
  /-- A run that checks nothing prints nothing. -/
  silent : (¬ ∃ source, options.Checks input source) → output.stdout = ""

/-- The line that tells why a text is not exported, in words. -/
theorem errorLine_refusal (options : Options) (source : String) :
    errorLine (options.refusal source).text =
      "error: Export refused: " ++ toString (options.analysis source).errorCount ++
        " error(s) found, fix them before exporting tokens\n" := by
  have front : "error: Export refused: " = "error: " ++ "Export refused: " := by decide
  have back : " error(s) found, fix them before exporting tokens\n" =
      " error(s) found, fix them before exporting tokens" ++ "\n" := by decide
  change "error: " ++ ("Export refused: " ++ (toString (options.analysis source).errorCount ++
    " error(s) found, fix them before exporting tokens")) ++ "\n" = _
  rw [front, back]
  simp only [String.append_assoc]

theorem length_errors (options : Options) (source : String) :
    (options.errors source).length = (options.analysis source).errorCount :=
  Analysis.length_ofAnalysis ..

theorem errors_eq_nil_iff (options : Options) (source : String) :
    options.errors source = [] ↔ (options.analysis source).isClean := by
  rw [← Analysis.errorCount_eq_zero_iff, ← length_errors, List.length_eq_zero_iff]

/-- All that can be planned for an input. -/
inductive Plans (options : Options) (input : Except FileError String) : Plan → Prop
  /-- Nothing is checked. -/
  | nothing {message : String} (unchecked : ¬ ∃ source, options.Checks input source) :
      Plans options input (.failed message)
  /-- Everything is printed, and no export was asked for. -/
  | printing {source : String} (checks : options.Checks input source)
      (not_asked : options.exportPath? = none) :
      Plans options input
        ⟨⟨options.sections (options.analysis source), options.printed source,
          if (options.analysis source).isClean then 0 else 1⟩, none⟩
  /-- Everything is printed, and the export that was asked for is refused. -/
  | refusing {source path : String} (checks : options.Checks input source)
      (asked : options.exportPath? = some path) (faulty : ¬ (options.analysis source).isClean) :
      Plans options input
        ⟨⟨options.sections (options.analysis source),
          options.printed source ++ errorLine (options.refusal source).text, 1⟩, none⟩
  /-- Everything is printed, and a clean text is exported. -/
  | exporting {source path : String} (checks : options.Checks input source)
      (asked : options.exportPath? = some path) (clean : (options.analysis source).isClean) :
      Plans options input
        ⟨⟨options.sections (options.analysis source), options.printed source, 0⟩,
          some ⟨path, (options.analysis source).lines.exported,
            options.announce s!"Tokens exported to {path}"⟩⟩

/-- A text that is checked is planned for by its analysis. -/
theorem plans_planFor (checks : options.Checks input source) :
    options.Plans input (options.planFor source) := by
  rw [planFor]
  cases asked : options.exportPath? with
  | none => exact .printing checks asked
  | some path =>
      cases clean : (options.analysis source).isClean with
      | true =>
          rw [analysis] at clean
          simp only [clean]
          exact .exporting checks asked clean
      | false =>
          have refused := Plans.refusing checks asked (Bool.not_eq_true _ ▸ clean)
          rw [refusal, ← length_errors] at refused
          rw [analysis] at clean
          simp only [clean]
          exact refused

/-- Every plan is one of these. -/
theorem plans (options : Options) (input : Except FileError String) :
    options.Plans input (options.plan input) := by
  cases input with
  | error error => exact .nothing fun ⟨_, checks⟩ => nomatch checks.readable
  | ok source =>
      cases refused : options.settings.refusal? with
      | none =>
          rw [plan, Settings.check, refused]
          exact plans_planFor ⟨rfl, refused⟩
      | some refusal =>
          rw [plan, Settings.check, refused]
          apply Plans.nothing
          rintro ⟨_, checks⟩
          cases refused.symm.trans checks.accepted

theorem Checks.unique {other : String} (checks : options.Checks input source)
    (checks' : options.Checks input other) : other = source :=
  Except.ok.inj (checks'.readable.symm.trans checks.readable)

theorem Checks.exists_and_iff {holds : String → Prop} (checks : options.Checks input source) :
    (∃ other, options.Checks input other ∧ holds other) ↔ holds source := by
  constructor
  · rintro ⟨other, checks', held⟩
    exact checks.unique checks' ▸ held
  · exact fun held => ⟨source, checks, held⟩

/-- Whatever becomes of its input and of its export, a run ends as it should. -/
theorem Plans.ends {plan : Plan} (plans : options.Plans input plan)
    (fate : Except FileError Unit) : options.Ends input fate (plan.outcome fate) := by
  cases plans with
  | nothing unchecked =>
      constructor
      case status => exact .inr rfl
      case success =>
        refine iff_of_false Nat.one_ne_zero ?_
        rintro ⟨source, checks, _⟩
        exact unchecked ⟨source, checks⟩
      case refusal => exact fun source checks => absurd ⟨source, checks⟩ unchecked
      case silent => exact fun _ => rfl
  | printing checks not_asked =>
      constructor
      case status =>
        dsimp only [Plan.outcome]
        split
        · exact .inl rfl
        · exact .inr rfl
      case success =>
        rw [checks.exists_and_iff, errors_eq_nil_iff, not_asked]
        simp [Plan.outcome]
      case refusal => exact fun _ _ _ asked => by simp [not_asked] at asked
      case silent => exact fun unchecked => absurd ⟨_, checks⟩ unchecked
  | refusing checks asked faulty =>
      constructor
      case status => exact .inr rfl
      case success =>
        rw [checks.exists_and_iff, errors_eq_nil_iff]
        exact iff_of_false Nat.one_ne_zero fun conditions => faulty conditions.1
      case refusal =>
        intro other checks' _ _
        obtain rfl := checks.unique checks'
        refine ⟨mt (Analysis.errorCount_eq_zero_iff _).mp faulty, ?_⟩
        change options.printed other ++ errorLine (options.refusal other).text = _
        rw [errorLine_refusal, String.append_assoc, String.append_assoc, String.append_assoc]
      case silent => exact fun unchecked => absurd ⟨_, checks⟩ unchecked
  | exporting checks asked clean =>
      constructor
      case status =>
        cases fate with
        | ok written => exact .inl rfl
        | error error => exact .inr rfl
      case success =>
        rw [checks.exists_and_iff, errors_eq_nil_iff, asked]
        cases fate with
        | ok written => simp [Plan.outcome, Export.complete, clean]
        | error error => simp [Plan.outcome, Export.complete]
      case refusal =>
        intro other checks' found _
        obtain rfl := checks.unique checks'
        exact absurd ((errors_eq_nil_iff options other).mpr clean) found
      case silent => exact fun unchecked => absurd ⟨_, checks⟩ unchecked

/-- An export is planned where one was asked for and nothing is wrong, and nowhere else. -/
theorem Plans.export?_eq_some_iff {plan : Plan} (plans : options.Plans input plan) :
    (∃ notice, plan.export? = some ⟨path, content, notice⟩) ↔
      options.Exports input path content := by
  cases plans with
  | nothing unchecked =>
      refine iff_of_false (fun ⟨_, planned⟩ => nomatch planned) ?_
      rintro ⟨_, source, checks, _⟩
      exact unchecked ⟨source, checks⟩
  | printing checks not_asked =>
      refine iff_of_false (fun ⟨_, planned⟩ => nomatch planned) ?_
      rintro ⟨asked, _⟩
      cases not_asked.symm.trans asked
  | refusing checks asked faulty =>
      refine iff_of_false (fun ⟨_, planned⟩ => nomatch planned) ?_
      rintro ⟨_, other, checks', clean, _⟩
      exact faulty (checks.unique checks' ▸ clean)
  | exporting checks asked clean =>
      constructor
      · rintro ⟨notice, planned⟩
        cases planned
        exact ⟨asked, _, checks, clean, rfl⟩
      · rintro ⟨asked', other, checks', _, rfl⟩
        obtain rfl := checks.unique checks'
        obtain rfl := Option.some.inj (asked.symm.trans asked')
        exact ⟨_, rfl⟩

/-- What is printed and how a run ends, given what became of its input and of its export. -/
def output (options : Options) (input : Except FileError String) (fate : Except FileError Unit) :
    Output :=
  (options.plan input).outcome fate

end Options

/-- A small program. -/
def smallProgram : String := "int _a = 1;\n"

/-- A directory with nothing but the program in it. -/
def smallTree : FileTree := ⟨[(⟨.above 0, ["in"]⟩, .file smallProgram.toUTF8)]⟩

/-- Export the tokens of the program. -/
def smallOptions : Options := ⟨"in", [], '_', some "out"⟩

/-- There is room for the export. -/
theorem smallTree_writable (text : String) :
    ∃ after, smallTree.writeText "out" text = .ok after := by
  have reached : smallTree.follow (.ofText "out") = .ok ⟨.above 0, ["out"]⟩ := rfl
  have nothing_there : smallTree.node? ⟨.above 0, ["out"]⟩ = none := rfl
  refine ⟨_, FileTree.writeText_eq_ok_iff.mpr ⟨rfl, _, reached, ?_, rfl⟩⟩
  rw [nothing_there]
  exact (Option.some_ne_none _).symm

end CommandLine
end NovaLint
