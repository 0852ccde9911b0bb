import NovaLint.CommandLine.Arguments
import NovaLint.CommandLine.FileTree
import NovaLint.Diagnostic.Snippet
import NovaLint.Listing
import NovaLint.Token.Dump

/-!
# A run of the program

A run reads one file, prints the tables that were asked for and the diagnostics, and may then write
one file, the export of the tokens.  `Options.plan` says from the content of the input all that is
printed and what is to be written; `Plan.complete` says from the fate of that write how the run
ends.  Nothing is written if anything is wrong with the program.
-/

namespace NovaLint
namespace CommandLine

/-- What a run leaves behind on the terminal. -/
structure Output where
  /-- The text on standard output. -/
  stdout : String
  /-- The text on standard error. -/
  stderr : String
  /-- The exit status: zero if nothing is wrong. -/
  exit : Nat
deriving DecidableEq, Repr

/-- A file to be written. -/
structure Export where
  /-- Where it is written. -/
  path : String
  /-- What it shall hold. -/
  content : String
  /-- What is said when it is written. -/
  notice : String
deriving DecidableEq, Repr

/-- What a run does after its input was read. -/
structure Plan where
  /-- What is printed. -/
  output : Output
  /-- The file to be written then. -/
  export? : Option Export
deriving DecidableEq, Repr

/-- A line that tells of a failure. -/
def errorLine (message : String) : String := "error: " ++ message ++ "\n"

/-- The plan of a run that fails before anything is checked. -/
def Plan.failed (message : String) : Plan :=
  { output := ⟨"", errorLine message, 1⟩, export? := none }

/-- The end of a run whose file could or could not be written. -/
def Export.complete (file : Export) (output : Output) : Except FileError Unit → Output
  | .ok () => { output with stderr := output.stderr ++ file.notice }
  | .error error =>
    { output with
      stderr := output.stderr ++ errorLine s!"cannot write {file.path}: {error.reason}"
      exit := 1 }

namespace Options

/-- A flag is set. -/
def has (options : Options) (flag : Flag) : Bool := options.flags.contains flag

/-- The settings that the options choose. -/
def settings (options : Options) : Settings :=
  { initial := options.initial
    dumpTokens := options.has .dumpTokens
    verbose := options.has .verbose }

/-- A line that is printed only if the stages are announced. -/
def announce (options : Options) (line : String) : String :=
  if options.has .verbose then line ++ "\n" else ""

/-- The tokens one by one, if they are to be dumped. -/
def dump (options : Options) (tokens : List Token) : String :=
  if options.has .dumpTokens then
    "=== Tokens ===\n" ++ String.join (tokens.map fun token => token.dump ++ "\n") ++
      "=== End Tokens ===\n\n"
  else ""

/-- What is told of the stages of an analysis. -/
def progress (options : Options) (analysis : Analysis) : String :=
  options.announce s!"Analyzing {options.input}" ++
    options.announce "Lexing..." ++
    options.dump analysis.tokens ++
    options.announce "Validating lines..." ++
    options.announce "Analyzing..." ++
    options.announce
      (s!"{analysis.tokens.length} tokens, {analysis.lines.size} lines, " ++
        s!"{analysis.report.findings.length} semantic errors")

/-- A section is shown if it is asked for, or if none is. -/
def shows (options : Options) (table : Flag) : Bool :=
  options.has table ||
    !(options.has .tokens || options.has .verdicts || options.has .report)

/-- The tables that are asked for. -/
def sections (options : Options) (analysis : Analysis) : String :=
  (if options.shows .tokens then "=== Tokens ===\n" ++ Listing.tokens analysis.tokens else "") ++
    (if options.shows .verdicts then
      "=== Syntax ===\n" ++ Listing.verdicts analysis.verdicts else "") ++
    (if options.shows .report then "=== Semantic ===\n" ++ Listing.report analysis.report else "")

/-- The diagnostics of an analysis, against the input file alone. -/
def diagnostics (options : Options) (source : String) (analysis : Analysis) :
    Sources × List Diagnostic :=
  let (file, sources) := Sources.empty.add (.ofText options.input source)
  (sources, Diagnostic.ofAnalysis sources file analysis)

/-- What is done with a source text that was read under settings that may be used. -/
def planFor (options : Options) (source : String) : Plan :=
  let analysis := Analysis.ofSource options.initial source
  let (sources, diagnostics) := options.diagnostics source analysis
  let stdout := options.sections analysis
  let stderr := options.progress analysis ++ Diagnostic.texts sources diagnostics
  match options.exportPath?, analysis.isClean with
  | none, clean => { output := ⟨stdout, stderr, if clean then 0 else 1⟩, export? := none }
  | some _, false =>
    let refusal :=
      Failure.exporting
        s!"{diagnostics.length} error(s) found, fix them before exporting tokens"
    { output := ⟨stdout, stderr ++ errorLine refusal.text, 1⟩, export? := none }
  | some path, true =>
    { output := ⟨stdout, stderr, 0⟩
      export? := some
        { path
          content := analysis.lines.exported
          notice := options.announce s!"Tokens exported to {path}" } }

/-- What is done with the input, read or not.  A file that cannot be read is complained of before
the settings are. -/
def plan (options : Options) (input : Except FileError String) : Plan :=
  match input with
  | .error error => .failed s!"cannot read {options.input}: {error.reason}"
  | .ok source =>
    match options.settings.check with
    | .error failure => .failed failure.text
    | .ok _ => options.planFor source

/-- Carry out a run on files. -/
def run (options : Options) (tree : FileTree) : Output × FileTree :=
  let plan := options.plan (tree.readText options.input)
  match plan.export? with
  | none => (plan.output, tree)
  | some file =>
    match tree.writeText file.path file.content with
    | .ok written => (file.complete plan.output (.ok ()), written)
    | .error error => (file.complete plan.output (.error error), tree)

end Options

/-- The output for a request for the version. -/
def versionOutput : Output := ⟨"nova 0.1.0\n", "", 0⟩

/-- The output for a command line that is refused. -/
def UsageError.output (error : UsageError) : Output := ⟨"", errorLine error.message, 2⟩

/-- Carry out a command line on files. -/
def execute (arguments : List String) (tree : FileTree) : Output × FileTree :=
  match parse arguments with
  | .error error => (error.output, tree)
  | .ok .version => (versionOutput, tree)
  | .ok (.check options) => options.run tree

end CommandLine
end NovaLint
