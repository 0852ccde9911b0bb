import NovaLint.Analysis
import NovaLint.Text.Lines

/-!
# Diagnostics

A diagnostic is a message about a source file, usually with a label on the bytes at fault.  What is
wrong with a line is labelled on the whole line, its line feed included; what is wrong with no line
of the file carries its message as a note.
-/

namespace NovaLint

/-- A named source text, cut into lines. -/
structure SourceFile where
  /-- Its name. -/
  name : String
  /-- Its lines. -/
  lines : List Text.Line
deriving DecidableEq, Repr

/-- The file of a text. -/
def SourceFile.ofText (name text : String) : SourceFile := ⟨name, Text.lines text⟩

/-- The bytes of a line of the file, if the file has that line. -/
def SourceFile.lineSpan? (file : SourceFile) (line : Nat) : Option Text.Span :=
  if line = 0 then none else file.lines[line - 1]?.map (·.span)

/-- Source files, each known by its place in the list. -/
structure Sources where
  /-- The files in the order in which they were added. -/
  files : List SourceFile
deriving DecidableEq, Repr

namespace Sources

/-- No files. -/
def empty : Sources := ⟨[]⟩

/-- Add a file behind the others; the answer tells by which number it is known. -/
def add (sources : Sources) (file : SourceFile) : Nat × Sources :=
  (sources.files.length, ⟨sources.files ++ [file]⟩)

/-- The bytes of a line, if there is such a file and it has that line. -/
def lineSpan? (sources : Sources) (file line : Nat) : Option Text.Span := do
  let source ← sources.files[file]?
  source.lineSpan? line

end Sources

/-- A range of bytes at fault. -/
structure Diagnostic.Label where
  /-- The number of the file. -/
  file : Nat
  /-- The bytes. -/
  span : Text.Span
  /-- What is said of them. -/
  message : String
deriving DecidableEq, Repr

/-- A message about a source file. -/
structure Diagnostic where
  /-- The class of the error, if it has one. -/
  code? : Option String
  /-- The title. -/
  message : String
  /-- The bytes at fault, if they are known. -/
  label? : Option Diagnostic.Label
  /-- What else is said. -/
  notes : List String
deriving DecidableEq, Repr

namespace Diagnostic

/-- A diagnostic with a label on a line, or with a note if there is no such line. -/
def onLine (sources : Sources) (file line : Nat) (code? : Option String)
    (title message : String) : Diagnostic :=
  match sources.lineSpan? file line with
  | some span => { code?, message := title, label? := some ⟨file, span, message⟩, notes := [] }
  | none => { code?, message := title, label? := none, notes := [message] }

/-- The diagnostic of a character that starts no token. -/
def ofToken (file : Nat) (token : Token) : Diagnostic :=
  { code? := none
    message := "Lexical error"
    label? := some ⟨file, token.span, s!"unrecognized character '{token.text}'"⟩
    notes := [] }

/-- The diagnostic of a line that is no statement. -/
def ofVerdict (sources : Sources) (file : Nat) (verdict : Verdict) : Diagnostic :=
  onLine sources file verdict.line none "Syntax error" (verdict.message?.getD "")

/-- The diagnostic of a finding. -/
def ofFinding (sources : Sources) (file : Nat) (finding : Finding) : Diagnostic :=
  onLine sources file finding.line (some finding.code.name) "Semantic error" finding.message

/-- The diagnostics of an analysis: characters, lines, findings. -/
def ofAnalysis (sources : Sources) (file : Nat) (analysis : Analysis) : List Diagnostic :=
  analysis.lexicalErrors.map (ofToken file) ++
    analysis.invalidLines.map (ofVerdict sources file) ++
    analysis.report.findings.map (ofFinding sources file)

end Diagnostic
end NovaLint
