import NovaLint.Report
import NovaLint.Statement.Verdict

/-!
# The analysis of a source text

The tokens of a text, their lines, the verdict on each line and the report on the whole.
-/

namespace NovaLint

/-- All that is found out about a source text. -/
structure Analysis where
  /-- Its tokens. -/
  tokens : List Token
  /-- The tokens by line. -/
  lines : TokenLines
  /-- The verdict on each line. -/
  verdicts : List Verdict
  /-- The report on the whole. -/
  report : Report
deriving DecidableEq

namespace Analysis

/-- Analyze a source text in which names must start with `initial`. -/
def ofSource (initial : Char) (source : String) : Analysis :=
  let tokens := tokenize source
  let lines := TokenLines.ofTokens tokens
  { tokens, lines, verdicts := lines.verdicts, report := .ofTokens initial tokens }

/-- The characters that start no token. -/
def lexicalErrors (analysis : Analysis) : List Token := analysis.tokens.filter (·.isError)

/-- Some character starts no token. -/
def hasLexicalErrors (analysis : Analysis) : Bool := !analysis.lexicalErrors.isEmpty

/-- The lines that are no statement. -/
def invalidLines (analysis : Analysis) : List Verdict := analysis.verdicts.filter fun verdict =>
  !verdict.valid

/-- Nothing is wrong anywhere. -/
def isClean (analysis : Analysis) : Bool :=
  !analysis.hasLexicalErrors && analysis.invalidLines.isEmpty && !analysis.report.hasFindings

end Analysis
end NovaLint
