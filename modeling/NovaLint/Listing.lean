import NovaLint.Analysis
import NovaLint.Text.Cell

/-!
# Listings

The results of an analysis as plain text: tables of the tokens, of the verdicts and of the report,
and the export of the tokens, which has one line for each line of the program that holds a token.
-/

namespace NovaLint

open Text

/-- A token with its tag. -/
def Token.tagged (token : Token) : String := token.text ++ " -> " ++ token.kind.code

/-- The tokens of a group, line by line, each with its tag. -/
def TokenLines.exported (group : TokenLines) : String :=
  "\n".intercalate (group.entries.map fun entry => ", ".intercalate (entry.tokens.map Token.tagged))

namespace Listing

/-- A row of the table of tokens. -/
def tokenRow (line code text : String) : String :=
  leftCell 6 line ++ " " ++ leftCell 8 code ++ " " ++ text ++ "\n"

/-- The table of tokens. -/
def tokens (tokens : List Token) : String :=
  tokenRow "LINE" "CODE" "VALUE" ++
    String.join (tokens.map fun token =>
      tokenRow (toString token.line) token.kind.code token.text)

/-- The row of a verdict.  A line is shown as invalid only with a reason. -/
def verdictRow (verdict : Verdict) : String :=
  let line := "line " ++ leftCell 4 (toString verdict.line)
  match verdict.valid, verdict.message? with
  | false, some message => line ++ " invalid  " ++ message ++ "\n"
  | _, _ => line ++ " valid\n"

/-- The table of verdicts. -/
def verdicts (verdicts : List Verdict) : String := String.join (verdicts.map verdictRow)

/-- The row of a variable. -/
def variableRow (entry : Variable) : String :=
  "  " ++ leftCell 16 entry.name ++ " " ++ leftCell 8 entry.type.name ++ " line " ++
    leftCell 4 (toString entry.line) ++ s!" declared={entry.declared}" ++
    s!" valid_name={entry.wellNamed}" ++ " value=" ++ entry.value?.getD "-" ++ "\n"

/-- The row of a family of brackets. -/
def bracketRow (balance : Bracket.Balance) : String :=
  "  " ++ leftCell 8 balance.bracket.name ++
    s!" opened={balance.opened} closed={balance.closed}" ++
    (if balance.isBalanced then "" else "  (unbalanced)") ++ "\n"

/-- The row of a kind of control structure. -/
def controlRow (balance : Control.Balance) : String :=
  "  " ++ leftCell 8 balance.control.name ++ s!" occurrences={balance.occurrences}" ++
    s!" closed={balance.closed} unclosed={balance.unclosed}\n"

/-- The row of the control structures that do not occur, if there are any. -/
def unusedRow (unused : List Control) : String :=
  if unused.isEmpty then ""
  else "  unused: " ++ ", ".intercalate (unused.map (·.name)) ++ "\n"

/-- The rows of the findings. -/
def findingRows (findings : List Finding) : String :=
  if findings.isEmpty then "  none\n"
  else String.join (findings.map fun finding => "  " ++ finding.text ++ "\n")

/-- The report in full.  Control structures that do not occur share a row. -/
def report (report : Report) : String :=
  "Variables:\n" ++ String.join (report.symbols.map variableRow) ++
    "Symbol balance:\n" ++ String.join (report.brackets.map bracketRow) ++
    "Control structures:\n" ++
    String.join ((report.controls.filter (·.used)).map controlRow) ++
    unusedRow report.unused ++
    "Errors:\n" ++ findingRows report.findings

end Listing
end NovaLint
