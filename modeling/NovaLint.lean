import NovaLint.Main
import NovaLint.Token.Scanner
import NovaLint.Proofs.Text.Slice
import NovaLint.Proofs.Token.Pattern
import NovaLint.Proofs.Token.Longest
import NovaLint.Proofs.Token.Reading
import NovaLint.Proofs.Token.Restart
import NovaLint.Proofs.Token.Tiling
import NovaLint.Proofs.Token.MaximalMunch
import NovaLint.Proofs.Check.Codes
import NovaLint.Proofs.Control.Tally
import NovaLint.Proofs.Control.Occurrences
import NovaLint.Proofs.Control.Nesting
import NovaLint.Proofs.Control.DoubledBraces
import NovaLint.Proofs.Text.Contents
import NovaLint.Proofs.Token.OneLine
import NovaLint.Proofs.Check.FirstSight
import NovaLint.Proofs.Statement.LineByLine
import NovaLint.Proofs.Check.Declarations
import NovaLint.Proofs.Check.Assignments
import NovaLint.Proofs.Check.CleanPrograms
import NovaLint.Proofs.Token.Quotes
import NovaLint.Proofs.Listing.Export
import NovaLint.Proofs.Check.Lines
import NovaLint.Proofs.Text.LineSpans
import NovaLint.Proofs.Diagnostic.Targets
import NovaLint.Proofs.Check.Groups
import NovaLint.Proofs.Check.Similar
import NovaLint.Proofs.Check.Recast
import NovaLint.Proofs.Check.Renaming
import NovaLint.Proofs.Check.NameRule
import NovaLint.Proofs.Check.Composition
import NovaLint.Proofs.Check.Returns
import NovaLint.Proofs.Check.Headers
import NovaLint.Proofs.CommandLine.Outcome
import NovaLint.Proofs.Check.Operators
import NovaLint.Proofs.Token.Resume
import NovaLint.Proofs.Token.Blanking
import NovaLint.Proofs.Check.NestedFunctions
import NovaLint.Proofs.Statement.LeadingTokens
import NovaLint.Proofs.Token.LineOrder
import NovaLint.Proofs.Check.StrayTokens
import NovaLint.Proofs.Token.Reprint
import NovaLint.Proofs.Check.Histories
import NovaLint.Proofs.Check.Initials
