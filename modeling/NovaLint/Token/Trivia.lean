/-!
# Text between tokens

Between tokens stand blanks and comments.  A comment runs from two slashes to the end of its line;
the line feed that ends it is a blank of its own.
-/

namespace NovaLint
namespace Trivia

/-- The characters that separate tokens: space, tab, line feed, carriage return and form feed. -/
def isBlank (c : Char) : Bool :=
  c == ' ' || c == '\t' || c == '\n' || c == '\r' || c == '\x0c'

/-- Whether a text is being skipped inside a comment. -/
inductive Mode where
  /-- Between tokens. -/
  | code
  /-- After two slashes, before the end of the line. -/
  | comment
deriving DecidableEq, Repr

/-- Number of characters before the next token. -/
def length : Mode → List Char → Nat
  | _, [] => 0
  | .comment, c :: rest => length (if c = '\n' then .code else .comment) rest + 1
  | .code, '/' :: '/' :: rest => length .comment rest + 2
  | .code, c :: rest => if isBlank c then length .code rest + 1 else 0

theorem length_le (mode : Mode) (text : List Char) : length mode text ≤ text.length := by
  fun_induction length mode text <;> simp_all

end Trivia
end NovaLint
