import NovaLint.Text.Position
import NovaLint.Token.Kind

/-!
# Tokens

A token keeps its kind, the text it was cut from and the place of that text.
-/

namespace NovaLint

/-- A piece of a program that the checks treat as one. -/
structure Token where
  /-- What the token is. -/
  kind : Kind
  /-- The characters it was cut from. -/
  text : String
  /-- Line of its first character, counted from one. -/
  line : Nat
  /-- Where its bytes stand in the whole text. -/
  span : Text.Span
deriving DecidableEq, Repr, Inhabited

/-- The token stands for a character that starts no token. -/
def Token.isError (token : Token) : Bool :=
  token.kind == .unrecognized

end NovaLint
