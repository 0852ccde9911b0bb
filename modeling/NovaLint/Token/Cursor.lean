import NovaLint.Token.Basic
import NovaLint.Token.Lexeme
import NovaLint.Token.Trivia

/-!
# Cutting a text into tokens

A cursor is a place in a text together with what is left of the text.  One step skips the trivia,
cuts the lexeme that follows and stops right behind it, so the tokens behind a cursor depend on
nothing but the cursor.  Every text is cut to its end: a character that starts no lexeme is cut as
a token of its own.
-/

namespace NovaLint

/-- A place in a text and what follows it. -/
structure Cursor where
  /-- The characters not yet read. -/
  rest : List Char
  /-- Where they begin. -/
  position : Text.Position
deriving DecidableEq, Repr

namespace Cursor

/-- The cursor before the first character of a source text. -/
def start (source : String) : Cursor := ⟨source.toList, .start⟩

/-- The cursor some characters further on. -/
def advance (cursor : Cursor) (count : Nat) : Cursor :=
  ⟨cursor.rest.drop count, cursor.position.advance (cursor.rest.take count)⟩

/-- The cursor at the first character of the next token. -/
def skipTrivia (cursor : Cursor) : Cursor :=
  cursor.advance (Trivia.length .code cursor.rest)

/-- The token that covers the next characters. -/
def cut (cursor : Cursor) (lexeme : Lexeme) : Token :=
  { kind := lexeme.kind
    text := String.ofList (cursor.rest.take lexeme.size)
    line := cursor.position.line
    span := ⟨cursor.position.offset, (cursor.advance lexeme.size).position.offset⟩ }

/-- The token that begins at the cursor and the cursor behind it, or nothing at the end. -/
def read? (cursor : Cursor) : Option (Token × Cursor) :=
  match cursor.rest with
  | [] => none
  | first :: rest =>
    let lexeme := Lexeme.recognize first rest
    some (cursor.cut lexeme, cursor.advance lexeme.size)

/-- The next token and the cursor behind it, or nothing if only trivia is left. -/
def next? (cursor : Cursor) : Option (Token × Cursor) :=
  cursor.skipTrivia.read?

@[simp]
theorem rest_advance (cursor : Cursor) (count : Nat) :
    (cursor.advance count).rest = cursor.rest.drop count := rfl

@[simp]
theorem rest_skipTrivia (cursor : Cursor) :
    cursor.skipTrivia.rest = cursor.rest.drop (Trivia.length .code cursor.rest) := rfl

theorem read?_eq_none_iff {cursor : Cursor} : cursor.read? = none ↔ cursor.rest = [] := by
  unfold read?
  split <;> simp_all

theorem read?_of_rest_eq_cons {cursor : Cursor} {first : Char} {rest : List Char}
    (rest_eq : cursor.rest = first :: rest) :
    cursor.read? =
      some
        (cursor.cut (.recognize first rest),
          cursor.advance (Lexeme.recognize first rest).size) := by
  simp [read?, rest_eq]

theorem length_rest_lt_of_read? {cursor behind : Cursor} {token : Token}
    (found : cursor.read? = some (token, behind)) : behind.rest.length < cursor.rest.length := by
  cases rest_eq : cursor.rest with
  | nil => simp [read?, rest_eq] at found
  | cons first rest =>
      simp only [read?_of_rest_eq_cons rest_eq, Option.some.injEq, Prod.mk.injEq] at found
      rw [← found.2, rest_advance, rest_eq, List.length_drop, Lexeme.size, List.length_cons]
      omega

theorem length_rest_lt_of_next? {cursor behind : Cursor} {token : Token}
    (found : cursor.next? = some (token, behind)) : behind.rest.length < cursor.rest.length := by
  have shorter := length_rest_lt_of_read? found
  rw [rest_skipTrivia, List.length_drop] at shorter
  omega

/-- All tokens behind a cursor. -/
def tokens (cursor : Cursor) : List Token :=
  match _found : cursor.next? with
  | none => []
  | some (token, behind) => token :: behind.tokens
termination_by cursor.rest.length
decreasing_by exact length_rest_lt_of_next? _found

theorem tokens_eq_nil {cursor : Cursor} (done : cursor.next? = none) : cursor.tokens = [] := by
  rw [tokens]
  split <;> simp_all

theorem tokens_eq_cons {cursor behind : Cursor} {token : Token}
    (found : cursor.next? = some (token, behind)) : cursor.tokens = token :: behind.tokens := by
  rw [tokens]
  split <;> simp_all

/-- The answers to a number of requests for the next token, and the cursor after them.  A request
at the end of the text gets no token and moves nothing. -/
def pull : Nat → Cursor → List (Option Token) × Cursor
  | 0, cursor => ([], cursor)
  | count + 1, cursor =>
    match cursor.next? with
    | none =>
      let (answers, final) := pull count cursor
      (none :: answers, final)
    | some (token, behind) =>
      let (answers, final) := pull count behind
      (some token :: answers, final)

end Cursor

/-- All tokens of a source text. -/
def tokenize (source : String) : List Token := (Cursor.start source).tokens

end NovaLint
