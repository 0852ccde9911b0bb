import Mathlib.Computability.Language
import NovaLint.Token.Lexeme
import NovaLint.Token.Trivia

/-!
# Patterns of tokens

Every kind of token is described by a regular pattern, and so is the text between tokens.  A pattern
denotes a language, the set of all texts it matches, and says nothing about how a match is searched.
The languages of the kinds are given in the vocabulary of characters that the scanner tests.
-/

namespace NovaLint

open scoped Computability

/-- A regular pattern over characters. -/
inductive Pattern where
  /-- A fixed text. -/
  | text (letters : String)
  /-- One character that lies in one of the ranges, both ends included. -/
  | within (ranges : List (Char × Char))
  /-- One character that is none of those listed. -/
  | without (excluded : List Char)
  /-- One pattern and behind it another. -/
  | append (front back : Pattern)
  /-- One pattern or another. -/
  | either (left right : Pattern)
  /-- A pattern any number of times, or not at all. -/
  | many (repeated : Pattern)
deriving DecidableEq, Repr

namespace Pattern

/-- The texts that a pattern matches. -/
def language : Pattern → Language Char
  | text letters => {letters.toList}
  | within ranges => {piece | ∃ c, (∃ range ∈ ranges, range.1 ≤ c ∧ c ≤ range.2) ∧ piece = [c]}
  | without excluded => {piece | ∃ c, c ∉ excluded ∧ piece = [c]}
  | append front back => front.language * back.language
  | either left right => left.language + right.language
  | many repeated => repeated.language∗

/-- A pattern once or more often. -/
def some (repeated : Pattern) : Pattern := repeated.append repeated.many

/-- Letters of the alphabet and the underscore. -/
def letter : Pattern := within [('a', 'z'), ('A', 'Z'), ('_', '_')]

/-- What a name continues with. -/
def letterOrDigit : Pattern := within [('a', 'z'), ('A', 'Z'), ('0', '9'), ('_', '_')]

/-- A decimal digit. -/
def digit : Pattern := within [('0', '9')]

/-- A backslash and any character but a line feed. -/
def escape : Pattern := (text "\\").append (without ['\n'])

/-- One character or one escape between two quotes. -/
def quotable (quote : Char) : Pattern := (without [quote, '\\', '\n']).either escape

/-- A pattern between two quotes. -/
def quoted (quote : String) (inside : Pattern) : Pattern :=
  (text quote).append (inside.append (text quote))

end Pattern

/-- The pattern of a kind of token; no pattern matches what is unrecognized. -/
def Kind.pattern? (kind : Kind) : Option Pattern :=
  match kind.spelling? with
  | some spelling => some (.text spelling)
  | none =>
    match kind with
    | identifier => some (.append .letter (.many .letterOrDigit))
    | intLiteral => some (.some .digit)
    | floatLiteral => some (.append (.some .digit) (.append (.text ".") (.some .digit)))
    | stringLiteral => some (.quoted "\"" (.many (.quotable '"')))
    | charLiteral => some (.quoted "'" (.quotable '\''))
    | _ => none

/-- The texts that the pattern of a kind matches. -/
def Kind.language (kind : Kind) : Language Char :=
  match kind.pattern? with
  | some pattern => pattern.language
  | none => 0

/-- A run of the characters that separate tokens. -/
def Trivia.blanks : Pattern :=
  .some (.within [(' ', ' '), ('\t', '\t'), ('\n', '\n'), ('\r', '\r'), ('\x0c', '\x0c')])

/-- Two slashes and the rest of their line. -/
def Trivia.comment : Pattern := .append (.text "//") (.many (.without ['\n']))

/-- What is skipped at once between tokens. -/
def Trivia.language : Language Char := blanks.language + comment.language

namespace Pattern

@[simp]
theorem mem_text {letters : String} {piece : List Char} :
    piece ∈ (text letters).language ↔ piece = letters.toList := Iff.rfl

@[simp]
theorem mem_within {ranges : List (Char × Char)} {piece : List Char} :
    piece ∈ (within ranges).language ↔
      ∃ c, (∃ range ∈ ranges, range.1 ≤ c ∧ c ≤ range.2) ∧ piece = [c] := Iff.rfl

@[simp]
theorem mem_without {excluded : List Char} {piece : List Char} :
    piece ∈ (without excluded).language ↔ ∃ c, c ∉ excluded ∧ piece = [c] := Iff.rfl

@[simp]
theorem mem_append {front back : Pattern} {piece : List Char} :
    piece ∈ (front.append back).language ↔
      ∃ a ∈ front.language, ∃ b ∈ back.language, a ++ b = piece := Language.mem_mul

@[simp]
theorem mem_either {left right : Pattern} {piece : List Char} :
    piece ∈ (left.either right).language ↔ piece ∈ left.language ∨ piece ∈ right.language :=
  Language.mem_add _ _ _

theorem nil_mem_many (repeated : Pattern) : [] ∈ repeated.many.language :=
  Language.nil_mem_kstar _

theorem append_mem_many {repeated : Pattern} {front back : List Char}
    (front_mem : front ∈ repeated.language) (back_mem : back ∈ repeated.many.language) :
    front ++ back ∈ repeated.many.language := by
  obtain ⟨chunks, rfl, matched⟩ := back_mem
  exact ⟨front :: chunks, rfl, List.forall_mem_cons.mpr ⟨front_mem, matched⟩⟩

theorem mem_quoted {quote : String} {inside : Pattern} {piece : List Char} :
    piece ∈ (quoted quote inside).language ↔
      ∃ body ∈ inside.language, piece = quote.toList ++ (body ++ quote.toList) := by
  simp only [quoted, mem_append, mem_text, exists_eq_left]
  constructor
  · rintro ⟨_, ⟨body, body_mem, rfl⟩, rfl⟩
    exact ⟨body, body_mem, rfl⟩
  · rintro ⟨body, body_mem, rfl⟩
    exact ⟨_, ⟨body, body_mem, rfl⟩, rfl⟩

theorem mem_quotable {quote : Char} {piece : List Char} :
    piece ∈ (quotable quote).language ↔
      (∃ c, c ∉ [quote, '\\', '\n'] ∧ piece = [c]) ∨ ∃ c, c ≠ '\n' ∧ piece = ['\\', c] := by
  rw [quotable, mem_either, mem_without]
  refine or_congr Iff.rfl ?_
  simp only [escape, mem_append, mem_text, exists_eq_left, mem_without, List.mem_singleton]
  constructor
  · rintro ⟨_, ⟨c, c_ne, rfl⟩, rfl⟩
    exact ⟨c, c_ne, rfl⟩
  · rintro ⟨c, c_ne, rfl⟩
    exact ⟨[c], ⟨c, c_ne, rfl⟩, rfl⟩

/-- The pattern matches single characters only, those of a class. -/
def IsClass (pattern : Pattern) (allowed : Char → Prop) : Prop :=
  ∀ piece, piece ∈ pattern.language ↔ ∃ c, allowed c ∧ piece = [c]

/-- Repeating a class of characters gives the texts made of such characters. -/
theorem IsClass.mem_many {pattern : Pattern} {allowed : Char → Prop}
    (isClass : pattern.IsClass allowed) {piece : List Char} :
    piece ∈ pattern.many.language ↔ ∀ c ∈ piece, allowed c := by
  constructor
  · rintro ⟨chunks, rfl, matched⟩ c member
    obtain ⟨chunk, chunk_mem, c_mem⟩ := List.mem_flatten.mp member
    obtain ⟨d, d_allowed, rfl⟩ := (isClass chunk).mp (matched chunk chunk_mem)
    exact List.mem_singleton.mp c_mem ▸ d_allowed
  · intro all_allowed
    refine ⟨piece.map fun c => [c], by simp [← List.flatMap_def], ?_⟩
    intro chunk chunk_mem
    obtain ⟨c, c_mem, rfl⟩ := List.mem_map.mp chunk_mem
    exact (isClass [c]).mpr ⟨c, all_allowed c c_mem, rfl⟩

theorem IsClass.mem_some {pattern : Pattern} {allowed : Char → Prop}
    (isClass : pattern.IsClass allowed) {piece : List Char} :
    piece ∈ pattern.some.language ↔ piece ≠ [] ∧ ∀ c ∈ piece, allowed c := by
  rw [some, mem_append]
  constructor
  · rintro ⟨front, front_mem, back, back_mem, rfl⟩
    obtain ⟨c, c_allowed, rfl⟩ := (isClass front).mp front_mem
    exact ⟨by simp, by simpa [c_allowed] using isClass.mem_many.mp back_mem⟩
  · rintro ⟨nonempty, all_allowed⟩
    obtain ⟨c, back, rfl⟩ := List.exists_cons_of_ne_nil nonempty
    obtain ⟨c_allowed, back_allowed⟩ := List.forall_mem_cons.mp all_allowed
    exact ⟨[c], (isClass [c]).mpr ⟨c, c_allowed, rfl⟩, back, isClass.mem_many.mpr back_allowed, rfl⟩

theorem between_self_iff {c d : Char} : d ≤ c ∧ c ≤ d ↔ c = d := by
  constructor
  · rintro ⟨low, high⟩
    exact Char.le_antisymm high low
  · rintro rfl
    exact ⟨Char.le_refl c, Char.le_refl c⟩

theorem isClass_within {ranges : List (Char × Char)} {allowed : Char → Prop}
    (same : ∀ c, (∃ range ∈ ranges, range.1 ≤ c ∧ c ≤ range.2) ↔ allowed c) :
    (within ranges).IsClass allowed := by
  intro piece
  simp only [mem_within, same]

theorem isClass_without (excluded : List Char) : (without excluded).IsClass (· ∉ excluded) :=
  fun _ => Iff.rfl

end Pattern

theorem Lexeme.isDigit_iff {c : Char} : c.isDigit ↔ '0' ≤ c ∧ c ≤ '9' := by
  simp only [Char.isDigit, Bool.and_eq_true, decide_eq_true_eq, ge_iff_le, Char.le_def]

theorem Lexeme.startsWord_iff {c : Char} :
    startsWord c ↔ ('a' ≤ c ∧ c ≤ 'z') ∨ ('A' ≤ c ∧ c ≤ 'Z') ∨ c = '_' := by
  have starts_eq : startsWord c =
      (decide (c.val ≥ 'A'.val ∧ c.val ≤ 'Z'.val) ||
        (decide (c.val ≥ 'a'.val) && decide (c.val ≤ 'z'.val)) || c == '_') := rfl
  simp only [starts_eq, Bool.or_eq_true, Bool.and_eq_true, decide_eq_true_eq, ge_iff_le,
    Char.le_def, beq_iff_eq]
  tauto

theorem Lexeme.continuesWord_iff {c : Char} : continuesWord c ↔ startsWord c ∨ c.isDigit := by
  simp only [startsWord, continuesWord, Char.isAlphanum, Bool.or_eq_true]
  tauto

namespace Pattern

theorem isClass_letter : letter.IsClass (Lexeme.startsWord ·) := by
  apply isClass_within
  intro c
  simp only [List.mem_cons, List.not_mem_nil, or_false, exists_eq_or_imp, exists_eq_left,
    between_self_iff, Lexeme.startsWord_iff]

theorem isClass_letterOrDigit : letterOrDigit.IsClass (Lexeme.continuesWord ·) := by
  apply isClass_within
  intro c
  simp only [List.mem_cons, List.not_mem_nil, or_false, exists_eq_or_imp, exists_eq_left,
    between_self_iff, Lexeme.continuesWord_iff, Lexeme.startsWord_iff, Lexeme.isDigit_iff]
  tauto

theorem isClass_digit : digit.IsClass (Char.isDigit ·) := by
  apply isClass_within
  intro c
  simp only [List.mem_singleton, exists_eq_left, Lexeme.isDigit_iff]

end Pattern

namespace Kind

theorem language_of_spelling {kind : Kind} {spelling : String}
    (spelled : kind.spelling? = some spelling) : kind.language = {spelling.toList} := by
  simp only [language, pattern?, spelled, Pattern.language]

theorem mem_identifier {piece : List Char} :
    piece ∈ identifier.language ↔
      ∃ first rest, piece = first :: rest ∧ Lexeme.startsWord first ∧
        ∀ c ∈ rest, Lexeme.continuesWord c := by
  change piece ∈ (Pattern.append .letter (.many .letterOrDigit)).language ↔ _
  rw [Pattern.mem_append]
  constructor
  · rintro ⟨front, front_mem, rest, rest_mem, rfl⟩
    obtain ⟨first, starts, rfl⟩ := (Pattern.isClass_letter front).mp front_mem
    exact ⟨first, rest, rfl, starts, Pattern.isClass_letterOrDigit.mem_many.mp rest_mem⟩
  · rintro ⟨first, rest, rfl, starts, continues⟩
    exact ⟨[first], (Pattern.isClass_letter [first]).mpr ⟨first, starts, rfl⟩, rest,
      Pattern.isClass_letterOrDigit.mem_many.mpr continues, rfl⟩

theorem mem_intLiteral {piece : List Char} :
    piece ∈ intLiteral.language ↔ piece ≠ [] ∧ ∀ c ∈ piece, c.isDigit :=
  Pattern.isClass_digit.mem_some

theorem mem_floatLiteral {piece : List Char} :
    piece ∈ floatLiteral.language ↔
      ∃ whole ∈ intLiteral.language, ∃ fraction ∈ intLiteral.language,
        piece = whole ++ '.' :: fraction := by
  change piece ∈ (Pattern.append (.some .digit) (.append (.text ".") (.some .digit))).language ↔ _
  simp only [Pattern.mem_append, Pattern.mem_text, exists_eq_left]
  constructor
  · rintro ⟨whole, whole_mem, _, ⟨fraction, fraction_mem, rfl⟩, rfl⟩
    exact ⟨whole, whole_mem, fraction, fraction_mem, rfl⟩
  · rintro ⟨whole, whole_mem, fraction, fraction_mem, rfl⟩
    exact ⟨whole, whole_mem, _, ⟨fraction, fraction_mem, rfl⟩, rfl⟩

theorem mem_stringLiteral {piece : List Char} :
    piece ∈ stringLiteral.language ↔
      ∃ body ∈ (Pattern.quotable '"').many.language, piece = '"' :: (body ++ ['"']) :=
  Pattern.mem_quoted

theorem mem_charLiteral {piece : List Char} :
    piece ∈ charLiteral.language ↔
      ∃ body ∈ (Pattern.quotable '\'').language, piece = '\'' :: (body ++ ['\'']) :=
  Pattern.mem_quoted

end Kind

namespace Trivia

theorem mem_blanks {piece : List Char} :
    piece ∈ blanks.language ↔ piece ≠ [] ∧ ∀ c ∈ piece, isBlank c := by
  refine Pattern.IsClass.mem_some (Pattern.isClass_within fun c => ?_)
  simp only [List.mem_cons, List.not_mem_nil, or_false, exists_eq_or_imp, exists_eq_left,
    Pattern.between_self_iff, isBlank, Bool.or_eq_true, beq_iff_eq]
  tauto

theorem mem_comment {piece : List Char} :
    piece ∈ comment.language ↔ ∃ body, piece = '/' :: '/' :: body ∧ '\n' ∉ body := by
  simp only [comment, Pattern.mem_append, Pattern.mem_text, exists_eq_left,
    (Pattern.isClass_without ['\n']).mem_many, List.mem_singleton]
  constructor
  · rintro ⟨body, no_newline, rfl⟩
    exact ⟨body, rfl, fun newline => no_newline _ newline rfl⟩
  · rintro ⟨body, rfl, no_newline⟩
    exact ⟨body, fun c member same => no_newline (same ▸ member), rfl⟩

end Trivia
end NovaLint
