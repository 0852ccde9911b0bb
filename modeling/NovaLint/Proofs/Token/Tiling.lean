import NovaLint.Proofs.Token.Reading
import NovaLint.Proofs.Token.Restart

/-!
# Tokens tile their text

The tokens of a text and the gaps between them cover it from its first byte to its last.  No
character is lost, none is cut twice, and none is moved: every token holds the very characters of
its range, and a gap holds nothing but blanks and comments.  A token never passes the end of a line,
so its line is told by the line feeds before it.
-/

namespace NovaLint

open scoped Computability

namespace Pattern

theorem newline_not_mem_quotable {quote : Char} {piece : List Char}
    (matched : piece ∈ (quotable quote).language) : '\n' ∉ piece := by
  rcases mem_quotable.mp matched with ⟨c, excluded, rfl⟩ | ⟨c, c_ne, rfl⟩
  · simp only [List.mem_cons, List.not_mem_nil, or_false, not_or] at excluded
    simpa using Ne.symm excluded.2.2
  · simpa using Ne.symm c_ne

theorem newline_not_mem_many {repeated : Pattern} {piece : List Char}
    (one_line : ∀ chunk ∈ repeated.language, '\n' ∉ chunk)
    (matched : piece ∈ repeated.many.language) : '\n' ∉ piece := by
  obtain ⟨chunks, rfl, chunks_mem⟩ := matched
  intro newline
  obtain ⟨chunk, chunk_mem, newline_mem⟩ := List.mem_flatten.mp newline
  exact one_line chunk (chunks_mem chunk chunk_mem) newline_mem

end Pattern

/-- Characters that stand in tokens outside quotes. -/
def Lexeme.isBare (c : Char) : Bool :=
  continuesWord c || (Kind.ofSingle? c).isSome || c == '.' || c == '&' || c == '|'

theorem Lexeme.isBare_of_continuesWord {c : Char} (continues : continuesWord c) : isBare c := by
  rw [isBare, continues]
  rfl

theorem Lexeme.isBare_of_isDigit {c : Char} (digit : c.isDigit) : isBare c :=
  isBare_of_continuesWord (continuesWord_iff.mpr (.inr digit))

/-- A token without quotes is made of the characters for that. -/
theorem Kind.isBare_of_mem {kind : Kind} {piece : List Char} (matched : piece ∈ kind.language)
    (not_string : kind ≠ .stringLiteral) (not_char : kind ≠ .charLiteral) :
    ∀ c ∈ piece, Lexeme.isBare c := by
  cases spelled : kind.spelling? with
  | some spelling =>
      rw [language_of_spelling spelled] at matched
      have piece_eq : piece = spelling.toList := matched
      subst piece_eq
      have all_bare : spelling.toList.all Lexeme.isBare := by
        cases kind <;> simp only [spelling?, Option.some.injEq, reduceCtorEq] at spelled <;>
          subst spelled <;> decide
      exact List.all_eq_true.mp all_bare
  | none =>
      rcases eq_of_spelling_eq_none spelled with rfl | rfl | rfl | rfl | rfl | rfl
      · obtain ⟨first, rest, rfl, starts, continues⟩ := mem_identifier.mp matched
        intro c member
        rcases List.mem_cons.mp member with rfl | later
        · exact Lexeme.isBare_of_continuesWord (Lexeme.continuesWord_iff.mpr (.inl starts))
        · exact Lexeme.isBare_of_continuesWord (continues c later)
      · exact fun c member => Lexeme.isBare_of_isDigit ((mem_intLiteral.mp matched).2 c member)
      · obtain ⟨whole, whole_mem, fraction, fraction_mem, rfl⟩ := mem_floatLiteral.mp matched
        intro c member
        rcases List.mem_append.mp member with front | back
        · exact Lexeme.isBare_of_isDigit ((mem_intLiteral.mp whole_mem).2 c front)
        · rcases List.mem_cons.mp back with rfl | back
          · decide
          · exact Lexeme.isBare_of_isDigit ((mem_intLiteral.mp fraction_mem).2 c back)
      · exact absurd rfl not_string
      · exact absurd rfl not_char
      · exact absurd matched (Language.notMem_zero piece)

/-- No pattern of a kind matches across the end of a line. -/
theorem Kind.newline_not_mem {kind : Kind} {piece : List Char} (matched : piece ∈ kind.language) :
    '\n' ∉ piece := by
  by_cases string : kind = .stringLiteral
  · subst string
    obtain ⟨body, body_mem, rfl⟩ := mem_stringLiteral.mp matched
    have one_line : '\n' ∉ body := Pattern.newline_not_mem_many
      (fun _ => Pattern.newline_not_mem_quotable) body_mem
    simpa using one_line
  by_cases char : kind = .charLiteral
  · subst char
    obtain ⟨body, body_mem, rfl⟩ := mem_charLiteral.mp matched
    have one_line : '\n' ∉ body := Pattern.newline_not_mem_quotable body_mem
    simpa using one_line
  · intro newline
    exact absurd (isBare_of_mem matched string char '\n' newline) (by decide)

namespace Cursor

/-- What is cut is a match of a pattern, or a character behind the gap that is no blank. -/
theorem Reads.newline_not_mem {cursor behind : Cursor} {gap : List Char} {token : Token}
    (reads : cursor.Reads gap token behind) : '\n' ∉ token.text.toList := by
  cases reads.chosen with
  | found longest => exact Kind.newline_not_mem longest.matched
  | missing _ _ alone _ =>
      obtain ⟨c, text_eq⟩ := List.length_eq_one_iff.mp alone
      have clean := reads.clean
      rw [text_eq] at clean ⊢
      intro newline
      obtain rfl := List.mem_singleton.mp newline
      exact clean ['\n'] (Trivia.singleton_mem rfl) (List.prefix_append _ _)

theorem Reads.offset_start {cursor behind : Cursor} {gap : List Char} {token : Token}
    (reads : cursor.Reads gap token behind) :
    token.span.start = cursor.position.offset + Text.byteLength gap := by
  rw [← Text.Position.advance_offset, reads.place]

theorem Reads.offset_stop {cursor behind : Cursor} {gap : List Char} {token : Token}
    (reads : cursor.Reads gap token behind) :
    token.span.stop = token.span.start + Text.byteLength token.text.toList := by
  rw [reads.stop_eq, reads.position_eq, Text.Position.advance_offset, Text.byteLength_append,
    reads.offset_start, Nat.add_assoc]

theorem Reads.line_eq {cursor behind : Cursor} {gap : List Char} {token : Token}
    (reads : cursor.Reads gap token behind) :
    token.line = cursor.position.line + gap.count '\n' := by
  rw [← Text.Position.advance_line, reads.place]

theorem offset_le_start_of_mem {cursor : Cursor} {token : Token} (member : token ∈ cursor.tokens) :
    cursor.position.offset ≤ token.span.start := by
  obtain ⟨front, gap, here, behind, _, position_eq, reads⟩ := exists_reads_of_mem member
  rw [reads.offset_start, position_eq, Text.Position.advance_offset]
  omega

theorem pairwise_tokens (cursor : Cursor) :
    cursor.tokens.Pairwise fun earlier later => earlier.span.stop ≤ later.span.start := by
  fun_induction tokens cursor with
  | case1 => exact List.Pairwise.nil
  | case2 cursor token behind found ih =>
      obtain ⟨gap, reads⟩ := reads_of_next? found
      refine List.pairwise_cons.mpr ⟨fun later member => ?_, ih⟩
      rw [reads.stop_eq]
      exact offset_le_start_of_mem member

theorem line_le_of_mem {cursor : Cursor} {token : Token} (member : token ∈ cursor.tokens) :
    cursor.position.line ≤ token.line := by
  obtain ⟨front, gap, here, behind, _, position_eq, reads⟩ := exists_reads_of_mem member
  rw [reads.line_eq, position_eq, Text.Position.advance_line]
  omega

theorem pairwise_lines (cursor : Cursor) :
    cursor.tokens.Pairwise fun earlier later => earlier.line ≤ later.line := by
  fun_induction tokens cursor with
  | case1 => exact List.Pairwise.nil
  | case2 cursor token behind found ih =>
      obtain ⟨gap, reads⟩ := reads_of_next? found
      refine List.pairwise_cons.mpr ⟨fun later member => ?_, ih⟩
      calc
        token.line ≤ behind.position.line := by
          rw [reads.line_eq, reads.position_eq, Text.Position.advance_line, List.count_append]
          omega
        _ ≤ later.line := line_le_of_mem member

end Cursor

/-- The ranges before, between and behind some tokens, from one offset to another. -/
def gaps (start stop : Nat) : List Token → List Text.Span
  | [] => [⟨start, stop⟩]
  | token :: later => ⟨start, token.span.start⟩ :: gaps token.span.stop stop later

theorem Cursor.slice_of_mem_gaps {cursor : Cursor} {front : List Char}
    (offset_eq : cursor.position.offset = Text.byteLength front) {gap : Text.Span}
    (member : gap ∈ gaps cursor.position.offset (Text.byteLength (front ++ cursor.rest))
      cursor.tokens) :
    ∃ skipped ∈ Trivia.language∗, Text.Slice (front ++ cursor.rest) gap skipped := by
  fun_induction tokens cursor generalizing front with
  | case1 cursor done =>
      obtain rfl := List.mem_singleton.mp member
      exact ⟨cursor.rest, rest_mem_of_next?_eq_none done, front, [], by simp, offset_eq.symm, rfl⟩
  | case2 cursor token behind found ih =>
      obtain ⟨skipped, reads⟩ := reads_of_next? found
      rw [reads.rest_eq] at member ⊢
      rcases List.mem_cons.mp member with rfl | later
      · refine ⟨skipped, reads.trivia, front, _, rfl, offset_eq.symm, ?_⟩
        rw [Text.byteLength_append, reads.offset_start, offset_eq]
      · have regroup : front ++ (skipped ++ (token.text.toList ++ behind.rest)) =
            (front ++ skipped ++ token.text.toList) ++ behind.rest := by
          simp only [List.append_assoc]
        rw [regroup] at later ⊢
        rw [reads.stop_eq] at later
        refine ih ?_ later
        rw [← reads.stop_eq, reads.offset_stop, reads.offset_start, offset_eq,
          Text.byteLength_append, Text.byteLength_append]

/-- Tokens and gaps cover a text. -/
structure Tiles (source : String) (tokens : List Token) : Prop where
  /-- No token is empty. -/
  nonempty : ∀ token ∈ tokens, token.span.start < token.span.stop
  /-- A token holds the characters of its range. -/
  slice : ∀ token ∈ tokens, Text.Slice source.toList token.span token.text.toList
  /-- A token stands in one line. -/
  one_line : ∀ token ∈ tokens, '\n' ∉ token.text.toList
  /-- The line of a token is told by the line feeds before it. -/
  line : ∀ token ∈ tokens, ∀ front, front <+: source.toList →
    Text.byteLength front = token.span.start → token.line = 1 + front.count '\n'
  /-- Every token ends before the later ones begin. -/
  ascending : tokens.Pairwise fun earlier later => earlier.span.stop ≤ later.span.start
  /-- Blanks and comments stand before, between and behind the tokens. -/
  gaps : ∀ gap ∈ gaps 0 source.utf8ByteSize tokens,
    ∃ skipped ∈ Trivia.language∗, Text.Slice source.toList gap skipped

theorem tiles_tokenize (source : String) : Tiles source (tokenize source) := by
  constructor
  case nonempty =>
    intro token member
    obtain ⟨_, _, _, _, _, _, _, reads⟩ := exists_reads_of_mem_tokenize member
    obtain ⟨c, rest, text_eq⟩ := List.exists_cons_of_ne_nil reads.nonempty
    have positive := c.utf8Size_pos
    rw [reads.offset_stop, text_eq, Text.byteLength_cons]
    omega
  case slice =>
    intro token member
    obtain ⟨front, _, _, behind, source_eq, start_eq, _, reads⟩ :=
      exists_reads_of_mem_tokenize member
    refine ⟨front, behind.rest, source_eq, start_eq, ?_⟩
    rw [Text.byteLength_append, start_eq, reads.offset_stop]
  case one_line =>
    intro token member
    obtain ⟨_, _, _, _, _, _, _, reads⟩ := exists_reads_of_mem_tokenize member
    exact reads.newline_not_mem
  case line =>
    intro token member other other_front same_start
    obtain ⟨front, _, _, behind, source_eq, start_eq, line_eq, _⟩ :=
      exists_reads_of_mem_tokenize member
    obtain ⟨back, text_eq⟩ := other_front
    obtain rfl := Text.split_unique (text_eq.trans source_eq) (same_start.trans start_eq.symm)
    exact line_eq
  case ascending => exact Cursor.pairwise_tokens _
  case gaps =>
    intro gap member
    rw [← Text.byteLength_toList] at member
    have begun : (Cursor.start source).position.offset = Text.byteLength [] := rfl
    exact Cursor.slice_of_mem_gaps begun member

/-- The tokens of a text cover it up to its blanks and comments, and a scanner gives these tokens
and no others, however far it reads before it rejects a character and starts again. -/
theorem scanner_answers_tile (source : String) :
    Tiles source (tokenize source) ∧
      ∀ (reach : List Char → Nat) (count : Nat),
        Scanner.answers reach count (Scanner.start source) =
          (List.range count).map fun place => (tokenize source)[place]? :=
  ⟨tiles_tokenize source, fun reach count => (Scanner.agrees_start source).answers_eq reach count⟩

end NovaLint
