import NovaLint.Proofs.Text.Slice
import NovaLint.Proofs.Token.Longest
import NovaLint.Token.Cursor

/-!
# Reading a token

One step of a cursor passes a gap, made of blanks and comments, and then the lexeme that the text
behind the gap calls for.  `reads_of_next?` says all that a step does, and
`exists_reads_of_mem_tokenize` finds for every token of a text the step that cut it.
-/

namespace NovaLint

open scoped Computability

namespace Trivia

/-- Nothing can be skipped at the front of the text. -/
def Clean (text : List Char) : Prop := ∀ skipped ∈ Trivia.language, ¬ skipped <+: text

theorem append_mem_kstar {piece gap : List Char} (piece_mem : piece ∈ Trivia.language)
    (gap_mem : gap ∈ Trivia.language∗) : piece ++ gap ∈ Trivia.language∗ := by
  obtain ⟨chunks, rfl, matched⟩ := gap_mem
  exact ⟨piece :: chunks, rfl, List.forall_mem_cons.mpr ⟨piece_mem, matched⟩⟩

theorem singleton_mem {c : Char} (blank : isBlank c) : [c] ∈ Trivia.language :=
  .inl (mem_blanks.mpr ⟨by simp, by simpa using blank⟩)

/-- What may be skipped at once in a mode: blanks and comments, before which the rest of a line
comes if a comment has begun. -/
def Mode.Skips : Mode → List Char → Prop
  | .code, skipped => skipped ∈ Trivia.language∗
  | .comment, skipped =>
    ∃ body gap, skipped = body ++ gap ∧ '\n' ∉ body ∧ gap ∈ Trivia.language∗

/-- Only blanks and comments are skipped. -/
theorem skips_take_length (mode : Mode) (text : List Char) :
    mode.Skips (text.take (length mode text)) := by
  fun_induction length mode text with
  | case1 mode =>
      cases mode with
      | code => exact Language.nil_mem_kstar _
      | comment => exact ⟨[], [], rfl, by simp, Language.nil_mem_kstar _⟩
  | case2 c rest ih =>
      rw [List.take_succ_cons]
      by_cases newline : c = '\n'
      · rw [if_pos newline] at ih ⊢
        refine ⟨[], c :: rest.take (length .code rest), rfl, by simp, ?_⟩
        exact append_mem_kstar (singleton_mem (newline ▸ rfl)) ih
      · rw [if_neg newline] at ih ⊢
        obtain ⟨body, gap, taken, one_line, gap_mem⟩ := ih
        refine ⟨c :: body, gap, by rw [taken, List.cons_append], ?_, gap_mem⟩
        simpa using ⟨Ne.symm newline, one_line⟩
  | case3 rest ih =>
      obtain ⟨body, gap, taken, one_line, gap_mem⟩ := ih
      have comment_mem : '/' :: '/' :: body ∈ Trivia.language :=
        .inr (mem_comment.mpr ⟨body, rfl, one_line⟩)
      rw [List.take_succ_cons, List.take_succ_cons, taken]
      exact append_mem_kstar comment_mem gap_mem
  | case4 c rest _ blank ih =>
      rw [List.take_succ_cons]
      exact append_mem_kstar (singleton_mem blank) ih
  | case5 c rest _ _ => exact Language.nil_mem_kstar _

/-- Trivia begins with a blank or with two slashes. -/
theorem front_of_mem {skipped : List Char} (skipped_mem : skipped ∈ Trivia.language) :
    (∃ c rest, skipped = c :: rest ∧ isBlank c) ∨ ∃ rest, skipped = '/' :: '/' :: rest := by
  rcases skipped_mem with blanks | comment
  · obtain ⟨nonempty, all_blank⟩ := mem_blanks.mp blanks
    obtain ⟨c, rest, rfl⟩ := List.exists_cons_of_ne_nil nonempty
    exact .inl ⟨c, rest, rfl, all_blank c List.mem_cons_self⟩
  · obtain ⟨rest, rfl, _⟩ := mem_comment.mp comment
    exact .inr ⟨rest, rfl⟩

/-- Nothing more can be skipped behind what was skipped. -/
theorem clean_drop_length (mode : Mode) (text : List Char) :
    Clean (text.drop (length mode text)) := by
  fun_induction length mode text with
  | case1 =>
      intro skipped skipped_mem front
      rw [List.prefix_nil.mp front] at skipped_mem
      rcases front_of_mem skipped_mem with ⟨_, _, nil_eq, _⟩ | ⟨_, nil_eq⟩ <;> simp at nil_eq
  | case2 c rest ih => exact ih
  | case3 rest ih => exact ih
  | case4 c rest _ _ ih => exact ih
  | case5 c rest no_comment not_blank =>
      intro skipped skipped_mem front
      rw [List.drop_zero] at front
      rcases front_of_mem skipped_mem with ⟨d, _, rfl, blank⟩ | ⟨_, rfl⟩
      · exact not_blank ((List.cons_prefix_cons.mp front).1 ▸ blank)
      · obtain ⟨rfl, slash⟩ := List.cons_prefix_cons.mp front
        obtain ⟨behind, rfl⟩ := slash
        exact no_comment _ rfl rfl

end Trivia

namespace Cursor

/-- A cursor passes a gap and stops behind a token. -/
structure Reads (cursor : Cursor) (gap : List Char) (token : Token) (behind : Cursor) : Prop where
  /-- The gap is made of blanks and comments. -/
  trivia : gap ∈ Trivia.language∗
  /-- The gap, the token and what is left make up the text. -/
  rest_eq : cursor.rest = gap ++ (token.text.toList ++ behind.rest)
  /-- The gap does not end too early. -/
  clean : Trivia.Clean (token.text.toList ++ behind.rest)
  /-- A token is never empty. -/
  nonempty : token.text.toList ≠ []
  /-- The token is what is to be cut behind the gap. -/
  chosen : token.kind.Chosen token.text.toList (token.text.toList ++ behind.rest)
  /-- The token is placed where the gap ends. -/
  place : cursor.position.advance gap = ⟨token.span.start, token.line⟩
  /-- The token ends where reading goes on. -/
  stop_eq : token.span.stop = behind.position.offset
  /-- Reading goes on behind the gap and the token. -/
  position_eq : behind.position = cursor.position.advance (gap ++ token.text.toList)

/-- A token is cut by what is recognized behind the trivia. -/
theorem exists_recognize_of_next? {cursor behind : Cursor} {token : Token}
    (found : cursor.next? = some (token, behind)) :
    ∃ first rest, cursor.skipTrivia.rest = first :: rest ∧
      token = cursor.skipTrivia.cut (.recognize first rest) ∧
      behind = cursor.skipTrivia.advance (Lexeme.recognize first rest).size := by
  cases text_eq : cursor.skipTrivia.rest with
  | nil =>
      have nothing : cursor.next? = none := read?_eq_none_iff.mpr text_eq
      exact absurd (nothing.symm.trans found) (Option.some_ne_none _).symm
  | cons first rest =>
      rw [next?, read?_of_rest_eq_cons text_eq, Option.some.injEq, Prod.mk.injEq] at found
      exact ⟨first, rest, rfl, found.1.symm, found.2.symm⟩

theorem reads_of_next? {cursor behind : Cursor} {token : Token}
    (found : cursor.next? = some (token, behind)) : ∃ gap, cursor.Reads gap token behind := by
  obtain ⟨first, rest, text_eq, rfl, rfl⟩ := exists_recognize_of_next? found
  have clean := Trivia.clean_drop_length .code cursor.rest
  have trivia : cursor.rest.take (Trivia.length .code cursor.rest) ∈ Trivia.language∗ :=
    Trivia.skips_take_length .code cursor.rest
  have chosen := Lexeme.recognize_chosen first rest
  generalize Lexeme.recognize first rest = lexeme at chosen ⊢
  rw [Lexeme.Chosen] at chosen
  have text_toList : (cursor.skipTrivia.cut lexeme).text.toList =
      (first :: rest).take lexeme.size := by
    rw [cut, String.toList_ofList, text_eq]
  have split : (cursor.skipTrivia.cut lexeme).text.toList ++
      (cursor.skipTrivia.advance lexeme.size).rest = first :: rest := by
    rw [text_toList, rest_advance, text_eq, List.take_append_drop]
  rw [rest_skipTrivia] at text_eq
  refine ⟨cursor.rest.take (Trivia.length .code cursor.rest), trivia, ?_, ?_, ?_, ?_, rfl, rfl, ?_⟩
  · rw [split, ← text_eq, List.take_append_drop]
  · rw [split, ← text_eq]
    exact clean
  · rw [text_toList, Lexeme.size, List.take_succ_cons]
    exact List.cons_ne_nil first _
  · rw [split, text_toList]
    exact chosen
  · rw [Text.Position.advance_append, text_toList, ← text_eq]
    rfl

/-- Where no token follows, only blanks and comments are left. -/
theorem rest_mem_of_next?_eq_none {cursor : Cursor} (done : cursor.next? = none) :
    cursor.rest ∈ Trivia.language∗ := by
  have nothing_left := read?_eq_none_iff.mp done
  rw [rest_skipTrivia] at nothing_left
  have skipped : cursor.rest.take (Trivia.length .code cursor.rest) ∈ Trivia.language∗ :=
    Trivia.skips_take_length .code cursor.rest
  rwa [List.take_of_length_le (List.drop_eq_nil_iff.mp nothing_left)] at skipped

/-- Every token behind a cursor is cut by one step from a place further on. -/
theorem exists_reads_of_mem {cursor : Cursor} {token : Token} (member : token ∈ cursor.tokens) :
    ∃ front gap here behind, cursor.rest = front ++ here.rest ∧
      here.position = cursor.position.advance front ∧ Reads here gap token behind := by
  fun_induction tokens cursor with
  | case1 cursor done => exact absurd member List.not_mem_nil
  | case2 cursor first next found ih =>
      obtain ⟨gap, reads⟩ := reads_of_next? found
      rcases List.mem_cons.mp member with rfl | later
      · exact ⟨[], gap, cursor, next, rfl, rfl, reads⟩
      · obtain ⟨front, gap', here, behind, rest_eq, position_eq, reads'⟩ := ih later
        refine ⟨gap ++ first.text.toList ++ front, gap', here, behind, ?_, ?_, reads'⟩
        · rw [reads.rest_eq, rest_eq]
          simp only [List.append_assoc]
        · rw [position_eq, reads.position_eq, ← Text.Position.advance_append]

end Cursor

/-- Every token of a text is cut by one step from the place that its offset and its line tell. -/
theorem exists_reads_of_mem_tokenize {source : String} {token : Token}
    (member : token ∈ tokenize source) :
    ∃ front gap here behind, source.toList = front ++ (token.text.toList ++ behind.rest) ∧
      Text.byteLength front = token.span.start ∧ token.line = 1 + front.count '\n' ∧
      Cursor.Reads here gap token behind := by
  obtain ⟨front, gap, here, behind, rest_eq, position_eq, reads⟩ :=
    Cursor.exists_reads_of_mem member
  have place : Text.Position.start.advance (front ++ gap) = ⟨token.span.start, token.line⟩ := by
    rw [Text.Position.advance_append, ← reads.place, position_eq]
    rfl
  rw [Text.Position.advance_start, Text.Position.mk.injEq] at place
  obtain ⟨start_eq, line_eq⟩ := place
  refine ⟨front ++ gap, gap, here, behind, ?_, start_eq, line_eq.symm, reads⟩
  rw [List.append_assoc, ← reads.rest_eq, ← rest_eq]
  rfl

end NovaLint
