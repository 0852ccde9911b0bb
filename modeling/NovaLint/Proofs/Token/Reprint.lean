import NovaLint.Proofs.Token.Blanking

/-!
# Printing the tokens of a text

The tokens of a text can be printed again, one behind the other with a separator in between.  Each
of them was cut as the longest match among its old neighbours, and stands among others now.  No
pattern of a token reaches over the end of a line, so with one token on a line all are cut as
before.  A space is no such bound: a quote that was never closed may find an end behind it.  A text
without errors holds no such quotes, and its tokens can be printed with spaces as well.
-/

namespace NovaLint

/-- What a token is and how it is written, wherever it stands. -/
def Token.outline (token : Token) : Kind × String := (token.kind, token.text)

/-- The texts of tokens, joined by a separator. -/
def reprint (separator : Char) (tokens : List Token) : String :=
  (String.singleton separator).intercalate (tokens.map (·.text))

/-- A text is empty or begins with a separator. -/
def Text.Parted (separator : Char) (text : List Char) : Prop :=
  text = [] ∨ ∃ later, text = separator :: later

/-- What holds no separator cannot reach over one. -/
theorem Text.Parted.prefix_left {separator : Char} {piece front behind : List Char}
    (parted : Parted separator behind) (free : separator ∉ piece)
    (at_front : piece <+: front ++ behind) : piece <+: front := by
  rcases parted with rfl | ⟨later, rfl⟩
  · rwa [List.append_nil] at at_front
  · exact prefix_of_prefix_append_cons free at_front

/-- The token is cut as it is wherever the text ends behind it or goes on with a separator. -/
structure Token.Stands (separator : Char) (token : Token) : Prop where
  nonempty : token.text.toList ≠ []
  clean : ∀ behind, Text.Parted separator behind → Trivia.Clean (token.text.toList ++ behind)
  chosen : ∀ behind, Text.Parted separator behind →
    token.kind.Chosen token.text.toList (token.text.toList ++ behind)

/-- What is to be cut from a text is to be cut if nothing stands behind it. -/
theorem Kind.Chosen.alone {kind : Kind} {piece behind : List Char}
    (chosen : kind.Chosen piece (piece ++ behind)) : kind.Chosen piece piece := by
  cases chosen with
  | found longest =>
      exact .found
        { front := List.prefix_rfl
          matched := longest.matched
          bound := fun _ _ _ front => front.length_le
          only := longest.only }
  | missing unknown front alone unmatched =>
      refine .missing unknown List.prefix_rfl alone fun other candidate matched front => ?_
      exact unmatched other candidate matched (front.trans (List.prefix_append piece behind))

namespace Cursor.Reads

variable {cursor behind : Cursor} {gap : List Char} {token : Token}

/-- A separator leaves nothing to be skipped before the token, if comments are not made of it. -/
theorem clean_parted (reads : cursor.Reads gap token behind) {separator : Char}
    (no_slash : separator ≠ '/') {later : List Char} (parted : Text.Parted separator later) :
    Trivia.Clean (token.text.toList ++ later) :=
  reads.clean.append reads.nonempty fun slashes =>
    (parted.prefix_left (by simp [no_slash]) slashes).trans (List.prefix_append _ _)

/-- No pattern reaches over the end of a line. -/
theorem stands_newline (reads : cursor.Reads gap token behind) : token.Stands '\n' where
  nonempty := reads.nonempty
  clean _ parted := reads.clean_parted (by decide) parted
  chosen later parted := by
    have alone := reads.chosen.alone
    rcases parted with rfl | ⟨later, rfl⟩
    · rwa [List.append_nil]
    · exact alone.append_newline later

/-- Outside quotes no pattern reaches over a space, and a quoted token is told by its own
characters. -/
theorem stands_space (reads : cursor.Reads gap token behind) (known : token.kind ≠ .unrecognized) :
    token.Stands ' ' where
  nonempty := reads.nonempty
  clean _ parted := reads.clean_parted (by decide) parted
  chosen _ parted := reads.chosen.of_spacesOver known fun _ no_space front =>
    (parted.prefix_left no_space front).trans (List.prefix_append _ _)

end Cursor.Reads

/-- Tokens that stand one behind the other from a place on, with a separator in between. -/
def Token.placed (separator : Char) : Text.Position → List Token → List Token
  | _, [] => []
  | position, token :: later =>
    let stop := position.advance token.text.toList
    { token with line := position.line, span := ⟨position.offset, stop.offset⟩ } ::
      placed separator (stop.step separator) later

theorem Token.outline_placed (separator : Char) (position : Text.Position) (tokens : List Token) :
    (placed separator position tokens).map outline = tokens.map outline := by
  induction tokens generalizing position with
  | nil => rfl
  | cons token later ih => rw [placed, List.map_cons, ih, List.map_cons]; rfl

/-- Tokens that are parted by line feeds stand on one line after the other. -/
theorem Token.lines_placed {tokens : List Token}
    (one_line : ∀ token ∈ tokens, '\n' ∉ token.text.toList) (position : Text.Position) :
    (placed '\n' position tokens).map (·.line) = List.range' position.line tokens.length := by
  induction tokens generalizing position with
  | nil => rfl
  | cons token later ih =>
      obtain ⟨first_one_line, later_one_line⟩ := List.forall_mem_cons.mp one_line
      have next_line : ((position.advance token.text.toList).step '\n').line =
          position.line + 1 := by
        rw [Text.Position.advance_of_one_line first_one_line]
        rfl
      rw [placed, List.map_cons, ih later_one_line, next_line, List.length_cons, List.range'_succ]

namespace Cursor

/-- A blank before a text is passed. -/
theorem tokens_cons_of_isBlank {c : Char} (blank : Trivia.isBlank c) (rest : List Char)
    (position : Text.Position) :
    (Cursor.mk (c :: rest) position).tokens = (Cursor.mk rest (position.step c)).tokens := by
  have skips : Trivia.length .code ([c] ++ rest) = [c].length + Trivia.length .code rest := by
    rw [List.singleton_append, Trivia.length_cons_of_isBlank blank, Nat.add_comm]
    rfl
  exact tokens_congr (next?_append skips position)

/-- Tokens that are cut as they are before a separator are cut from their print again. -/
theorem tokens_reprint {separator : Char} (blank : Trivia.isBlank separator) {tokens : List Token}
    (stands : ∀ token ∈ tokens, token.Stands separator) (position : Text.Position) :
    (Cursor.mk ([separator].intercalate (tokens.map (·.text.toList))) position).tokens =
      Token.placed separator position tokens := by
  induction tokens generalizing position with
  | nil => exact tokens_eq_nil rfl
  | cons token later ih =>
      obtain ⟨first_stands, later_stands⟩ := List.forall_mem_cons.mp stands
      have first_cut : ∀ behind, Text.Parted separator behind →
          (Cursor.mk (token.text.toList ++ behind) position).tokens =
            { token with
                line := position.line
                span := ⟨position.offset, (position.advance token.text.toList).offset⟩ } ::
              (Cursor.mk behind (position.advance token.text.toList)).tokens :=
        fun behind parted => by
          rw [tokens_eq_cons (next?_of_chosen first_stands.nonempty
            (first_stands.clean behind parted) (first_stands.chosen behind parted) position),
            String.ofList_toList]
      cases later with
      | nil =>
          have nothing_left : ∀ stop, (Cursor.mk [] stop).tokens = [] := fun _ => tokens_eq_nil rfl
          have alone := first_cut [] (.inl rfl)
          rw [List.append_nil, nothing_left] at alone
          rw [List.map_singleton, List.intercalate_singleton]
          exact alone
      | cons next later =>
          have later_cut := ih later_stands ((position.advance token.text.toList).step separator)
          rw [List.map_cons] at later_cut
          rw [List.map_cons, List.map_cons, List.intercalate_cons_cons, List.append_assoc,
            List.singleton_append, first_cut _ (.inr ⟨_, rfl⟩), tokens_cons_of_isBlank blank,
            later_cut]
          rfl

end Cursor

theorem toList_reprint (separator : Char) (tokens : List Token) :
    (reprint separator tokens).toList = [separator].intercalate (tokens.map (·.text.toList)) := by
  rw [reprint, String.toList_intercalate, List.map_map, String.toList_singleton]
  rfl

/-- Tokens that are cut as they are before a separator are those of their print. -/
theorem tokenize_reprint_eq_placed {separator : Char} (blank : Trivia.isBlank separator)
    {tokens : List Token} (stands : ∀ token ∈ tokens, token.Stands separator) :
    tokenize (reprint separator tokens) = Token.placed separator .start tokens := by
  rw [tokenize, Cursor.start, toList_reprint]
  exact Cursor.tokens_reprint blank stands .start

/-- A text that is printed with each of its tokens on a line of its own has the same tokens, and a
text without errors also if they are parted by spaces. -/
theorem tokenize_reprint (source : String) :
    (tokenize (reprint '\n' (tokenize source))).map Token.outline =
        (tokenize source).map Token.outline ∧
      (tokenize (reprint '\n' (tokenize source))).map (·.line) =
        List.range' 1 (tokenize source).length ∧
      ((∀ token ∈ tokenize source, token.isError = false) →
        (tokenize (reprint ' ' (tokenize source))).map Token.outline =
          (tokenize source).map Token.outline) := by
  have reads : ∀ token ∈ tokenize source, ∃ gap here behind, Cursor.Reads here gap token behind :=
    fun token member => by
      obtain ⟨_, gap, here, behind, _, _, _, reads⟩ := exists_reads_of_mem_tokenize member
      exact ⟨gap, here, behind, reads⟩
  have on_lines : tokenize (reprint '\n' (tokenize source)) =
      Token.placed '\n' .start (tokenize source) :=
    tokenize_reprint_eq_placed (by decide) fun token member => by
      obtain ⟨_, _, _, reads⟩ := reads token member
      exact reads.stands_newline
  refine ⟨?_, ?_, fun clean => ?_⟩
  · rw [on_lines, Token.outline_placed]
  · rw [on_lines]
    refine Token.lines_placed (fun token member => ?_) .start
    obtain ⟨_, _, _, reads⟩ := reads token member
    exact reads.newline_not_mem
  · rw [tokenize_reprint_eq_placed (by decide) fun token member => ?_, Token.outline_placed]
    obtain ⟨_, _, _, reads⟩ := reads token member
    refine reads.stands_space fun unknown => ?_
    simpa [Token.isError, unknown] using clean token member

/-- A comment and a quote between quotes, a lone slash before a quoted one, and a comment. -/
def slashedText : String := "\"// \\\" '\"/'/'1.5// x\n'\"'"

theorem tokenize_reprint_slashed :
    (∀ token ∈ tokenize slashedText, token.isError = false) ∧
      (tokenize (reprint ' ' (tokenize slashedText))).map Token.outline =
        (tokenize slashedText).map Token.outline := by
  have clean : ∀ token ∈ tokenize slashedText, token.isError = false := by decide +kernel
  exact ⟨clean, (tokenize_reprint slashedText).2.2 clean⟩

/-- Two quotes that are never closed hold the space between them. -/
example : (tokenize (reprint ' ' (tokenize "'\n'"))).map Token.outline =
    [(.charLiteral, "' '")] := by decide +kernel

end NovaLint
