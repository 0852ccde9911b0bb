import NovaLint.Proofs.Token.OneLine

/-!
# Quotes in a line

Blanks and quotes stand in the texts of literals only, except for a quote that opens nothing and is
a token of its own.  A double quote that is never closed leaves no room for a string on the rest of
its line: every later double quote has a backslash before it that takes it along, so it could close
a string but not begin one that is closed in turn.
-/

namespace NovaLint

/-- Behind a quote that is never closed no later quote of the line is. -/
theorem Lexeme.stringExtra?_eq_none_of_later {rest front back : List Char}
    (one_line : '\n' ∉ rest) (never_closed : stringExtra? rest = none)
    (later : rest = front ++ '"' :: back) : stringExtra? back = none := by
  fun_induction stringExtra? rest generalizing front with
  | case1 => simp at later
  | case2 => simp at never_closed
  | case3 => simp at one_line
  | case4 c rest _ ih =>
      rw [Option.map_eq_none_iff] at never_closed
      simp only [List.mem_cons, not_or] at one_line
      -- The backslash is no quote, so the later one is what it takes along or stands behind that.
      cases front with
      | nil => simp at later
      | cons _ front =>
          cases front with
          | nil =>
              simp only [List.cons_append, List.nil_append, List.cons.injEq] at later
              exact later.2.2 ▸ never_closed
          | cons _ front =>
              simp only [List.cons_append, List.cons.injEq] at later
              exact ih one_line.2.2 never_closed later.2.2
  | case5 c rest not_quote not_escape broken =>
      rcases broken with rfl | rfl
      · -- A backslash at the end of the line.
        cases rest with
        | nil => cases front <;> simp at later
        | cons c rest => exact absurd rfl (not_escape c rest rfl)
      · simp at one_line
  | case6 c rest not_quote _ _ ih =>
      rw [Option.map_eq_none_iff] at never_closed
      simp only [List.mem_cons, not_or] at one_line
      cases front with
      | nil => exact absurd (List.cons.inj later).1 not_quote
      | cons _ front => exact ih one_line.2 never_closed (List.cons.inj later).2

/-- Where a token holds blanks and quotes. -/
inductive Token.Quoting (token : Token) : Prop
  /-- It holds none. -/
  | bare (nonempty : token.text.toList ≠ [])
      (no_quotes : ∀ c ∈ token.text.toList, c ∉ [' ', '"', '\''])
  /-- It is a quote that opens nothing. -/
  | lone (quote : Char) (is_quote : quote ∈ ['"', '\'']) (kind_eq : token.kind = .unrecognized)
      (text_eq : token.text.toList = [quote])
  /-- It is a string. -/
  | string (body : List Char) (matched : body ∈ (Pattern.quotable '"').many.language)
      (kind_eq : token.kind = .stringLiteral) (text_eq : token.text.toList = '"' :: (body ++ ['"']))
  /-- It is a character between quotes. -/
  | char (body : List Char) (matched : body ∈ (Pattern.quotable '\'').language)
      (kind_eq : token.kind = .charLiteral)
      (text_eq : token.text.toList = '\'' :: (body ++ ['\'']))

theorem Cursor.Reads.string {cursor behind : Cursor} {gap : List Char} {token : Token}
    (reads : cursor.Reads gap token behind) (string : token.kind = .stringLiteral) :
    ∃ body ∈ (Pattern.quotable '"').many.language,
      token.text.toList = '"' :: (body ++ ['"']) := by
  cases reads.chosen with
  | found longest => exact Kind.mem_stringLiteral.mp (string ▸ longest.matched)
  | missing unknown _ _ _ => exact absurd (unknown.symm.trans string) (by decide)

theorem Cursor.Reads.quoting {cursor behind : Cursor} {gap : List Char} {token : Token}
    (reads : cursor.Reads gap token behind) : token.Quoting := by
  cases reads.chosen with
  | found longest =>
      have matched := longest.matched
      by_cases string : token.kind = .stringLiteral
      · obtain ⟨body, body_mem, text_eq⟩ := reads.string string
        exact .string body body_mem string text_eq
      by_cases char : token.kind = .charLiteral
      · rw [char] at matched
        obtain ⟨body, body_mem, text_eq⟩ := Kind.mem_charLiteral.mp matched
        exact .char body body_mem char text_eq
      refine .bare reads.nonempty fun c member held => ?_
      have bare := Kind.isBare_of_mem matched string char c member
      simp only [List.mem_cons, List.not_mem_nil, or_false] at held
      rcases held with rfl | rfl | rfl <;> exact absurd bare (by decide)
  | missing unknown _ alone _ =>
      obtain ⟨c, text_eq⟩ := List.length_eq_one_iff.mp alone
      by_cases quote : c ∈ ['"', '\'']
      · exact .lone c quote unknown text_eq
      · refine .bare reads.nonempty fun d member held => ?_
        rw [text_eq, List.mem_singleton] at member
        subst member
        rcases List.mem_cons.mp held with rfl | held
        · have clean := reads.clean
          rw [text_eq] at clean
          exact clean [' '] (Trivia.singleton_mem rfl) (List.prefix_append _ _)
        · exact quote held

/-- A double quote that opens nothing is never closed. -/
theorem Cursor.Reads.never_closed {cursor behind : Cursor} {gap : List Char} {token : Token}
    (reads : cursor.Reads gap token behind) (unknown : token.kind = .unrecognized)
    (text_eq : token.text.toList = ['"']) : Lexeme.stringExtra? behind.rest = none := by
  by_contra closed
  obtain ⟨extra, found⟩ := Option.ne_none_iff_exists'.mp closed
  obtain ⟨body, body_mem, front, _⟩ := Lexeme.exists_body_of_stringExtra? found
  have string : '"' :: (body ++ ['"']) ∈ Kind.language .stringLiteral :=
    Kind.mem_stringLiteral.mpr ⟨body, body_mem, rfl⟩
  have at_front : '"' :: (body ++ ['"']) <+: token.text.toList ++ behind.rest := by
    rw [text_eq]
    exact List.cons_prefix_cons.mpr ⟨rfl, front⟩
  cases reads.chosen with
  | found longest =>
      have matched := longest.matched
      rw [unknown] at matched
      exact absurd matched (Language.notMem_zero _)
  | missing _ _ _ unmatched => exact unmatched .stringLiteral _ string at_front

/-- What is known of the tokens of a line without looking at the line. -/
structure Token.OfLine (tokens : List Token) : Prop where
  /-- Every token is chosen in some text. -/
  chosen : ∀ token ∈ tokens, ∃ text, token.kind.Chosen token.text.toList text
  /-- Blanks and quotes stand where tokens can hold them. -/
  quoting : ∀ token ∈ tokens, token.Quoting
  /-- No token passes the end of the line. -/
  one_line : ∀ token ∈ tokens, '\n' ∉ token.text.toList
  /-- Behind a double quote that opens nothing there is no string. -/
  no_string : tokens.Pairwise fun earlier later =>
    earlier.kind = .unrecognized → earlier.text.toList = ['"'] → later.kind ≠ .stringLiteral

theorem Token.OfLine.tail {token : Token} {later : List Token}
    (ofLine : OfLine (token :: later)) : OfLine later where
  chosen next member := ofLine.chosen next (List.mem_cons_of_mem token member)
  quoting next member := ofLine.quoting next (List.mem_cons_of_mem token member)
  one_line next member := ofLine.one_line next (List.mem_cons_of_mem token member)
  no_string := (List.pairwise_cons.mp ofLine.no_string).2

theorem Cursor.ofLine_tokens {cursor : Cursor} (one_line : '\n' ∉ cursor.rest) :
    Token.OfLine cursor.tokens := by
  constructor
  case chosen =>
    intro token member
    obtain ⟨_, _, _, _, _, _, reads⟩ := exists_reads_of_mem member
    exact ⟨_, reads.chosen⟩
  case quoting =>
    intro token member
    obtain ⟨_, _, _, _, _, _, reads⟩ := exists_reads_of_mem member
    exact reads.quoting
  case one_line =>
    intro token member
    obtain ⟨_, _, _, _, _, _, reads⟩ := exists_reads_of_mem member
    exact reads.newline_not_mem
  case no_string =>
    fun_induction tokens cursor with
    | case1 => exact List.Pairwise.nil
    | case2 cursor token behind found ih =>
        refine List.pairwise_cons.mpr ⟨?_, ih (one_line_of_next? one_line found)⟩
        intro later member unknown open_quote string
        obtain ⟨gap, reads⟩ := reads_of_next? found
        obtain ⟨front, gap', here, next, rest_eq, _, reads'⟩ := exists_reads_of_mem member
        obtain ⟨body, body_mem, text_eq⟩ := reads'.string string
        have later_quote :
            behind.rest = (front ++ gap') ++ '"' :: (body ++ '"' :: next.rest) := by
          rw [rest_eq, reads'.rest_eq, text_eq]
          simp
        have not_closed := Lexeme.stringExtra?_eq_none_of_later
          (one_line_of_next? one_line found) (reads.never_closed unknown open_quote) later_quote
        rw [Lexeme.stringExtra?_append body_mem] at not_closed
        cases not_closed

end NovaLint
