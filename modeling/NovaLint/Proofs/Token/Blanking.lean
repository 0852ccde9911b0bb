import NovaLint.Proofs.Token.OneLine

/-!
# Unrecognized characters are local

A character that starts no token changes nothing around it.  If spaces are written over all of them,
the other tokens of the text are cut as before and stand where they stood.  Outside quotes no token
holds a space, and neither do the two slashes of a comment, so nothing can be matched across the
spaces that was not matched before; a token between quotes is told by its own characters alone.
-/

namespace NovaLint

/-- The range holds the byte at an offset. -/
def Text.Span.covers (span : Span) (offset : Nat) : Bool :=
  decide (span.start ≤ offset ∧ offset < span.stop)

/-- A text that begins at an offset, with spaces over the characters that begin at some offsets.
Every byte of such a character becomes a space. -/
def Text.blank (covered : Nat → Bool) (offset : Nat) : List Char → List Char
  | [] => []
  | c :: rest =>
    (if covered offset then List.replicate c.utf8Size ' ' else [c]) ++
      blank covered (offset + c.utf8Size) rest

/-- One of the tokens is an unrecognized character with a byte at the offset. -/
def errorAt (tokens : List Token) (offset : Nat) : Bool :=
  tokens.any fun token => token.isError && token.span.covers offset

/-- The text with spaces over its unrecognized characters. -/
def blankErrors (source : String) : String :=
  String.ofList (Text.blank (errorAt (tokenize source)) 0 source.toList)

/-- What stands at the front of the other text and holds no space stands at the front of the text as
well. -/
def Text.SpacesOver (text other : List Char) : Prop :=
  ∀ piece : List Char, ' ' ∉ piece → piece <+: other → piece <+: text

namespace Text

theorem byteLength_spaces (count : Nat) : byteLength (List.replicate count ' ') = count := by
  induction count with
  | zero => rfl
  | succ count ih =>
      rw [List.replicate_succ, byteLength_cons, ih, show ' '.utf8Size = 1 from rfl, Nat.add_comm]

theorem byteLength_blank (covered : Nat → Bool) (offset : Nat) (text : List Char) :
    byteLength (blank covered offset text) = byteLength text := by
  induction text generalizing offset with
  | nil => rfl
  | cons c text ih =>
      rw [blank, byteLength_append, ih, byteLength_cons]
      split
      · rw [byteLength_spaces]
      · rfl

theorem blank_append (covered : Nat → Bool) (offset : Nat) (front back : List Char) :
    blank covered offset (front ++ back) =
      blank covered offset front ++ blank covered (offset + byteLength front) back := by
  induction front generalizing offset with
  | nil => rfl
  | cons c front ih =>
      rw [List.cons_append, blank, ih, blank, byteLength_cons, List.append_assoc, Nat.add_assoc]

variable {covered : Nat → Bool} {offset : Nat} {text : List Char}

theorem blank_of_clear
    (clear : ∀ place, offset ≤ place → place < offset + byteLength text → covered place = false) :
    blank covered offset text = text := by
  induction text generalizing offset with
  | nil => rfl
  | cons c text ih =>
      have positive := c.utf8Size_pos
      rw [byteLength_cons] at clear
      have first_clear : covered offset = false := clear offset le_rfl (by omega)
      have later_clear : blank covered (offset + c.utf8Size) text = text :=
        ih fun place lower upper => clear place (by omega) (by omega)
      rw [blank, later_clear, first_clear]
      rfl

theorem blank_of_covered
    (all_covered : ∀ place, offset ≤ place → place < offset + byteLength text →
      covered place = true) :
    blank covered offset text = List.replicate (byteLength text) ' ' := by
  induction text generalizing offset with
  | nil => rfl
  | cons c text ih =>
      have positive := c.utf8Size_pos
      rw [byteLength_cons] at all_covered
      have first_covered : covered offset = true := all_covered offset le_rfl (by omega)
      have later_covered : blank covered (offset + c.utf8Size) text =
          List.replicate (byteLength text) ' ' :=
        ih fun place lower upper => all_covered place (by omega) (by omega)
      rw [blank, later_covered, if_pos first_covered, byteLength_cons, List.replicate_add]

theorem spacesOver_blank (covered : Nat → Bool) (offset : Nat) (text : List Char) :
    SpacesOver text (blank covered offset text) := by
  induction text generalizing offset with
  | nil => exact fun _ _ front => front
  | cons c text ih =>
      intro piece no_space front
      cases piece with
      | nil => exact List.nil_prefix
      | cons d piece =>
          simp only [List.mem_cons, not_or] at no_space
          rw [blank] at front
          split at front
          · -- The other text begins with a space, and the piece does not.
            obtain ⟨more, size_eq⟩ := Nat.exists_eq_succ_of_ne_zero c.utf8Size_pos.ne'
            rw [size_eq, List.replicate_succ, List.cons_append] at front
            exact absurd (List.cons_prefix_cons.mp front).1.symm no_space.1
          · obtain ⟨rfl, behind⟩ := List.cons_prefix_cons.mp front
            exact List.cons_prefix_cons.mpr ⟨rfl, ih _ piece no_space.2 behind⟩

/-- Two texts with as many bytes and as many line feeds lead to the same place. -/
theorem Position.advance_congr {text other : List Char}
    (same_bytes : byteLength text = byteLength other)
    (same_lines : text.count '\n' = other.count '\n') (position : Position) :
    position.advance text = position.advance other := by
  have same_offset : (position.advance text).offset = (position.advance other).offset := by
    rw [advance_offset, advance_offset, same_bytes]
  have same_line : (position.advance text).line = (position.advance other).line := by
    rw [advance_line, advance_line, same_lines]
  exact congrArg₂ Position.mk same_offset same_line

end Text

namespace Trivia

/-- What is skipped before a token is skipped before any other text too. -/
theorem length_append_of_length_eq {mode : Mode} {gap tail : List Char} (nonempty : tail ≠ [])
    (ends : length mode (gap ++ tail) = gap.length) (other : List Char) :
    length mode (gap ++ other) = gap.length + length .code other := by
  generalize text_eq : gap ++ tail = text at ends
  fun_induction length mode text generalizing gap with
  | case1 => exact absurd (List.append_eq_nil_iff.mp text_eq).2 nonempty
  | case2 c rest ih =>
      cases gap with
      | nil => cases ends
      | cons _ gap =>
          obtain ⟨rfl, rest_eq⟩ := List.cons.inj text_eq
          rw [List.cons_append, length, ih rest_eq (Nat.succ.inj ends), List.length_cons,
            Nat.add_right_comm]
  | case3 rest ih =>
      cases gap with
      | nil => cases ends
      | cons _ gap =>
          cases gap with
          | nil => cases Nat.succ.inj ends
          | cons _ gap =>
              simp only [List.cons_append, List.cons.injEq] at text_eq
              obtain ⟨rfl, rfl, rest_eq⟩ := text_eq
              rw [List.cons_append, List.cons_append, length,
                ih rest_eq (Nat.succ.inj (Nat.succ.inj ends)), List.length_cons,
                List.length_cons]
              omega
  | case4 c rest _ blank ih =>
      cases gap with
      | nil => cases ends
      | cons first gap =>
          obtain ⟨rfl, rest_eq⟩ := List.cons.inj text_eq
          rw [List.cons_append, length_cons_of_isBlank blank, ih rest_eq (Nat.succ.inj ends),
            List.length_cons, Nat.add_right_comm]
  | case5 c rest _ _ =>
      rw [List.length_eq_zero_iff.mp ends.symm, List.nil_append, List.length_nil, Nat.zero_add]

theorem length_spaces_append (count : Nat) (rest : List Char) :
    length .code (List.replicate count ' ' ++ rest) = count + length .code rest := by
  induction count with
  | zero => simp
  | succ count ih =>
      have blank : isBlank ' ' := rfl
      rw [List.replicate_succ, List.cons_append, length_cons_of_isBlank blank, ih,
        Nat.add_right_comm]

theorem length_eq_zero_of_clean {text : List Char} (clean : Clean text) :
    length .code text = 0 := by
  generalize mode_eq : Mode.code = mode
  fun_cases length mode text with
  | case1 => rfl
  | case2 => cases mode_eq
  | case3 rest =>
      have slashes : ['/', '/'] ∈ Trivia.language := .inr (mem_comment.mpr ⟨[], rfl, by simp⟩)
      exact absurd (List.prefix_append ['/', '/'] rest) (clean _ slashes)
  | case4 c rest _ blank =>
      exact absurd (List.prefix_append [c] rest) (clean _ (singleton_mem blank))
  | case5 => rfl

/-- Another text behind a token leaves nothing to be skipped before it, if no comment begins with
the token. -/
theorem Clean.append {piece old new : List Char} (nonempty : piece ≠ [])
    (clean : Clean (piece ++ old))
    (slashes : ['/', '/'] <+: piece ++ new → ['/', '/'] <+: piece ++ old) :
    Clean (piece ++ new) := by
  intro skipped skipped_mem front
  rcases front_of_mem skipped_mem with ⟨c, rest, rfl, blank⟩ | ⟨rest, rfl⟩
  · obtain ⟨d, piece, rfl⟩ := List.exists_cons_of_ne_nil nonempty
    obtain ⟨rfl, _⟩ := List.cons_prefix_cons.mp front
    exact clean [c] (singleton_mem blank) (List.prefix_append [c] _)
  · have comment : ['/', '/'] ∈ Trivia.language := .inr (mem_comment.mpr ⟨[], rfl, by simp⟩)
    exact clean _ comment (slashes ((List.prefix_append ['/', '/'] rest).trans front))

/-- Spaces behind a token leave nothing to be skipped before it. -/
theorem Clean.of_spacesOver {piece old new : List Char} (nonempty : piece ≠ [])
    (clean : Clean (piece ++ old)) (spaced : Text.SpacesOver (piece ++ old) (piece ++ new)) :
    Clean (piece ++ new) :=
  clean.append nonempty (spaced _ (by decide))

end Trivia

namespace Lexeme

private theorem take_quoted (quote : Char) (body behind : List Char) :
    (quote :: (body ++ quote :: behind)).take (body.length + 1 + 1) =
      quote :: (body ++ [quote]) := by
  rw [List.take_succ_cons, List.take_length_add_append, List.take_succ_cons, List.take_zero]

theorem chosen_string {body : List Char}
    (matched : body ∈ (Pattern.quotable '"').many.language) (behind : List Char) :
    Kind.Chosen .stringLiteral ('"' :: (body ++ ['"'])) ('"' :: (body ++ '"' :: behind)) := by
  have recognized : recognize '"' (body ++ '"' :: behind) = ⟨.stringLiteral, body.length + 1⟩ := by
    simp [recognize, startsWord, stringExtra?_append matched]
  have chosen := recognize_chosen '"' (body ++ '"' :: behind)
  rwa [recognized, Chosen, size, take_quoted] at chosen

theorem chosen_char {body : List Char}
    (matched : body ∈ (Pattern.quotable '\'').language) (behind : List Char) :
    Kind.Chosen .charLiteral ('\'' :: (body ++ ['\''])) ('\'' :: (body ++ '\'' :: behind)) := by
  have recognized : recognize '\'' (body ++ '\'' :: behind) = ⟨.charLiteral, body.length + 1⟩ := by
    simp [recognize, startsWord, charExtra?_append matched]
  have chosen := recognize_chosen '\'' (body ++ '\'' :: behind)
  rwa [recognized, Chosen, size, take_quoted] at chosen

end Lexeme

namespace Kind

/-- The first character tells which matches are literals between quotes. -/
theorem eq_of_quoted_family {kind other : Kind} (same : other.family = kind.family)
    (quoted : other = stringLiteral ∨ other = charLiteral) : kind = other := by
  rcases quoted with rfl | rfl <;> cases kind <;> simp_all [family]

/-- A token is cut as before if spaces are written over the text behind it. -/
theorem Chosen.of_spacesOver {kind : Kind} {piece old new : List Char}
    (known : kind ≠ unrecognized) (chosen : kind.Chosen piece (piece ++ old))
    (spaced : Text.SpacesOver (piece ++ old) (piece ++ new)) :
    kind.Chosen piece (piece ++ new) := by
  cases chosen with
  | missing unknown => exact absurd unknown known
  | found longest =>
      have matched := longest.matched
      by_cases string : kind = stringLiteral
      · subst string
        obtain ⟨body, body_mem, rfl⟩ := mem_stringLiteral.mp matched
        simpa using Lexeme.chosen_string body_mem new
      by_cases char : kind = charLiteral
      · subst char
        obtain ⟨body, body_mem, rfl⟩ := mem_charLiteral.mp matched
        simpa using Lexeme.chosen_char body_mem new
      refine .found ⟨List.prefix_append piece new, matched, ?_, longest.only⟩
      intro other candidate candidate_mem front
      obtain ⟨first, rest, rfl, led⟩ := family_of_mem matched
      have same : other.family = kind.family :=
        (match_at_front candidate_mem front).1.trans led
      have bare := isBare_of_mem candidate_mem
        (fun other_eq => string ((eq_of_quoted_family same (.inl other_eq)).trans other_eq))
        (fun other_eq => char ((eq_of_quoted_family same (.inr other_eq)).trans other_eq))
      have no_space : ' ' ∉ candidate := fun space => absurd (bare ' ' space) (by decide)
      exact longest.bound other candidate candidate_mem (spaced candidate no_space front)

end Kind

namespace Cursor

/-- What is chosen at the front of a text is the next token if nothing is skipped before it. -/
theorem next?_of_chosen {kind : Kind} {piece rest : List Char} (nonempty : piece ≠ [])
    (clean : Trivia.Clean (piece ++ rest)) (chosen : kind.Chosen piece (piece ++ rest))
    (position : Text.Position) :
    (Cursor.mk (piece ++ rest) position).next? =
      some (⟨kind, String.ofList piece, position.line,
          ⟨position.offset, (position.advance piece).offset⟩⟩,
        ⟨rest, position.advance piece⟩) := by
  have unmoved : (Cursor.mk (piece ++ rest) position).skipTrivia = ⟨piece ++ rest, position⟩ := by
    rw [skipTrivia, Trivia.length_eq_zero_of_clean clean]
    rfl
  obtain ⟨first, tail, rfl⟩ := List.exists_cons_of_ne_nil nonempty
  rw [next?, unmoved]
  rw [List.cons_append] at chosen ⊢
  obtain ⟨same_kind, same_piece⟩ := (Lexeme.recognize_chosen first (tail ++ rest)).unique chosen
  have same_rest : (first :: (tail ++ rest)).drop (Lexeme.recognize first (tail ++ rest)).size =
      rest := by
    have split := List.take_append_drop (Lexeme.recognize first (tail ++ rest)).size
      (first :: (tail ++ rest))
    rw [same_piece] at split
    exact List.append_cancel_left split
  rw [read?_of_rest_eq_cons rfl]
  simp only [cut, advance, same_kind, same_piece, same_rest]

/-- The gap before a token is all that is skipped. -/
theorem Reads.length_gap {cursor behind : Cursor} {gap : List Char} {token : Token}
    (reads : cursor.Reads gap token behind) (found : cursor.next? = some (token, behind)) :
    Trivia.length .code cursor.rest = gap.length := by
  obtain ⟨first, rest, text_eq, rfl, rfl⟩ := exists_recognize_of_next? found
  have whole := congrArg List.length reads.rest_eq
  have within := Trivia.length_le .code cursor.rest
  rw [cut, String.toList_ofList, rest_advance, List.take_append_drop, List.length_append,
    rest_skipTrivia, List.length_drop] at whole
  omega

/-- The gap before a token is skipped whatever stands behind it. -/
theorem Reads.length_gap_append {cursor behind : Cursor} {gap : List Char} {token : Token}
    (reads : cursor.Reads gap token behind) (found : cursor.next? = some (token, behind))
    (other : List Char) :
    Trivia.length .code (gap ++ other) = gap.length + Trivia.length .code other := by
  have ends := reads.length_gap found
  rw [reads.rest_eq] at ends
  exact Trivia.length_append_of_length_eq (List.append_ne_nil_of_left_ne_nil reads.nonempty _)
    ends other

/-- Spaces over a token hide it. -/
theorem Reads.next?_spaces {cursor behind : Cursor} {gap : List Char} {token : Token}
    (reads : cursor.Reads gap token behind) (found : cursor.next? = some (token, behind))
    (rest : List Char) :
    (Cursor.mk (gap ++ (List.replicate (Text.byteLength token.text.toList) ' ' ++ rest))
        cursor.position).next? = (Cursor.mk rest behind.position).next? := by
  rw [next?_append (reads.length_gap_append found _), next?_append]
  · have same_place : (cursor.position.advance gap).advance
        (List.replicate (Text.byteLength token.text.toList) ' ') = behind.position := by
      rw [reads.position_eq, Text.Position.advance_append]
      apply Text.Position.advance_congr
      · rw [Text.byteLength_spaces]
      · rw [List.count_eq_zero.mpr reads.newline_not_mem, List.count_replicate]
        rfl
    rw [same_place]
  · rw [Trivia.length_spaces_append, List.length_replicate]

/-- Spaces over the text behind a token leave the token. -/
theorem Reads.next?_kept {cursor behind : Cursor} {gap : List Char} {token : Token}
    (reads : cursor.Reads gap token behind) (found : cursor.next? = some (token, behind))
    (known : token.kind ≠ .unrecognized) {rest : List Char}
    (spaced : Text.SpacesOver (token.text.toList ++ behind.rest) (token.text.toList ++ rest)) :
    (Cursor.mk (gap ++ (token.text.toList ++ rest)) cursor.position).next? =
      some (token, ⟨rest, behind.position⟩) := by
  have clean := reads.clean.of_spacesOver reads.nonempty spaced
  have chosen := reads.chosen.of_spacesOver known spaced
  have place : (cursor.position.advance gap).advance token.text.toList = behind.position := by
    rw [reads.position_eq, Text.Position.advance_append]
  rw [next?_append (reads.length_gap_append found _), next?_of_chosen reads.nonempty clean chosen,
    place, ← reads.stop_eq, reads.place, String.ofList_toList]

theorem errorAt_of_lt {cursor : Cursor} {offset : Nat} (before : offset < cursor.position.offset) :
    errorAt cursor.tokens offset = false := by
  rw [errorAt, List.any_eq_false]
  intro token member
  have later := offset_le_start_of_mem member
  simp only [Text.Span.covers, Bool.and_eq_true, decide_eq_true_eq]
  omega

namespace Reads

variable {cursor behind : Cursor} {gap : List Char} {token : Token} {offset : Nat}

theorem errorAt_eq (reads : cursor.Reads gap token behind) (before : offset < token.span.stop) :
    errorAt (token :: behind.tokens) offset = (token.isError && token.span.covers offset) := by
  rw [errorAt, List.any_cons, ← errorAt, errorAt_of_lt (reads.stop_eq ▸ before), Bool.or_false]

theorem errorAt_before (reads : cursor.Reads gap token behind)
    (before : offset < token.span.start) : errorAt (token :: behind.tokens) offset = false := by
  have stop_eq := reads.offset_stop
  rw [reads.errorAt_eq (by omega), Text.Span.covers, decide_eq_false (by omega), Bool.and_false]

theorem errorAt_within (reads : cursor.Reads gap token behind) (lower : token.span.start ≤ offset)
    (upper : offset < token.span.stop) :
    errorAt (token :: behind.tokens) offset = token.isError := by
  rw [reads.errorAt_eq upper, Text.Span.covers, decide_eq_true ⟨lower, upper⟩, Bool.and_true]

theorem errorAt_behind (later : token.span.stop ≤ offset) :
    errorAt (token :: behind.tokens) offset = errorAt behind.tokens offset := by
  rw [errorAt, List.any_cons, Text.Span.covers, decide_eq_false (by omega), Bool.and_false,
    Bool.false_or, ← errorAt]

end Reads

/-- A text is cut under spaces over its unrecognized characters as without them, but for these
characters. -/
theorem tokens_blank {cursor : Cursor} {covered : Nat → Bool}
    (agrees : ∀ offset, cursor.position.offset ≤ offset →
      covered offset = errorAt cursor.tokens offset) :
    (Cursor.mk (Text.blank covered cursor.position.offset cursor.rest) cursor.position).tokens =
      cursor.tokens.filter (fun token => !token.isError) := by
  fun_induction tokens cursor with
  | case1 cursor done =>
      rw [Text.blank_of_clear fun place lower _ => agrees place lower]
      exact tokens_eq_nil done
  | case2 cursor token behind found ih =>
      obtain ⟨gap, reads⟩ := reads_of_next? found
      have start_eq := reads.offset_start
      have stop_eq := reads.offset_stop
      have behind_eq := reads.stop_eq
      -- Up to its end the token alone decides where spaces are written.
      have before_token : ∀ place, cursor.position.offset ≤ place →
          place < cursor.position.offset + Text.byteLength gap → covered place = false :=
        fun place lower upper => (agrees place lower).trans
          (reads.errorAt_before (start_eq ▸ upper))
      have on_token : ∀ place, token.span.start ≤ place →
          place < token.span.start + Text.byteLength token.text.toList →
          covered place = token.isError :=
        fun place lower upper => (agrees place (by omega)).trans
          (reads.errorAt_within lower (stop_eq ▸ upper))
      have later := ih fun place lower => (agrees place (by omega)).trans
        (Reads.errorAt_behind (behind_eq ▸ lower))
      rw [reads.rest_eq, Text.blank_append, Text.blank_of_clear before_token, ← start_eq,
        Text.blank_append, ← stop_eq, behind_eq]
      cases error : token.isError with
      | true =>
          rw [error] at on_token
          rw [Text.blank_of_covered on_token, tokens_congr (reads.next?_spaces found _), later,
            List.filter_cons_of_neg (by simp [error])]
      | false =>
          rw [error] at on_token
          have known : token.kind ≠ .unrecognized := by simpa [Token.isError] using error
          have spaced := Text.spacesOver_blank covered token.span.start
            (token.text.toList ++ behind.rest)
          rw [Text.blank_append, Text.blank_of_clear on_token, ← stop_eq, behind_eq] at spaced
          rw [Text.blank_of_clear on_token, tokens_eq_cons (reads.next?_kept found known spaced),
            later, List.filter_cons_of_pos (by simp [error])]

end Cursor

/-- With spaces over its unrecognized characters a text has no others and keeps all its tokens, each
with its kind, its text, its line and its range. -/
theorem tokenize_blankErrors (source : String) :
    (blankErrors source).utf8ByteSize = source.utf8ByteSize ∧
      (∀ token ∈ tokenize (blankErrors source), token.isError = false) ∧
      tokenize (blankErrors source) =
        (tokenize source).filter (fun token => !token.isError) := by
  have kept : tokenize (blankErrors source) =
      (tokenize source).filter (fun token => !token.isError) := by
    rw [tokenize, blankErrors, Cursor.start, String.toList_ofList]
    exact Cursor.tokens_blank fun _ _ => rfl
  refine ⟨?_, ?_, kept⟩
  · rw [← Text.byteLength_toList, blankErrors, String.toList_ofList, Text.byteLength_blank,
      Text.byteLength_toList]
  · intro token member
    rw [kept, List.mem_filter] at member
    simpa using member.2

end NovaLint
