import NovaLint.Proofs.Text.Contents
import NovaLint.Proofs.Token.Tiling

/-!
# Cutting a text line by line

Neither a token nor a comment passes the end of a line, and nothing behind the end of a line decides
what is cut before it.  So the tokens of a text are those of its lines, each line cut by itself and
its tokens moved to where the line stands.
-/

namespace NovaLint

namespace Kind

theorem Longest.length_eq {kind other : Kind} {piece candidate text : List Char}
    (longest : kind.Longest piece text) (longest' : other.Longest candidate text) :
    piece.length = candidate.length :=
  Nat.le_antisymm (longest'.bound kind piece longest.matched longest.front)
    (longest.bound other candidate longest'.matched longest'.front)

/-- The kind of a longest match is told by its characters, whatever follows them. -/
theorem Longest.kind_unique {kind other : Kind} {piece text text' : List Char}
    (longest : kind.Longest piece text) (longest' : other.Longest piece text') : kind = other := by
  rcases longest.only other longest'.matched with same | ⟨rfl, spelled⟩
  · exact same.symm
  rcases longest'.only kind longest.matched with same | ⟨rfl, _⟩
  · exact same
  · rfl

theorem Longest.unique {kind other : Kind} {piece candidate text : List Char}
    (longest : kind.Longest piece text) (longest' : other.Longest candidate text) :
    kind = other ∧ piece = candidate := by
  have same_piece : piece = candidate :=
    (List.prefix_of_prefix_length_le longest.front longest'.front
      (longest.length_eq longest').le).eq_of_length (longest.length_eq longest')
  subst same_piece
  exact ⟨longest.kind_unique longest', rfl⟩

/-- The kind of what is cut is told by its characters, whatever follows them. -/
theorem Chosen.kind_unique {kind other : Kind} {piece text text' : List Char}
    (chosen : kind.Chosen piece text) (chosen' : other.Chosen piece text') : kind = other := by
  cases chosen with
  | found longest =>
      cases chosen' with
      | found longest' => exact longest.kind_unique longest'
      | missing _ front _ unmatched =>
          exact absurd front (unmatched kind piece longest.matched)
  | missing unknown front _ unmatched =>
      cases chosen' with
      | found longest' => exact absurd front (unmatched other piece longest'.matched)
      | missing unknown' _ _ _ => exact unknown.trans unknown'.symm

/-- No two pieces are to be cut from the front of one text. -/
theorem Chosen.unique {kind other : Kind} {piece candidate text : List Char}
    (chosen : kind.Chosen piece text) (chosen' : other.Chosen candidate text) :
    kind = other ∧ piece = candidate := by
  cases chosen with
  | found longest =>
      cases chosen' with
      | found longest' => exact longest.unique longest'
      | missing _ _ _ unmatched =>
          exact absurd longest.front (unmatched kind piece longest.matched)
  | missing unknown front alone unmatched =>
      cases chosen' with
      | found longest' =>
          exact absurd longest'.front (unmatched other candidate longest'.matched)
      | missing unknown' front' alone' _ =>
          have same_length : piece.length = candidate.length := alone.trans alone'.symm
          exact ⟨unknown.trans unknown'.symm,
            (List.prefix_of_prefix_length_le front front' same_length.le).eq_of_length
              same_length⟩

end Kind

/-- What holds no separator cannot reach over one. -/
theorem prefix_of_prefix_append_cons {separator : Char} {piece line later : List Char}
    (free : separator ∉ piece) (front : piece <+: line ++ separator :: later) : piece <+: line := by
  induction piece generalizing line with
  | nil => exact List.nil_prefix
  | cons c piece ih =>
      simp only [List.mem_cons, not_or] at free
      cases line with
      | nil => exact absurd (List.cons_prefix_cons.mp front).1.symm free.1
      | cons d line =>
          obtain ⟨rfl, behind⟩ := List.cons_prefix_cons.mp front
          exact List.cons_prefix_cons.mpr ⟨rfl, ih free.2 behind⟩

/-- What is to be cut from a line is to be cut from it as well if other lines follow. -/
theorem Kind.Chosen.append_newline {kind : Kind} {piece line : List Char}
    (chosen : kind.Chosen piece line) (later : List Char) :
    kind.Chosen piece (line ++ '\n' :: later) := by
  have within {other : Kind} {candidate : List Char} (matched : candidate ∈ other.language)
      (front : candidate <+: line ++ '\n' :: later) : candidate <+: line :=
    prefix_of_prefix_append_cons (newline_not_mem matched) front
  cases chosen with
  | found longest =>
      refine .found
        { front := longest.front.trans (List.prefix_append _ _)
          matched := longest.matched
          bound := ?_
          only := longest.only }
      intro other candidate matched front
      exact longest.bound other candidate matched (within matched front)
  | missing unknown front alone unmatched =>
      refine .missing unknown (front.trans (List.prefix_append _ _)) alone ?_
      intro other candidate matched front
      exact unmatched other candidate matched (within matched front)

namespace Lexeme

theorem recognize_append_newline (first : Char) (rest later : List Char) :
    (recognize first (rest ++ '\n' :: later)).kind = (recognize first rest).kind ∧
      (first :: rest ++ '\n' :: later).take (recognize first (rest ++ '\n' :: later)).size =
        (first :: rest).take (recognize first rest).size :=
  (recognize_chosen first (rest ++ '\n' :: later)).unique
    (Kind.Chosen.append_newline (recognize_chosen first rest) later)

theorem drop_recognize_append_newline (first : Char) (rest later : List Char) :
    (first :: rest ++ '\n' :: later).drop (recognize first (rest ++ '\n' :: later)).size =
      (first :: rest).drop (recognize first rest).size ++ '\n' :: later := by
  have same_piece := (recognize_append_newline first rest later).2
  have split := List.take_append_drop (recognize first (rest ++ '\n' :: later)).size
    (first :: rest ++ '\n' :: later)
  rw [same_piece] at split
  apply List.append_cancel_left
  rw [split, ← List.append_assoc, List.take_append_drop]

end Lexeme

namespace Trivia

theorem length_of_not_comment {c : Char} {rest : List Char}
    (no_comment : ∀ more, c = '/' → rest ≠ '/' :: more) :
    length .code (c :: rest) = if isBlank c then length .code rest + 1 else 0 :=
  length.eq_4 c rest no_comment

theorem length_cons_of_isBlank {c : Char} (blank : isBlank c) (rest : List Char) :
    length .code (c :: rest) = length .code rest + 1 := by
  have no_comment : ∀ more, c = '/' → rest ≠ '/' :: more := by
    rintro _ rfl
    exact absurd blank (by decide)
  rw [length_of_not_comment no_comment, if_pos blank]

/-- Trivia ends within a line, or fills it and goes on behind the line feed. -/
theorem length_append_newline (mode : Mode) {line : List Char} (one_line : '\n' ∉ line)
    (later : List Char) :
    length mode (line ++ '\n' :: later) =
      length mode line + if length mode line = line.length then length .code later + 1 else 0 := by
  fun_induction length mode line with
  | case1 mode =>
      rw [if_pos List.length_nil.symm, Nat.zero_add]
      cases mode with
      | code => exact length_cons_of_isBlank rfl later
      | comment => rfl
  | case2 c rest ih =>
      simp only [List.mem_cons, not_or] at one_line
      rw [if_neg (Ne.symm one_line.1)] at ih ⊢
      rw [List.cons_append, length, if_neg (Ne.symm one_line.1), ih one_line.2]
      simp only [List.length_cons, Nat.add_right_cancel_iff]
      omega
  | case3 rest ih =>
      simp only [List.mem_cons, not_or] at one_line
      rw [List.cons_append, List.cons_append, length, ih one_line.2.2]
      simp only [List.length_cons, Nat.add_right_cancel_iff]
      omega
  | case4 c rest _ blank ih =>
      simp only [List.mem_cons, not_or] at one_line
      rw [List.cons_append, length_cons_of_isBlank blank, ih one_line.2]
      simp only [List.length_cons, Nat.add_right_cancel_iff]
      omega
  | case5 c rest no_comment not_blank =>
      have no_comment' : ∀ more, c = '/' → rest ++ '\n' :: later ≠ '/' :: more := by
        intro more slash slash'
        cases rest with
        | nil => exact absurd (List.cons.inj slash').1 (by decide)
        | cons d rest =>
            obtain ⟨rfl, _⟩ := List.cons.inj slash'
            exact no_comment rest slash rfl
      rw [List.cons_append, length_of_not_comment no_comment', if_neg not_blank]
      rfl

end Trivia

namespace Cursor

/-- The cursor, if a line feed and a further text follow what is left. -/
def before (cursor : Cursor) (later : List Char) : Cursor :=
  ⟨cursor.rest ++ '\n' :: later, cursor.position⟩

/-- The cursor behind the line feed that follows what is left. -/
def nextLine (cursor : Cursor) (later : List Char) : Cursor :=
  ⟨later, cursor.position.advance (cursor.rest ++ ['\n'])⟩

theorem advance_before {cursor : Cursor} {count : Nat} (within : count ≤ cursor.rest.length)
    (later : List Char) :
    (cursor.before later).advance count = (cursor.advance count).before later := by
  simp only [advance, before, List.drop_append_of_le_length within,
    List.take_append_of_le_length within]

theorem read?_before {cursor behind : Cursor} {token : Token}
    (found : cursor.read? = some (token, behind)) (later : List Char) :
    (cursor.before later).read? = some (token, behind.before later) := by
  cases text_eq : cursor.rest with
  | nil => exact absurd (read?_eq_none_iff.mpr text_eq) (by simp [found])
  | cons first rest =>
      have before_eq : (cursor.before later).rest = first :: (rest ++ '\n' :: later) := by
        rw [before, text_eq, List.cons_append]
      obtain ⟨same_kind, same_piece⟩ := Lexeme.recognize_append_newline first rest later
      have same_rest := Lexeme.drop_recognize_append_newline first rest later
      rw [read?_of_rest_eq_cons text_eq, Option.some.injEq, Prod.mk.injEq] at found
      obtain ⟨rfl, rfl⟩ := found
      rw [read?_of_rest_eq_cons before_eq]
      simp only [cut, advance, before, text_eq, same_kind, same_piece, same_rest]

theorem next?_before {cursor behind : Cursor} {token : Token} (one_line : '\n' ∉ cursor.rest)
    (found : cursor.next? = some (token, behind)) (later : List Char) :
    (cursor.before later).next? = some (token, behind.before later) := by
  have ends : Trivia.length .code cursor.rest ≠ cursor.rest.length := by
    intro fills
    have nothing : cursor.next? = none := by
      rw [next?, read?_eq_none_iff, rest_skipTrivia, fills, List.drop_length]
    exact absurd (nothing.symm.trans found) (by simp)
  have skipped : (cursor.before later).skipTrivia = cursor.skipTrivia.before later := by
    have same_length : Trivia.length .code (cursor.before later).rest =
        Trivia.length .code cursor.rest := by
      rw [before, Trivia.length_append_newline .code one_line, if_neg ends, Nat.add_zero]
    rw [skipTrivia, same_length, advance_before (Trivia.length_le .code cursor.rest), skipTrivia]
  rw [next?, skipped]
  exact read?_before found later

/-- The next token is found behind what is skipped. -/
theorem next?_append {gap rest : List Char}
    (skips : Trivia.length .code (gap ++ rest) = gap.length + Trivia.length .code rest)
    (position : Text.Position) :
    (Cursor.mk (gap ++ rest) position).next? = (Cursor.mk rest (position.advance gap)).next? := by
  have skipped : (Cursor.mk (gap ++ rest) position).skipTrivia =
      (Cursor.mk rest (position.advance gap)).skipTrivia := by
    rw [skipTrivia, skips, advance, List.drop_length_add_append, List.take_length_add_append,
      Text.Position.advance_append]
    rfl
  rw [next?, next?, skipped]

/-- Where a line holds no more tokens, the next token is that of the next line. -/
theorem next?_before_of_none {cursor : Cursor} (one_line : '\n' ∉ cursor.rest)
    (done : cursor.next? = none) (later : List Char) :
    (cursor.before later).next? = (cursor.nextLine later).next? := by
  have fills : Trivia.length .code cursor.rest = cursor.rest.length := by
    have nothing_left := read?_eq_none_iff.mp done
    rw [rest_skipTrivia, List.drop_eq_nil_iff] at nothing_left
    exact Nat.le_antisymm (Trivia.length_le .code cursor.rest) nothing_left
  have split : cursor.rest ++ '\n' :: later = (cursor.rest ++ ['\n']) ++ later := by
    rw [List.append_assoc, List.singleton_append]
  have skips : Trivia.length .code ((cursor.rest ++ ['\n']) ++ later) =
      (cursor.rest ++ ['\n']).length + Trivia.length .code later := by
    rw [← split, Trivia.length_append_newline .code one_line, if_pos fills, fills,
      List.length_append, List.length_singleton]
    omega
  rw [before, split, next?_append skips, nextLine]

theorem tokens_congr {cursor other : Cursor} (same : cursor.next? = other.next?) :
    cursor.tokens = other.tokens := by
  cases found : cursor.next? with
  | none => rw [tokens_eq_nil found, tokens_eq_nil (same.symm.trans found)]
  | some step => rw [tokens_eq_cons found, tokens_eq_cons (same.symm.trans found)]

theorem one_line_of_next? {cursor behind : Cursor} {token : Token} (one_line : '\n' ∉ cursor.rest)
    (found : cursor.next? = some (token, behind)) : '\n' ∉ behind.rest := by
  obtain ⟨gap, reads⟩ := reads_of_next? found
  rw [reads.rest_eq] at one_line
  simp only [List.mem_append, not_or] at one_line
  exact one_line.2.2

/-- The tokens of a line and of the text behind it are cut apart. -/
theorem tokens_before {cursor : Cursor} (one_line : '\n' ∉ cursor.rest) (later : List Char) :
    (cursor.before later).tokens = cursor.tokens ++ (cursor.nextLine later).tokens := by
  fun_induction tokens cursor with
  | case1 cursor done =>
      rw [List.nil_append]
      exact tokens_congr (next?_before_of_none one_line done later)
  | case2 cursor token behind found ih =>
      have same_next : behind.nextLine later = cursor.nextLine later := by
        obtain ⟨gap, reads⟩ := reads_of_next? found
        rw [nextLine, nextLine, reads.position_eq, ← Text.Position.advance_append, reads.rest_eq]
        simp only [List.append_assoc]
      rw [tokens_eq_cons (next?_before one_line found later),
        ih (one_line_of_next? one_line found), same_next, List.cons_append]

end Cursor

/-- The token on another line, moved towards the end of the text. -/
def Token.move (token : Token) (line distance : Nat) : Token :=
  { token with line, span := token.span.shift distance }

namespace Cursor

/-- The cursor on another line, moved towards the end of the text. -/
def move (cursor : Cursor) (line distance : Nat) : Cursor :=
  ⟨cursor.rest, ⟨cursor.position.offset + distance, line⟩⟩

theorem advance_move {cursor : Cursor} (one_line : '\n' ∉ cursor.rest)
    (count line distance : Nat) :
    (cursor.move line distance).advance count = (cursor.advance count).move line distance := by
  have one_line' : '\n' ∉ cursor.rest.take count := fun newline =>
    one_line (List.mem_of_mem_take newline)
  simp only [advance, move, Text.Position.advance_of_one_line one_line', Nat.add_right_comm]

theorem next?_move {cursor : Cursor} (one_line : '\n' ∉ cursor.rest) (line distance : Nat) :
    (cursor.move line distance).next? = cursor.next?.map fun step =>
      (step.1.move line distance, step.2.move line distance) := by
  have skipped : (cursor.move line distance).skipTrivia = cursor.skipTrivia.move line distance :=
    advance_move one_line _ line distance
  have one_line' : '\n' ∉ cursor.skipTrivia.rest := by
    rw [rest_skipTrivia]
    exact fun newline => one_line (List.mem_of_mem_drop newline)
  rw [next?, next?, skipped]
  cases text_eq : cursor.skipTrivia.rest with
  | nil =>
      rw [read?_eq_none_iff.mpr text_eq, read?_eq_none_iff.mpr]
      · rfl
      · exact text_eq
  | cons first rest =>
      have moved_eq : (cursor.skipTrivia.move line distance).rest = first :: rest := text_eq
      rw [read?_of_rest_eq_cons text_eq, read?_of_rest_eq_cons moved_eq, advance_move one_line',
        cut, advance_move one_line']
      rfl

/-- A line is cut alike wherever it stands. -/
theorem tokens_move {cursor : Cursor} (one_line : '\n' ∉ cursor.rest) (line distance : Nat) :
    (cursor.move line distance).tokens = cursor.tokens.map (·.move line distance) := by
  fun_induction tokens cursor with
  | case1 cursor done =>
      have moved := next?_move one_line line distance
      rw [done] at moved
      rw [tokens_eq_nil moved, List.map_nil]
  | case2 cursor token behind found ih =>
      have moved := next?_move one_line line distance
      rw [found] at moved
      rw [tokens_eq_cons moved, ih (one_line_of_next? one_line found), List.map_cons]

end Cursor

/-- The tokens of a line that is cut by itself, moved to where the line stands. -/
def Text.Line.tokens (line : Text.Line) : List Token :=
  (tokenize (String.ofList line.text)).map (·.move line.number line.start)

theorem Cursor.tokens_eq_line {line : List Char} (one_line : '\n' ∉ line)
    (position : Text.Position) :
    (Cursor.mk line position).tokens =
      (Text.Line.mk position.line position.offset line).tokens := by
  have start_eq : Cursor.start (String.ofList line) = ⟨line, .start⟩ := by
    rw [Cursor.start, String.toList_ofList]
  have moved_eq : Cursor.mk line position =
      (Cursor.mk line .start).move position.line position.offset := by
    rw [move, Text.Position.start, Nat.zero_add]
  rw [Text.Line.tokens, tokenize, start_eq, moved_eq]
  exact tokens_move one_line position.line position.offset

theorem Cursor.tokens_eq_flatMap (text : List Char) (position : Text.Position) :
    (Cursor.mk text position).tokens =
      (Text.placeContents position (text.splitOn '\n')).flatMap (·.tokens) := by
  induction text using Text.lineInduction generalizing position with
  | last line one_line =>
      rw [Text.placeContents_last one_line, List.flatMap_singleton, tokens_eq_line one_line]
  | next line later one_line ih =>
      rw [Text.placeContents_next one_line, List.flatMap_cons, ← ih, ← tokens_eq_line one_line]
      exact @tokens_before ⟨line, position⟩ one_line later

/-- The tokens of a text are those of its lines. -/
theorem tokenize_eq_flatMap (source : String) :
    tokenize source = (Text.contents source).flatMap (·.tokens) :=
  Cursor.tokens_eq_flatMap source.toList .start

end NovaLint
