import NovaLint.Proofs.Token.Reading
import NovaLint.Token.Scanner

/-!
# Starting again changes nothing

A scanner that starts again after a failure gives the tokens that a single pass gives, however far
the matcher reads before it gives up and however often it starts again.  `Scanner.Agrees` says how
the places of a scanner belong together, and every answer keeps them so.
-/

namespace NovaLint

namespace Text

theorem dropBytes_byteLength (front back : List Char) :
    dropBytes (byteLength front) (front ++ back) = back := by
  induction front with
  | nil => simp [dropBytes]
  | cons c front ih =>
      have positive := c.utf8Size_pos
      obtain ⟨count, count_eq⟩ := Nat.exists_eq_add_of_lt positive
      have size_eq : c.utf8Size + byteLength front = count + byteLength front + 1 := by omega
      have left_eq : count + byteLength front + 1 - c.utf8Size = byteLength front := by omega
      rw [byteLength_cons, size_eq, List.cons_append, dropBytes, left_eq, ih]

theorem takeBytes_byteLength (front back : List Char) :
    takeBytes (byteLength front) (front ++ back) = front := by
  induction front with
  | nil => simp [takeBytes]
  | cons c front ih =>
      have positive := c.utf8Size_pos
      obtain ⟨count, count_eq⟩ := Nat.exists_eq_add_of_lt positive
      have size_eq : c.utf8Size + byteLength front = count + byteLength front + 1 := by omega
      have left_eq : count + byteLength front + 1 - c.utf8Size = byteLength front := by omega
      rw [byteLength_cons, size_eq, List.cons_append, takeBytes, left_eq, ih]

theorem between_byteLength (front middle back : List Char) :
    between (front ++ (middle ++ back)) (byteLength front) (byteLength (front ++ middle)) =
      middle := by
  have length_eq : byteLength (front ++ middle) - byteLength front = byteLength middle := by
    rw [byteLength_append, Nat.add_sub_cancel_left]
  rw [between, dropBytes_byteLength, length_eq, takeBytes_byteLength]

theorem eq_nil_of_byteLength_eq_zero {text : List Char} (empty : byteLength text = 0) :
    text = [] := by
  cases text with
  | nil => rfl
  | cons c rest =>
      have positive := c.utf8Size_pos
      rw [byteLength_cons] at empty
      omega

end Text

namespace Scanner

/-- The scanner has read what a cursor has read, and its places are right. -/
structure Agrees (scanner : Scanner) (cursor : Cursor) : Prop where
  /-- The matcher has the same text before it. -/
  rest_eq : scanner.matcher.rest = cursor.rest
  /-- Counted in the source, it stands at the same place. -/
  offset_eq : scanner.base + scanner.matcher.offset = cursor.position.offset
  /-- Up to the place where lines were counted, and from there to the cursor. -/
  split : ∃ front pending, scanner.source = front ++ (pending ++ cursor.rest) ∧
    Text.Position.start.advance front = ⟨scanner.counted, scanner.line⟩ ∧
    Text.Position.start.advance (front ++ pending) = cursor.position

theorem agrees_start (source : String) : (start source).Agrees (Cursor.start source) :=
  ⟨rfl, rfl, [], [], rfl, rfl, rfl⟩

/-- Counting up to a place behind the counted one gives the line of that place. -/
theorem countTo_eq {scanner : Scanner} {front pending rest : List Char}
    (source_eq : scanner.source = front ++ (pending ++ rest))
    (counted_eq : Text.Position.start.advance front = ⟨scanner.counted, scanner.line⟩) :
    let place := Text.Position.start.advance (front ++ pending)
    scanner.countTo place.offset =
      { scanner with line := place.line, counted := place.offset } := by
  rw [Text.Position.advance_start, Text.Position.mk.injEq] at counted_eq
  obtain ⟨offset_eq, line_eq⟩ := counted_eq
  intro place
  have place_eq : place = ⟨Text.byteLength (front ++ pending), 1 + (front ++ pending).count '\n'⟩ :=
    Text.Position.advance_start _
  rw [countTo, source_eq, ← offset_eq, ← line_eq, place_eq, Text.between_byteLength,
    List.count_append, Nat.add_assoc]

/-- At the end of the text there is no answer. -/
theorem Agrees.next?_eq_none {scanner : Scanner} {cursor : Cursor} (agrees : scanner.Agrees cursor)
    (done : cursor.next? = none) (reach : List Char → Nat) : scanner.next? reach = none := by
  have nothing_left := Cursor.read?_eq_none_iff.mp done
  rw [Cursor.rest_skipTrivia, ← agrees.rest_eq] at nothing_left
  have search_ends : scanner.matcher.next? reach = none := by
    simp only [Matcher.next?, nothing_left]
  simp only [next?, search_ends]

/-- After a failure the matcher goes on, or starts again, right behind the first character. -/
theorem reject_eq (scanner : Scanner) (span : Text.Span) {front later : List Char} {first : Char}
    {count : Nat} (source_eq : scanner.source = front ++ first :: later)
    (start_eq : span.start = Text.byteLength front)
    (counted_eq : Text.Position.start.advance front = ⟨scanner.counted, scanner.line⟩)
    (rest_eq : scanner.matcher.rest = later.drop count)
    (stop_eq : span.stop = Text.byteLength (front ++ first :: later.take count))
    (offset_eq : scanner.base + scanner.matcher.offset = span.stop) :
    ∃ behind, scanner.reject span =
        (⟨.unrecognized, String.ofList [first], scanner.line,
          ⟨span.start, Text.byteLength (front ++ [first])⟩⟩, behind) ∧
      behind.Agrees ⟨later, Text.Position.start.advance (front ++ [first])⟩ := by
  have split : scanner.source = front ++ ([first] ++ later) := source_eq
  have first_eq : (Text.dropBytes span.start scanner.source).head? = some first := by
    rw [source_eq, start_eq, Text.dropBytes_byteLength, List.head?_cons]
  have end_eq : span.start + first.utf8Size = Text.byteLength (front ++ [first]) := by
    rw [start_eq, Text.byteLength_append, Text.byteLength_cons, Text.byteLength_nil, Nat.add_zero]
  have text_eq : Text.between scanner.source span.start (Text.byteLength (front ++ [first])) =
      [first] := by
    rw [split, start_eq, Text.between_byteLength]
  have place := Text.Position.advance_start (front ++ [first])
  simp only [reject, first_eq, Option.map_some, Option.getD_some, end_eq, text_eq]
  split
  -- The failure has read past the character, so the matcher starts again behind it.
  · refine ⟨_, rfl, ?_⟩
    constructor
    · change Text.dropBytes _ scanner.source = later
      rw [split, ← List.append_assoc, Text.dropBytes_byteLength]
    · change Text.byteLength _ + 0 = _
      rw [place, Nat.add_zero]
    · exact ⟨front, [first], split, counted_eq, rfl⟩
  -- Only the character has been read, so the matcher is already where it has to go on.
  · next not_more =>
      have nothing : later.take count = [] := by
        apply Text.eq_nil_of_byteLength_eq_zero
        rw [stop_eq, Text.byteLength_append, Text.byteLength_append, Text.byteLength_cons,
          Text.byteLength_cons, Text.byteLength_nil] at not_more
        omega
      have stays : later.drop count = later := by
        have whole := List.take_append_drop count later
        rwa [nothing, List.nil_append] at whole
      refine ⟨_, rfl, ?_⟩
      constructor
      · rw [rest_eq, stays]
      · rw [offset_eq, stop_eq, nothing, place]
      · exact ⟨front, [first], split, counted_eq, rfl⟩

/-- An unrecognized lexeme is the first character alone. -/
theorem take_size_of_unrecognized {first : Char} {rest : List Char}
    (unknown : (Lexeme.recognize first rest).kind = .unrecognized) :
    (first :: rest).take (Lexeme.recognize first rest).size = [first] := by
  cases Lexeme.recognize_chosen first rest with
  | found longest =>
      have matched := longest.matched
      rw [unknown] at matched
      exact absurd matched (Language.notMem_zero _)
  | missing _ _ alone _ =>
      rw [Lexeme.size, List.take_succ_cons] at alone ⊢
      rw [List.length_eq_zero_iff.mp (Nat.succ.inj alone)]

/-- The lines are counted up to the next token. -/
theorem Agrees.countTo_skipTrivia {scanner : Scanner} {cursor : Cursor}
    (agrees : scanner.Agrees cursor) :
    scanner.countTo cursor.skipTrivia.position.offset =
      { scanner with
        line := cursor.skipTrivia.position.line
        counted := cursor.skipTrivia.position.offset } ∧
    ∃ read, scanner.source = read ++ cursor.skipTrivia.rest ∧
      Text.Position.start.advance read = cursor.skipTrivia.position := by
  obtain ⟨front, pending, source_eq, counted_eq, position_eq⟩ := agrees.split
  let gap := cursor.rest.take (Trivia.length .code cursor.rest)
  have place_eq : Text.Position.start.advance (front ++ (pending ++ gap)) =
      cursor.skipTrivia.position := by
    rw [← List.append_assoc, Text.Position.advance_append, position_eq]
    rfl
  have gap_eq : cursor.rest = gap ++ cursor.skipTrivia.rest := by
    rw [Cursor.rest_skipTrivia, List.take_append_drop]
  have source_split : scanner.source = front ++ ((pending ++ gap) ++ cursor.skipTrivia.rest) := by
    rw [source_eq, List.append_assoc, ← gap_eq]
  have counted := countTo_eq source_split counted_eq
  rw [place_eq] at counted
  exact ⟨counted, _, source_split.trans (List.append_assoc _ _ _).symm, place_eq⟩

/-- The matcher comes upon the next token, and its places are right in the source. -/
theorem Agrees.search {scanner : Scanner} {cursor : Cursor} (agrees : scanner.Agrees cursor)
    {first : Char} {rest : List Char} (text_eq : cursor.skipTrivia.rest = first :: rest)
    (reach : List Char → Nat) {kind : Kind} {count : Nat}
    (kind_eq : (Lexeme.recognize first rest).kind = kind)
    (count_eq : (if kind = .unrecognized then reach rest + 1
      else (Lexeme.recognize first rest).size) = count) :
    ∃ span matcher,
      scanner.matcher.next? reach = some (⟨kind, (first :: rest).take count, span⟩, matcher) ∧
      span.shift scanner.base =
        ⟨cursor.skipTrivia.position.offset, (cursor.skipTrivia.advance count).position.offset⟩ ∧
      matcher.rest = (first :: rest).drop count ∧
      scanner.base + matcher.offset = (cursor.skipTrivia.advance count).position.offset := by
  have drop_eq : scanner.matcher.rest.drop (Trivia.length .code scanner.matcher.rest) =
      first :: rest := by
    rw [agrees.rest_eq, ← Cursor.rest_skipTrivia, text_eq]
  subst kind_eq count_eq
  let start := scanner.matcher.offset +
    Text.byteLength (scanner.matcher.rest.take (Trivia.length .code scanner.matcher.rest))
  let count := if (Lexeme.recognize first rest).kind = .unrecognized then reach rest + 1
    else (Lexeme.recognize first rest).size
  let stop := start + Text.byteLength ((first :: rest).take count)
  have start_eq : start + scanner.base = cursor.skipTrivia.position.offset := by
    simp only [start, agrees.rest_eq, Cursor.skipTrivia, Cursor.advance,
      Text.Position.advance_offset, ← agrees.offset_eq]
    omega
  have stop_eq : stop + scanner.base = (cursor.skipTrivia.advance count).position.offset := by
    rw [Cursor.advance, text_eq, Text.Position.advance_offset, ← start_eq, Nat.add_right_comm]
  refine ⟨⟨start, stop⟩, ⟨(first :: rest).drop count, stop⟩, ?_, ?_, rfl, ?_⟩
  · simp only [Matcher.next?, drop_eq]
    rfl
  · exact congrArg₂ Text.Span.mk start_eq stop_eq
  · exact (Nat.add_comm _ _).trans stop_eq

/-- The place behind some characters of the next token. -/
theorem advance_skipTrivia_eq {cursor : Cursor} {read text : List Char}
    (text_eq : cursor.skipTrivia.rest = text)
    (place_eq : Text.Position.start.advance read = cursor.skipTrivia.position) (count : Nat) :
    cursor.skipTrivia.advance count =
      ⟨text.drop count, Text.Position.start.advance (read ++ text.take count)⟩ := by
  rw [Cursor.advance, text_eq, Text.Position.advance_append, place_eq]

/-- A match is given as it was found. -/
theorem Agrees.next?_of_known {scanner : Scanner} {cursor : Cursor} (agrees : scanner.Agrees cursor)
    {first : Char} {rest : List Char} (text_eq : cursor.skipTrivia.rest = first :: rest)
    (known : (Lexeme.recognize first rest).kind ≠ .unrecognized) (reach : List Char → Nat) :
    ∃ later, scanner.next? reach =
        some (cursor.skipTrivia.cut (.recognize first rest), later) ∧
      later.Agrees (cursor.skipTrivia.advance (Lexeme.recognize first rest).size) := by
  obtain ⟨span, matcher, searched, span_eq, rest_eq, offset_eq⟩ :=
    agrees.search text_eq reach rfl (if_neg known)
  obtain ⟨counted, read, source_eq, place_eq⟩ := agrees.countTo_skipTrivia
  have behind_eq := advance_skipTrivia_eq text_eq place_eq (Lexeme.recognize first rest).size
  have answer : scanner.next? reach =
      some (cursor.skipTrivia.cut (.recognize first rest),
        { scanner.countTo cursor.skipTrivia.position.offset with matcher }) := by
    simp only [next?, searched, if_neg known, span_eq, counted, Cursor.cut, text_eq]
  refine ⟨_, answer, ?_⟩
  rw [counted]
  constructor
  · rw [rest_eq, Cursor.rest_advance, text_eq]
  · exact offset_eq
  · refine ⟨read, (first :: rest).take (Lexeme.recognize first rest).size, ?_, place_eq, ?_⟩
    · rw [behind_eq, List.take_append_drop, ← text_eq]
      exact source_eq
    · rw [behind_eq]

/-- Where nothing matches, the first character is given alone. -/
theorem Agrees.next?_of_unknown {scanner : Scanner} {cursor : Cursor}
    (agrees : scanner.Agrees cursor) {first : Char} {rest : List Char}
    (text_eq : cursor.skipTrivia.rest = first :: rest)
    (unknown : (Lexeme.recognize first rest).kind = .unrecognized) (reach : List Char → Nat) :
    ∃ later, scanner.next? reach =
        some (cursor.skipTrivia.cut (.recognize first rest), later) ∧
      later.Agrees (cursor.skipTrivia.advance (Lexeme.recognize first rest).size) := by
  obtain ⟨span, matcher, searched, span_eq, rest_eq, offset_eq⟩ :=
    agrees.search text_eq reach unknown (if_pos rfl)
  obtain ⟨counted, read, source_eq, place_eq⟩ := agrees.countTo_skipTrivia
  rw [text_eq] at source_eq
  have first_alone := take_size_of_unrecognized unknown
  have behind_eq : cursor.skipTrivia.advance (Lexeme.recognize first rest).size =
      ⟨rest, Text.Position.start.advance (read ++ [first])⟩ := by
    have whole := List.take_append_drop (Lexeme.recognize first rest).size (first :: rest)
    rw [first_alone, List.singleton_append] at whole
    rw [advance_skipTrivia_eq text_eq place_eq, first_alone, (List.cons.inj whole).2]
  let failed : Scanner :=
    { scanner with
      matcher
      line := cursor.skipTrivia.position.line
      counted := cursor.skipTrivia.position.offset }
  have answer : scanner.next? reach =
      some (failed.reject ⟨cursor.skipTrivia.position.offset,
        (cursor.skipTrivia.advance (reach rest + 1)).position.offset⟩) := by
    simp only [next?, searched, if_true, span_eq, counted, failed]
  have start_eq : cursor.skipTrivia.position.offset = Text.byteLength read := by
    rw [← place_eq, Text.Position.advance_start]
  have stop_eq : (cursor.skipTrivia.advance (reach rest + 1)).position.offset =
      Text.byteLength (read ++ first :: rest.take (reach rest)) := by
    rw [advance_skipTrivia_eq text_eq place_eq, Text.Position.advance_start, List.take_succ_cons]
  obtain ⟨later, rejected, later_agrees⟩ :=
    failed.reject_eq ⟨_, _⟩ source_eq start_eq place_eq rest_eq stop_eq offset_eq
  rw [← behind_eq] at later_agrees
  refine ⟨later, answer.trans (congrArg some (rejected.trans ?_)), later_agrees⟩
  rw [Cursor.cut, unknown, text_eq, first_alone, behind_eq, Text.Position.advance_start]

/-- The scanner gives the token that a cursor gives, and goes on where the cursor goes on. -/
theorem Agrees.next?_eq_some {scanner : Scanner} {cursor behind : Cursor} {token : Token}
    (agrees : scanner.Agrees cursor) (found : cursor.next? = some (token, behind))
    (reach : List Char → Nat) :
    ∃ later, scanner.next? reach = some (token, later) ∧ later.Agrees behind := by
  obtain ⟨first, rest, text_eq, rfl, rfl⟩ := Cursor.exists_recognize_of_next? found
  by_cases unknown : (Lexeme.recognize first rest).kind = .unrecognized
  · exact agrees.next?_of_unknown text_eq unknown reach
  · exact agrees.next?_of_known text_eq unknown reach

/-- However far failures reach, the answers are the tokens behind the cursor, and nothing when they
are used up. -/
theorem Agrees.answers_eq {scanner : Scanner} {cursor : Cursor} (agrees : scanner.Agrees cursor)
    (reach : List Char → Nat) (count : Nat) :
    answers reach count scanner = (List.range count).map fun place => cursor.tokens[place]? := by
  induction count generalizing scanner cursor with
  | zero => rfl
  | succ count ih =>
      rw [List.range_succ_eq_map, List.map_cons, List.map_map]
      cases found : cursor.next? with
      | none =>
          have tokens_eq := Cursor.tokens_eq_nil found
          have later_eq := ih agrees
          rw [tokens_eq] at later_eq ⊢
          rw [answers, agrees.next?_eq_none found reach, later_eq]
          rfl
      | some step =>
          obtain ⟨token, behind⟩ := step
          obtain ⟨later, answer, later_agrees⟩ := agrees.next?_eq_some found reach
          rw [answers, answer, Cursor.tokens_eq_cons found]
          exact congrArg (some token :: ·) (ih later_agrees)

end Scanner
end NovaLint
