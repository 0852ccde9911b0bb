import NovaLint.Proofs.Token.Tiling

/-!
# Going on behind a token

What stands before a token decides nothing about what is cut behind it.  So the tokens behind any
token are those of the rest of the text, cut by itself and placed some lines and bytes further on,
and a scanner that has answered some requests still holds the tokens that are left, however often it
has started again on the way.
-/

namespace NovaLint

/-- The place some lines and bytes further on. -/
def Text.Position.further (lines bytes : Nat) (position : Position) : Position :=
  ⟨position.offset + bytes, position.line + lines⟩

/-- The token some lines and bytes further on. -/
def Token.further (lines bytes : Nat) (token : Token) : Token :=
  { token with line := token.line + lines, span := token.span.shift bytes }

/-- The cursor in the same text some lines and bytes further on. -/
def Cursor.further (lines bytes : Nat) (cursor : Cursor) : Cursor :=
  { cursor with position := cursor.position.further lines bytes }

theorem Text.Position.advance_further (lines bytes : Nat) (position : Position)
    (text : List Char) :
    (position.further lines bytes).advance text =
      (position.advance text).further lines bytes := by
  induction text generalizing position with
  | nil => rfl
  | cons c text ih =>
      have step_further : (position.further lines bytes).step c =
          (position.step c).further lines bytes := by
        simp only [step, further, Nat.add_right_comm, mk.injEq, true_and]
        split
        · exact Nat.add_right_comm ..
        · rfl
      rw [advance_cons, step_further, ih, advance_cons]

namespace Cursor

theorem advance_further (lines bytes : Nat) (cursor : Cursor) (count : Nat) :
    (cursor.further lines bytes).advance count = (cursor.advance count).further lines bytes := by
  simp only [advance, further, Text.Position.advance_further]

theorem read?_further (lines bytes : Nat) (cursor : Cursor) :
    (cursor.further lines bytes).read? = cursor.read?.map fun step =>
      (step.1.further lines bytes, step.2.further lines bytes) := by
  cases text_eq : cursor.rest with
  | nil =>
      rw [read?_eq_none_iff.mpr text_eq, Option.map_none, read?_eq_none_iff]
      exact text_eq
  | cons first rest =>
      have further_eq : (cursor.further lines bytes).rest = first :: rest := text_eq
      rw [read?_of_rest_eq_cons text_eq, read?_of_rest_eq_cons further_eq, cut, advance_further]
      rfl

theorem next?_further (lines bytes : Nat) (cursor : Cursor) :
    (cursor.further lines bytes).next? = cursor.next?.map fun step =>
      (step.1.further lines bytes, step.2.further lines bytes) := by
  have skipped : (cursor.further lines bytes).skipTrivia =
      cursor.skipTrivia.further lines bytes := advance_further lines bytes cursor _
  rw [next?, skipped, read?_further, next?]

/-- A text is cut alike wherever it stands. -/
theorem tokens_further (lines bytes : Nat) (cursor : Cursor) :
    (cursor.further lines bytes).tokens = cursor.tokens.map (·.further lines bytes) := by
  fun_induction tokens cursor with
  | case1 cursor done =>
      have placed := next?_further lines bytes cursor
      rw [done] at placed
      rw [tokens_eq_nil placed, List.map_nil]
  | case2 cursor token behind found ih =>
      have placed := next?_further lines bytes cursor
      rw [found] at placed
      rw [tokens_eq_cons placed, ih, List.map_cons]

/-- A token ends in the line in which it begins. -/
theorem Reads.position_behind {cursor behind : Cursor} {gap : List Char} {token : Token}
    (reads : cursor.Reads gap token behind) : behind.position = ⟨token.span.stop, token.line⟩ := by
  have line_eq : behind.position.line = token.line := by
    rw [reads.position_eq, Text.Position.advance_line, List.count_append, reads.line_eq,
      List.count_eq_zero.mpr reads.newline_not_mem, Nat.add_zero]
  rw [reads.stop_eq, ← line_eq]

/-- The tokens behind a token are those behind the cursor that stands at its end. -/
theorem exists_behind_of_getElem? {cursor : Cursor} {place : Nat} {token : Token}
    (found : cursor.tokens[place]? = some token) :
    ∃ (front : List Char) (behind : Cursor), cursor.rest = front ++ behind.rest ∧
      behind.position = cursor.position.advance front ∧
      behind.position = ⟨token.span.stop, token.line⟩ ∧
      cursor.tokens.drop (place + 1) = behind.tokens := by
  induction place generalizing cursor with
  | zero =>
      cases step_eq : cursor.next? with
      | none => simp [tokens_eq_nil step_eq] at found
      | some step =>
          obtain ⟨first, behind⟩ := step
          obtain ⟨gap, reads⟩ := reads_of_next? step_eq
          rw [tokens_eq_cons step_eq, List.getElem?_cons_zero, Option.some.injEq] at found
          subst found
          refine ⟨gap ++ first.text.toList, behind, ?_, reads.position_eq, reads.position_behind,
            ?_⟩
          · rw [reads.rest_eq, List.append_assoc]
          · rw [tokens_eq_cons step_eq, List.drop_succ_cons, List.drop_zero]
  | succ place ih =>
      cases step_eq : cursor.next? with
      | none => simp [tokens_eq_nil step_eq] at found
      | some step =>
          obtain ⟨first, next⟩ := step
          obtain ⟨gap, reads⟩ := reads_of_next? step_eq
          rw [tokens_eq_cons step_eq, List.getElem?_cons_succ] at found
          obtain ⟨front, behind, rest_eq, position_eq, end_eq, tokens_eq⟩ := ih found
          refine ⟨gap ++ first.text.toList ++ front, behind, ?_, ?_, end_eq, ?_⟩
          · rw [reads.rest_eq, rest_eq]
            simp only [List.append_assoc]
          · rw [position_eq, reads.position_eq, ← Text.Position.advance_append]
          · rw [tokens_eq_cons step_eq, List.drop_succ_cons, tokens_eq]

end Cursor

/-- The tokens behind a token are those of the rest of the text, cut by itself. -/
theorem drop_tokenize {source : String} {place : Nat} {token : Token}
    (found : (tokenize source)[place]? = some token) :
    ∃ front back, source.toList = front ++ back ∧ Text.byteLength front = token.span.stop ∧
      (tokenize source).drop (place + 1) =
        (tokenize (String.ofList back)).map (·.further (token.line - 1) token.span.stop) := by
  obtain ⟨front, behind, rest_eq, position_eq, end_eq, tokens_eq⟩ :=
    Cursor.exists_behind_of_getElem? found
  change source.toList = front ++ behind.rest at rest_eq
  change behind.position = Text.Position.start.advance front at position_eq
  rw [end_eq, Text.Position.advance_start, Text.Position.mk.injEq] at position_eq
  obtain ⟨stop_eq, line_eq⟩ := position_eq
  have behind_eq : behind = (Cursor.start (String.ofList behind.rest)).further (token.line - 1)
      token.span.stop := by
    have first_line : 1 + (token.line - 1) = token.line := by omega
    obtain ⟨rest, position⟩ := behind
    change position = _ at end_eq
    rw [end_eq, Cursor.start, Cursor.further, String.toList_ofList, Text.Position.further,
      Text.Position.start, Nat.zero_add, first_line]
  refine ⟨front, behind.rest, rest_eq, stop_eq.symm, ?_⟩
  rw [tokenize, tokens_eq, tokenize, ← Cursor.tokens_further, ← behind_eq]

/-- Requests to a cursor are answered by its tokens, and leave the others. -/
theorem Cursor.pull_eq (count : Nat) (cursor : Cursor) :
    (pull count cursor).1 = (List.range count).map (fun place => cursor.tokens[place]?) ∧
      (pull count cursor).2.tokens = cursor.tokens.drop count := by
  induction count generalizing cursor with
  | zero => exact ⟨rfl, rfl⟩
  | succ count ih =>
      rw [pull, List.range_succ_eq_map, List.map_cons, List.map_map]
      cases found : cursor.next? with
      | none =>
          obtain ⟨answers_eq, tokens_eq⟩ := ih cursor
          rw [tokens_eq_nil found] at answers_eq tokens_eq ⊢
          exact ⟨congrArg (none :: ·) answers_eq, tokens_eq.trans List.drop_nil⟩
      | some step =>
          obtain ⟨token, behind⟩ := step
          obtain ⟨answers_eq, tokens_eq⟩ := ih behind
          rw [tokens_eq_cons found]
          exact ⟨congrArg (some token :: ·) answers_eq, tokens_eq⟩

namespace Scanner

/-- The scanner after a number of requests.  A request at the end changes nothing. -/
def after (reach : List Char → Nat) : Nat → Scanner → Scanner
  | 0, scanner => scanner
  | count + 1, scanner =>
    match scanner.next? reach with
    | none => after reach count scanner
    | some (_, behind) => after reach count behind

/-- The scanner is asked for tokens until it gives none, and these are its answers. -/
inductive Drains (reach : List Char → Nat) : Scanner → List Token → Prop
  /-- There is no token left. -/
  | done {scanner : Scanner} (none_left : scanner.next? reach = none) : Drains reach scanner []
  /-- A token is given, and the others are given behind it. -/
  | more {scanner behind : Scanner} {token : Token} {later : List Token}
      (given : scanner.next? reach = some (token, behind)) (drains : Drains reach behind later) :
      Drains reach scanner (token :: later)

variable {reach : List Char → Nat}

/-- Asking for all tokens has one outcome only. -/
theorem Drains.unique {scanner : Scanner} {tokens others : List Token}
    (drains : scanner.Drains reach tokens) (drains' : scanner.Drains reach others) :
    tokens = others := by
  induction drains generalizing others with
  | done none_left =>
      cases drains' with
      | done _ => rfl
      | more given _ => simp [none_left] at given
  | more given _ ih =>
      cases drains' with
      | done none_left => simp [none_left] at given
      | more given' drains' =>
          rw [given, Option.some.injEq, Prod.mk.injEq] at given'
          obtain ⟨rfl, rfl⟩ := given'
          rw [ih drains']

/-- A scanner gives all tokens of the cursor that it agrees with. -/
theorem Agrees.drains {scanner : Scanner} {cursor : Cursor} (agrees : scanner.Agrees cursor)
    (reach : List Char → Nat) : scanner.Drains reach cursor.tokens := by
  fun_induction Cursor.tokens cursor generalizing scanner with
  | case1 cursor done => exact .done (agrees.next?_eq_none done reach)
  | case2 cursor token behind found ih =>
      obtain ⟨later, given, later_agrees⟩ := agrees.next?_eq_some found reach
      exact .more given (ih later_agrees)

/-- Some requests later a scanner agrees with the cursor some requests later. -/
theorem Agrees.after {scanner : Scanner} {cursor : Cursor} (agrees : scanner.Agrees cursor)
    (reach : List Char → Nat) (count : Nat) :
    (scanner.after reach count).Agrees (cursor.pull count).2 := by
  induction count generalizing scanner cursor with
  | zero => exact agrees
  | succ count ih =>
      rw [Scanner.after, Cursor.pull]
      cases found : cursor.next? with
      | none =>
          rw [agrees.next?_eq_none found reach]
          exact ih agrees
      | some step =>
          obtain ⟨later, given, later_agrees⟩ := agrees.next?_eq_some found reach
          rw [given]
          exact ih later_agrees

end Scanner

/-- Cutting can go on anywhere: behind every token the rest of the text is cut as if it stood alone,
and after any number of requests a scanner gives the tokens that are left and no others, whatever
made it start again. -/
theorem tokenize_resumes (source : String) :
    (∀ place token, (tokenize source)[place]? = some token →
      ∃ front back, source.toList = front ++ back ∧ Text.byteLength front = token.span.stop ∧
        (tokenize source).drop (place + 1) =
          (tokenize (String.ofList back)).map (·.further (token.line - 1) token.span.stop)) ∧
    (∀ count,
      (Cursor.pull count (Cursor.start source)).1 =
        (List.range count).map (fun place => (tokenize source)[place]?) ∧
      (Cursor.pull count (Cursor.start source)).2.tokens = (tokenize source).drop count) ∧
    ∀ (reach : List Char → Nat) (count : Nat),
      Scanner.answers reach count (Scanner.start source) =
        (List.range count).map (fun place => (tokenize source)[place]?) ∧
      ∀ tokens, (Scanner.after reach count (Scanner.start source)).Drains reach tokens ↔
        tokens = (tokenize source).drop count := by
  have agrees := Scanner.agrees_start source
  refine ⟨fun _ _ => drop_tokenize, fun count => Cursor.pull_eq count _, fun reach count => ?_⟩
  have left : (Scanner.after reach count (Scanner.start source)).Drains reach
      ((tokenize source).drop count) := by
    have drains := (agrees.after reach count).drains reach
    rwa [(Cursor.pull_eq count (Cursor.start source)).2] at drains
  refine ⟨agrees.answers_eq reach count, fun tokens => ⟨fun drains => drains.unique left, ?_⟩⟩
  rintro rfl
  exact left

/-- Behind a quote that is never closed, before a character of two bytes. -/
theorem tokenize_resumes_behind_open_quote :
    (tokenize "_a\n\"é\n_b;")[1]? = some ⟨.unrecognized, "\"", 2, ⟨3, 4⟩⟩ ∧
      ∃ front back, "_a\n\"é\n_b;".toList = front ++ back ∧ Text.byteLength front = 4 ∧
        (tokenize "_a\n\"é\n_b;").drop 2 = (tokenize (String.ofList back)).map (·.further 1 4) := by
  have found : (tokenize "_a\n\"é\n_b;")[1]? = some ⟨.unrecognized, "\"", 2, ⟨3, 4⟩⟩ := by
    decide +kernel
  exact ⟨found, (tokenize_resumes "_a\n\"é\n_b;").1 1 _ found⟩

end NovaLint
