import Mathlib.Data.List.Induction
import NovaLint.Diagnostic.Basic
import NovaLint.Proofs.Text.Contents

/-!
# Lines and their spans

A line begins with the text or behind a line feed, and ends behind its own line feed or with the
text.  Its number is told by the line feeds before it, and these are also what the number of a token
is told by.  So the bytes of a line are those of its tokens and of what stands around them.
-/

namespace NovaLint
namespace Text

/-- A line with its line feed stands between two pieces of a text. -/
structure LineBetween (text front line back : List Char) : Prop where
  /-- The pieces make up the text. -/
  text_eq : text = front ++ (line ++ back)
  /-- It begins with the text or behind a line feed. -/
  begins : front = [] ∨ front.getLast? = some '\n'
  /-- Its only line feed is its end, and only the last line may lack one. -/
  ends : (∃ content, '\n' ∉ content ∧ line = content ++ ['\n']) ∨ ('\n' ∉ line ∧ back = [])

/-- The bytes are those of the line with a number. -/
def IsLine (text : String) (number : Nat) (span : Span) : Prop :=
  ∃ front line back, LineBetween text.toList front line back ∧ number = 1 + front.count '\n' ∧
    span = ⟨byteLength front, byteLength (front ++ line)⟩

/-- The bytes lie within others. -/
def Span.Within (inner outer : Span) : Prop := outer.start ≤ inner.start ∧ inner.stop ≤ outer.stop

theorem byteLength_le_of_prefix {front text : List Char} (front_of : front <+: text) :
    byteLength front ≤ byteLength text := by
  obtain ⟨back, rfl⟩ := front_of
  rw [byteLength_append]
  omega

/-- The beginning of a line is not behind a place with as many line feeds before it. -/
theorem LineBetween.prefix_of_count_eq {text front line back other : List Char}
    (between : LineBetween text front line back) (other_of : other <+: text)
    (same_count : front.count '\n' = other.count '\n') : front <+: other := by
  have front_of : front <+: text := ⟨line ++ back, between.text_eq.symm⟩
  rcases List.prefix_or_prefix_of_prefix front_of other_of with before | ⟨more, rfl⟩
  · exact before
  rw [List.count_append] at same_count
  have no_feed : '\n' ∉ more := List.count_eq_zero.mp (by omega)
  rcases between.begins with empty | feed
  · rw [empty]
    exact List.nil_prefix
  · cases more using List.reverseRecOn with
    | nil => exact ⟨[], by simp⟩
    | append_singleton more last =>
        rw [← List.append_assoc, List.getLast?_concat, Option.some_inj] at feed
        exact absurd (feed ▸ List.mem_append_right more List.mem_cons_self) no_feed

/-- What follows a beginning of a line without a line feed is within the line. -/
theorem LineBetween.prefix_line {text front line back piece later : List Char}
    (between : LineBetween text front line back) (one_line : '\n' ∉ piece)
    (text_eq : text = front ++ (piece ++ later)) : piece <+: line := by
  have same_rest := List.append_cancel_left (between.text_eq.symm.trans text_eq)
  rcases between.ends with ⟨content, _, line_eq⟩ | ⟨_, back_eq⟩
  · have piece_of : piece <+: line ++ back := ⟨later, same_rest.symm⟩
    rcases List.prefix_or_prefix_of_prefix piece_of (List.prefix_append line back) with
      within | ⟨more, piece_eq⟩
    · exact within
    · rw [← piece_eq, line_eq] at one_line
      simp at one_line
  · rw [back_eq, List.append_nil] at same_rest
    exact ⟨later, same_rest.symm⟩

/-- A piece of text without a line feed lies within the line of its number. -/
theorem IsLine.within {text : String} {number : Nat} {span inner : Span} {piece : List Char}
    (isLine : IsLine text number span) (slice : Slice text.toList inner piece)
    (one_line : '\n' ∉ piece)
    (counted : ∀ front, front <+: text.toList → byteLength front = inner.start →
      number = 1 + front.count '\n') : inner.Within span := by
  obtain ⟨front, line, back, between, number_eq, rfl⟩ := isLine
  obtain ⟨other, later, text_eq, start_eq, stop_eq⟩ := slice
  have other_of : other <+: text.toList := ⟨piece ++ later, text_eq.symm⟩
  have same_count : front.count '\n' = other.count '\n' := by
    have := counted other other_of start_eq
    omega
  obtain ⟨gap, rfl⟩ := between.prefix_of_count_eq other_of same_count
  rw [List.count_append] at same_count
  have no_feed : '\n' ∉ gap := List.count_eq_zero.mp (by omega)
  have line_prefix : gap ++ piece <+: line := by
    have one_line' : '\n' ∉ gap ++ piece := by
      rw [List.mem_append, not_or]
      exact ⟨no_feed, one_line⟩
    rw [List.append_assoc, ← List.append_assoc gap] at text_eq
    exact between.prefix_line one_line' text_eq
  have length_le := byteLength_le_of_prefix line_prefix
  simp only [byteLength_append] at start_eq stop_eq length_le
  constructor <;> simp only [byteLength_append] <;> omega

theorem IsLine.stop_le {text : String} {number : Nat} {span : Span}
    (isLine : IsLine text number span) : span.stop ≤ text.utf8ByteSize := by
  obtain ⟨front, line, back, between, _, rfl⟩ := isLine
  rw [← byteLength_toList, between.text_eq, ← List.append_assoc]
  exact byteLength_le_of_prefix (List.prefix_append ..)

theorem splitLines_last {line : List Char} (one_line : '\n' ∉ line) : splitLines line = [line] := by
  induction line with
  | nil => rfl
  | cons c rest ih =>
      rw [List.mem_cons, not_or] at one_line
      rw [splitLines, if_neg (Ne.symm one_line.1), ih one_line.2]

theorem splitLines_next {line : List Char} (one_line : '\n' ∉ line) (later : List Char) :
    splitLines (line ++ '\n' :: later) = (line ++ ['\n']) :: splitLines later := by
  induction line with
  | nil => rfl
  | cons c rest ih =>
      rw [List.mem_cons, not_or] at one_line
      rw [List.cons_append, splitLines, if_neg (Ne.symm one_line.1), ih one_line.2]
      rfl

/-- A text is split into its lines. -/
theorem exists_lineBetween {text : List Char} {index : Nat} {line : List Char}
    (found : (splitLines text)[index]? = some line) :
    ∃ back, LineBetween text ((splitLines text).take index).flatten line back ∧
      ((splitLines text).take index).flatten.count '\n' = index := by
  induction text using lineInduction generalizing index with
  | last last one_line =>
      rw [splitLines_last one_line] at found ⊢
      cases index with
      | zero =>
          obtain rfl := Option.some.inj found
          exact ⟨[], ⟨by simp, .inl rfl, .inr ⟨one_line, rfl⟩⟩, rfl⟩
      | succ index => simp at found
  | next first later one_line ih =>
      rw [splitLines_next one_line] at found ⊢
      cases index with
      | zero =>
          obtain rfl := Option.some.inj found
          exact ⟨later, ⟨by simp, .inl rfl, .inl ⟨first, one_line, rfl⟩⟩, rfl⟩
      | succ index =>
          obtain ⟨back, between, count_eq⟩ := ih found
          rw [List.take_succ_cons, List.flatten_cons]
          refine ⟨back, ⟨?_, .inr ?_, between.ends⟩, ?_⟩
          · rw [List.append_assoc, ← between.text_eq, List.append_assoc]
            rfl
          · rcases between.begins with empty | feed
            · rw [empty, List.append_nil, List.getLast?_concat]
            · rw [List.getLast?_append, feed]
              rfl
          · rw [List.count_append, count_eq, List.count_append, List.count_eq_zero.mpr one_line]
            simp [Nat.add_comm]

theorem getElem?_placeLines (position : Position) (pieces : List (List Char)) (index : Nat) :
    (placeLines position pieces)[index]? = pieces[index]?.map fun piece =>
      let here := position.advance (pieces.take index).flatten
      ⟨here.line, here.offset, piece⟩ := by
  induction pieces generalizing position index with
  | nil => rfl
  | cons piece later ih =>
      cases index with
      | zero => rfl
      | succ index =>
          rw [placeLines, List.getElem?_cons_succ, List.getElem?_cons_succ, ih, List.take_succ_cons,
            List.flatten_cons, Position.advance_append]

end Text

/-- A source file has a line for each number that a place of its text can have, and gives the bytes
of that line. -/
theorem SourceFile.exists_isLine (name text : String) {front : List Char}
    (front_of : front <+: text.toList) :
    ∃ span, (ofText name text).lineSpan? (1 + front.count '\n') = some span ∧
      Text.IsLine text (1 + front.count '\n') span := by
  have within : front.count '\n' < (Text.splitLines text.toList).length := by
    rw [Text.length_splitLines]
    exact Nat.lt_succ_of_le (front_of.sublist.count_le '\n')
  have found := List.getElem?_eq_getElem within
  obtain ⟨back, between, count_eq⟩ := Text.exists_lineBetween found
  refine ⟨_, ?_, _, _, back, between, ?_, rfl⟩
  · rw [lineSpan?, if_neg (by omega), Nat.add_sub_cancel_left, ofText, Text.lines,
      Text.getElem?_placeLines, found, Text.Position.advance_start, Option.map_some,
      Option.map_some, Text.byteLength_append]
    rfl
  · rw [count_eq]

end NovaLint
