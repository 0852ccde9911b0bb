import NovaLint.Proofs.Text.Slice
import NovaLint.Text.Lines

/-!
# Lines without their line feeds

A text split at its line feeds gives one piece for each line, the last of which may be empty.  A
piece has the number and the offset of its line, so a text can be taken apart line by line and what
is found out about a line can be moved to where the line stands.
-/

namespace NovaLint
namespace Text

/-- What holds of a single line, and of a line before a text of which it holds, holds of all
texts. -/
@[elab_as_elim]
theorem lineInduction {motive : List Char → Prop} (last : ∀ line, '\n' ∉ line → motive line)
    (next : ∀ line later, '\n' ∉ line → motive later → motive (line ++ '\n' :: later))
    (text : List Char) : motive text := by
  induction length_eq : text.length using Nat.strongRecOn generalizing text with
  | ind length ih =>
      by_cases newline : '\n' ∈ text
      · obtain ⟨line, later, rfl, one_line⟩ := List.eq_append_cons_of_mem newline
        refine next line later one_line (ih later.length ?_ later rfl)
        rw [← length_eq, List.length_append, List.length_cons]
        omega
      · exact last text newline

/-- Passing over a piece of a line stays on the line. -/
theorem Position.advance_of_one_line {text : List Char} (one_line : '\n' ∉ text)
    (position : Position) :
    position.advance text = ⟨position.offset + byteLength text, position.line⟩ := by
  have line_eq : (position.advance text).line = position.line := by
    rw [advance_line, List.count_eq_zero.mpr one_line, Nat.add_zero]
  rw [← advance_offset, ← line_eq]

/-- Give each piece of a split text its number and its offset. -/
def placeContents : Position → List (List Char) → List Line
  | _, [] => []
  | position, content :: later =>
    ⟨position.line, position.offset, content⟩ ::
      placeContents (position.advance (content ++ ['\n'])) later

/-- The lines of a text without their line feeds. -/
def contents (text : String) : List Line := placeContents .start (text.toList.splitOn '\n')

theorem placeContents_last {line : List Char} (one_line : '\n' ∉ line) (position : Position) :
    placeContents position (line.splitOn '\n') = [⟨position.line, position.offset, line⟩] := by
  rw [List.splitOn_eq_singleton one_line]
  rfl

theorem placeContents_next {line : List Char} (one_line : '\n' ∉ line) (later : List Char)
    (position : Position) :
    placeContents position ((line ++ '\n' :: later).splitOn '\n') =
      ⟨position.line, position.offset, line⟩ ::
        placeContents (position.advance (line ++ ['\n'])) (later.splitOn '\n') := by
  rw [List.splitOn_append_cons_self_of_not_mem one_line]
  rfl

theorem newline_not_mem_of_mem_splitOn {text piece : List Char}
    (member : piece ∈ text.splitOn '\n') : '\n' ∉ piece := by
  induction text using lineInduction with
  | last line one_line =>
      rw [List.splitOn_eq_singleton one_line, List.mem_singleton] at member
      exact member ▸ one_line
  | next line later one_line ih =>
      rw [List.splitOn_append_cons_self_of_not_mem one_line] at member
      rcases List.mem_cons.mp member with rfl | behind
      · exact one_line
      · exact ih behind

/-- A piece is numbered by its place, and its offset counts the lines before it with their line
feeds. -/
theorem getElem?_placeContents {position : Position} {pieces : List (List Char)}
    (one_line : ∀ piece ∈ pieces, '\n' ∉ piece) (index : Nat) :
    (placeContents position pieces)[index]? = pieces[index]?.map fun piece =>
      ⟨position.line + index,
        position.offset + byteLength ((pieces.take index).flatMap (· ++ ['\n'])), piece⟩ := by
  induction pieces generalizing position index with
  | nil => rfl
  | cons piece later ih =>
      obtain ⟨piece_line, later_lines⟩ := List.forall_mem_cons.mp one_line
      cases index with
      | zero => rfl
      | succ index =>
          have line_eq : (position.advance (piece ++ ['\n'])).line = position.line + 1 := by
            rw [Position.advance_line, List.count_append, List.count_eq_zero.mpr piece_line]
            rfl
          rw [placeContents, List.getElem?_cons_succ, List.getElem?_cons_succ, ih later_lines,
            line_eq, Position.advance_offset, List.take_succ_cons, List.flatMap_cons,
            byteLength_append (piece ++ ['\n'])]
          simp only [Nat.add_assoc, Nat.add_comm 1]

theorem getElem?_contents (text : String) (index : Nat) :
    (contents text)[index]? = (text.toList.splitOn '\n')[index]?.map fun piece =>
      ⟨index + 1, byteLength (((text.toList.splitOn '\n').take index).flatMap (· ++ ['\n'])),
        piece⟩ := by
  rw [contents, getElem?_placeContents fun _ => newline_not_mem_of_mem_splitOn]
  simp only [Position.start, Nat.zero_add, Nat.add_comm 1]

/-- The lines are numbered one after the other. -/
theorem number_of_getElem?_contents {text : String} {index : Nat} {line : Line}
    (found : (contents text)[index]? = some line) : line.number = index + 1 := by
  rw [getElem?_contents] at found
  obtain ⟨piece, _, rfl⟩ := Option.map_eq_some_iff.mp found
  rfl

theorem newline_not_mem_of_mem_contents {text : String} {line : Line}
    (member : line ∈ contents text) : '\n' ∉ line.text := by
  obtain ⟨index, found⟩ := List.mem_iff_getElem?.mp member
  rw [getElem?_contents] at found
  obtain ⟨piece, piece_at, rfl⟩ := Option.map_eq_some_iff.mp found
  exact newline_not_mem_of_mem_splitOn (List.mem_of_getElem? piece_at)

theorem map_text_placeContents (position : Position) (pieces : List (List Char)) :
    (placeContents position pieces).map (·.text) = pieces := by
  induction pieces generalizing position with
  | nil => rfl
  | cons piece later ih => rw [placeContents, List.map_cons, ih]

theorem map_text_contents (text : String) :
    (contents text).map (·.text) = text.toList.splitOn '\n' :=
  map_text_placeContents .start _

end Text
end NovaLint
