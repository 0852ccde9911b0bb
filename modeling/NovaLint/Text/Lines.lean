import NovaLint.Text.Position

/-!
# Lines of a text

A line feed ends a line and belongs to the line that it ends.  A text with some number of line feeds
has one line more than that, and the last of them may be empty.
-/

namespace NovaLint
namespace Text

/-- The lines of a text, each with its line feed. -/
def splitLines : List Char → List (List Char)
  | [] => [[]]
  | c :: rest =>
    if c = '\n' then [c] :: splitLines rest
    else
      match splitLines rest with
      | [] => [[c]]
      | line :: later => (c :: line) :: later

/-- No character is lost and none is moved. -/
theorem flatten_splitLines (text : List Char) : (splitLines text).flatten = text := by
  fun_induction splitLines text <;> simp_all

/-- There is one line more than there are line feeds. -/
theorem length_splitLines (text : List Char) :
    (splitLines text).length = text.count '\n' + 1 := by
  fun_induction splitLines text <;> simp_all

/-- A line and its place in a text. -/
structure Line where
  /-- Its number, counted from one. -/
  number : Nat
  /-- Offset of its first byte. -/
  start : Nat
  /-- Its characters, the line feed included. -/
  text : List Char
deriving DecidableEq, Repr

/-- The bytes of a line, those of its line feed included. -/
def Line.span (line : Line) : Span := ⟨line.start, line.start + byteLength line.text⟩

/-- Give each line its number and its offset. -/
def placeLines : Position → List (List Char) → List Line
  | _, [] => []
  | position, text :: later =>
    ⟨position.line, position.offset, text⟩ :: placeLines (position.advance text) later

/-- The lines of a text with their places. -/
def lines (text : String) : List Line := placeLines .start (splitLines text.toList)

/-- The line that holds an offset; an offset behind the text belongs to the last line. -/
def lineAt? (lines : List Line) (offset : Nat) : Option Line :=
  (lines.takeWhile fun line => line.start ≤ offset).getLast?

end Text
end NovaLint
