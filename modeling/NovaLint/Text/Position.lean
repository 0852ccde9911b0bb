/-!
# Positions and spans

A place in a text is counted twice: in bytes of its encoded form, which is what labels of a
diagnostic refer to, and in lines, which is what a reader refers to.  Only a line feed ends a line.
Passing over two pieces of text one after the other is passing over their concatenation.
-/

namespace NovaLint
namespace Text

/-- Number of bytes that encode the characters. -/
def byteLength : List Char → Nat
  | [] => 0
  | c :: rest => c.utf8Size + byteLength rest

@[simp]
theorem byteLength_nil : byteLength [] = 0 := rfl

@[simp]
theorem byteLength_cons (c : Char) (rest : List Char) :
    byteLength (c :: rest) = c.utf8Size + byteLength rest := rfl

@[simp]
theorem byteLength_append (front back : List Char) :
    byteLength (front ++ back) = byteLength front + byteLength back := by
  induction front with
  | nil => simp
  | cons c front ih => simp [ih, Nat.add_assoc]

/-- A place between two characters of a text. -/
structure Position where
  /-- Number of bytes before the place. -/
  offset : Nat
  /-- Number of the line that holds the place, counted from one. -/
  line : Nat
deriving DecidableEq, Repr, Inhabited

namespace Position

/-- The place before the first character. -/
def start : Position := ⟨0, 1⟩

/-- The place after one more character. -/
def step (position : Position) (c : Char) : Position :=
  { offset := position.offset + c.utf8Size
    line := if c = '\n' then position.line + 1 else position.line }

/-- The place after a piece of text. -/
def advance (position : Position) (text : List Char) : Position :=
  text.foldl step position

@[simp]
theorem advance_nil (position : Position) : position.advance [] = position := rfl

@[simp]
theorem advance_cons (position : Position) (c : Char) (text : List Char) :
    position.advance (c :: text) = (position.step c).advance text := rfl

theorem advance_append (position : Position) (front back : List Char) :
    position.advance (front ++ back) = (position.advance front).advance back :=
  List.foldl_append

theorem advance_offset (position : Position) (text : List Char) :
    (position.advance text).offset = position.offset + byteLength text := by
  induction text generalizing position with
  | nil => rfl
  | cons c text ih => rw [advance_cons, ih, byteLength_cons, step, Nat.add_assoc]

theorem advance_line (position : Position) (text : List Char) :
    (position.advance text).line = position.line + text.count '\n' := by
  induction text generalizing position with
  | nil => rfl
  | cons c text ih =>
      rw [advance_cons, ih, List.count_cons]
      by_cases newline : c = '\n' <;> simp [step, newline, Nat.add_assoc, Nat.add_comm 1]

end Position

/-- A half-open range of bytes in a text. -/
structure Span where
  /-- Offset of the first byte. -/
  start : Nat
  /-- Offset after the last byte. -/
  stop : Nat
deriving DecidableEq, Repr, Inhabited

/-- Move both ends of a range towards the end of the text. -/
def Span.shift (span : Span) (distance : Nat) : Span :=
  ⟨span.start + distance, span.stop + distance⟩

@[simp]
theorem Span.shift_zero (span : Span) : span.shift 0 = span := rfl

theorem Span.shift_shift (span : Span) (near far : Nat) :
    (span.shift near).shift far = span.shift (near + far) := by
  simp [shift, Nat.add_assoc]

end Text
end NovaLint
