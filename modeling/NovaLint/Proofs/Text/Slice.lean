import NovaLint.Text.Position

/-!
# Slices of a text

A range of bytes cuts a text only if both its ends lie between two characters.  Then the piece that
it cuts is determined by the range, since no character takes zero bytes.
-/

namespace NovaLint
namespace Text

/-- The range begins and ends between two characters of the text, and the piece stands there. -/
def Slice (text : List Char) (span : Span) (piece : List Char) : Prop :=
  ∃ front back, text = front ++ (piece ++ back) ∧
    byteLength front = span.start ∧ byteLength (front ++ piece) = span.stop

/-- The bytes counted here are those of the encoded text. -/
theorem byteLength_toList (text : String) : byteLength text.toList = text.utf8ByteSize := by
  rw [← String.ofList_toList (s := text)]
  generalize text.toList = letters
  rw [String.toList_ofList]
  induction letters with
  | nil => rfl
  | cons c rest ih =>
      rw [byteLength_cons, ih, String.ofList_cons, String.utf8ByteSize_append,
        String.utf8ByteSize_singleton]

/-- The place behind a piece of text that stands at the beginning. -/
theorem Position.advance_start (front : List Char) :
    Position.start.advance front = ⟨byteLength front, 1 + front.count '\n'⟩ := by
  have offset_eq : (start.advance front).offset = byteLength front := by
    rw [advance_offset, start, Nat.zero_add]
  have line_eq : (start.advance front).line = 1 + front.count '\n' := by
    rw [advance_line, start]
  rw [← offset_eq, ← line_eq]

/-- A place in a text is known by its offset. -/
theorem split_unique {front front' back back' : List Char}
    (same_text : front ++ back = front' ++ back')
    (same_offset : byteLength front = byteLength front') : front = front' := by
  induction front generalizing front' with
  | nil =>
      cases front' with
      | nil => rfl
      | cons c rest =>
          have positive := c.utf8Size_pos
          rw [byteLength_nil, byteLength_cons] at same_offset
          omega
  | cons c rest ih =>
      cases front' with
      | nil =>
          have positive := c.utf8Size_pos
          rw [byteLength_nil, byteLength_cons] at same_offset
          omega
      | cons d rest' =>
          obtain ⟨rfl, same_rest⟩ := List.cons.inj same_text
          rw [byteLength_cons, byteLength_cons] at same_offset
          rw [ih same_rest (by omega)]

end Text
end NovaLint
