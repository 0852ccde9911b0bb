import NovaLint.Text.Property.Extending
import NovaLint.Text.Property.Unassigned
import NovaLint.Text.Property.Wide

/-!
# Classes of characters

The classes that decide what a name may not start with, how wide a character is shown and which
characters are escaped between quotes.  Each class is a property of the character database, given by
its ranges of code points in ascending order, both ends included.
-/

namespace NovaLint
namespace Text

/-- The character lies in one of the ranges, which ascend. -/
def inRanges (c : Char) : List (Nat × Nat) → Bool
  | [] => false
  | (first, last) :: later =>
    if c.toNat < first then false else c.toNat ≤ last || inRanges c later

/-- White space: 25 code points. -/
def isBlank (c : Char) : Bool :=
  inRanges c
    [(0x0009, 0x000D), (0x0020, 0x0020), (0x0085, 0x0085), (0x00A0, 0x00A0), (0x1680, 0x1680),
      (0x2000, 0x200A), (0x2028, 0x2029), (0x202F, 0x202F), (0x205F, 0x205F), (0x3000, 0x3000)]

/-- Control characters. -/
def isControl (c : Char) : Bool := inRanges c [(0x0000, 0x001F), (0x007F, 0x009F)]

/-- Format characters, which steer the layout of a text. -/
def isFormat (c : Char) : Bool :=
  inRanges c
    [(0x00AD, 0x00AD), (0x0600, 0x0605), (0x061C, 0x061C), (0x06DD, 0x06DD), (0x070F, 0x070F),
      (0x0890, 0x0891), (0x08E2, 0x08E2), (0x180E, 0x180E), (0x200B, 0x200F), (0x202A, 0x202E),
      (0x2060, 0x2064), (0x2066, 0x206F), (0xFEFF, 0xFEFF), (0xFFF9, 0xFFFB), (0x110BD, 0x110BD),
      (0x110CD, 0x110CD), (0x13430, 0x1343F), (0x1BCA0, 0x1BCA3), (0x1D173, 0x1D17A),
      (0xE0001, 0xE0001), (0xE0020, 0xE007F)]

/-- Characters that are left out where a text is shown, unless they are supported in particular. -/
def isIgnorable (c : Char) : Bool :=
  inRanges c
    [(0x00AD, 0x00AD), (0x034F, 0x034F), (0x061C, 0x061C), (0x115F, 0x1160), (0x17B4, 0x17B5),
      (0x180B, 0x180F), (0x200B, 0x200F), (0x202A, 0x202E), (0x2060, 0x206F), (0x3164, 0x3164),
      (0xFE00, 0xFE0F), (0xFEFF, 0xFEFF), (0xFFA0, 0xFFA0), (0xFFF0, 0xFFF8), (0x1BCA0, 0x1BCA3),
      (0x1D173, 0x1D17A), (0xE0000, 0xE0FFF)]

/-- Vowels and final consonants of Hangul, which share the columns of the consonant before them. -/
def isInnerJamo (c : Char) : Bool :=
  inRanges c [(0x1160, 0x11FF), (0xD7B0, 0xD7C6), (0xD7CB, 0xD7FB)]

/-- Signs that are drawn over or around their neighbours although they extend none of them. -/
def isSpanningSign (c : Char) : Bool :=
  inRanges c
    [(0x0605, 0x0605), (0x070F, 0x070F), (0x0890, 0x0891), (0x08E2, 0x08E2), (0xA8FA, 0xA8FA)]

/-- Characters for private use. -/
def isPrivate (c : Char) : Bool :=
  inRanges c [(0xE000, 0xF8FF), (0xF0000, 0xFFFFD), (0x100000, 0x10FFFD)]

/-- Characters that are shown together with the character before them. -/
def isExtending (c : Char) : Bool := inRanges c extendingRanges

/-- Characters that fill two columns. -/
def isWide (c : Char) : Bool := inRanges c wideRanges

/-- Code points that stand for no character. -/
def isUnassigned (c : Char) : Bool := inRanges c unassignedRanges

/-- Every blank of the core library is one here too. -/
theorem isBlank_of_isWhitespace {c : Char} (blank : c.isWhitespace) : isBlank c := by
  simp only [Char.isWhitespace, Bool.or_eq_true, decide_eq_true_eq] at blank
  rcases blank with ((rfl | rfl) | rfl) | rfl <;> rfl

end Text
end NovaLint
