import NovaLint.Text.CharClass
import NovaLint.Text.Position

/-!
# Columns of a displayed line

Most characters fill one column and wide ones fill two.  Control characters fill none, and neither
do characters that are left out or are drawn into the columns of another one.  A tab fills the
columns up to the next multiple of four.
-/

namespace NovaLint
namespace Text

/-- The placeholder for the first consonant of a syllable, which holds the columns of the syllable
although it is not shown. -/
def leadingFiller : Char := '\u115f'

/-- The character has no columns of its own. -/
def isColumnless (c : Char) : Bool :=
  isControl c ||
    (c != leadingFiller && (isIgnorable c || isExtending c || isInnerJamo c || isSpanningSign c))

/-- Number of columns that a character other than a tab fills. -/
def columns (c : Char) : Nat :=
  if isColumnless c then 0 else if isWide c then 2 else 1

/-- Distance of the tab stops. -/
def tabWidth : Nat := 4

/-- A character in its place on a displayed line. -/
structure Glyph where
  /-- The character. -/
  char : Char
  /-- Number of bytes before it on its line. -/
  offset : Nat
  /-- Number of columns that it fills. -/
  width : Nat
deriving DecidableEq, Repr

/-- Offset of the first byte behind the character. -/
def Glyph.stop (glyph : Glyph) : Nat := glyph.offset + glyph.char.utf8Size

/-- Lay out characters that begin at an offset and a column of their line. -/
def layOut (offset column : Nat) : List Char → List Glyph
  | [] => []
  | c :: rest =>
    let width := if c = '\t' then tabWidth - column % tabWidth else columns c
    ⟨c, offset, width⟩ :: layOut (offset + c.utf8Size) (column + width) rest

/-- A line without the line feeds, carriage returns and null characters at its end. -/
def trimEnd (line : List Char) : List Char :=
  (line.reverse.dropWhile fun c => c == '\n' || c == '\r' || c == '\x00').reverse

/-- The characters of a line as they are displayed. -/
def glyphs (line : List Char) : List Glyph := layOut 0 0 (trimEnd line)

/-- A displayed line; a tab is shown as blanks. -/
def display (glyphs : List Glyph) : String :=
  String.ofList <| glyphs.flatMap fun glyph =>
    if glyph.char = '\t' then List.replicate glyph.width ' ' else [glyph.char]

end Text
end NovaLint
