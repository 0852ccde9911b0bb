/-!
# Cells of a table

A text that is filled with blanks up to a width.  The width counts characters; a longer text keeps
all of its characters.
-/

namespace NovaLint
namespace Text

/-- As many blanks as the number says. -/
def blanks (count : Nat) : String := String.ofList (List.replicate count ' ')

/-- A text at the left of a cell. -/
def leftCell (width : Nat) (text : String) : String := text ++ blanks (width - text.length)

/-- A text at the right of a cell. -/
def rightCell (width : Nat) (text : String) : String := blanks (width - text.length) ++ text

end Text
end NovaLint
