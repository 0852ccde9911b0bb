import NovaLint.Diagnostic.Basic
import NovaLint.Text.Cell
import NovaLint.Text.Columns

/-!
# Diagnostics as text

A diagnostic is written as a title, then the place and the line of its label with the labelled bytes
marked, then its notes.  A label within one line is underlined.  A label that takes in the line
feed ends at the beginning of the next line, so it is drawn as a bracket over both lines.
-/

namespace NovaLint
namespace Diagnostic

open Text

/-- The first line: the class of the error, if it has one, and the title. -/
def title (diagnostic : Diagnostic) : String :=
  match diagnostic.code? with
  | some code => "error[" ++ code ++ "]: " ++ diagnostic.message ++ "\n"
  | none => "error: " ++ diagnostic.message ++ "\n"

/-- The lines of a note: split at line feeds, without the carriage return right before a line feed
and without an empty last line. -/
def noteLines (note : String) : List String :=
  let pieces := (splitLines note.toList).filter fun piece => !piece.isEmpty
  pieces.map fun piece =>
    match piece.reverse with
    | '\n' :: '\r' :: front => String.ofList front.reverse
    | '\n' :: front => String.ofList front.reverse
    | _ => String.ofList piece

/-- A note, its first line marked. -/
def noteText (note : String) : String :=
  match noteLines note with
  | [] => ""
  | first :: later =>
    " = " ++ first ++ "\n" ++ String.join (later.map fun line => "   " ++ line ++ "\n")

/-- Marks under the bytes of a line from `start` to `stop`.  A glyph is marked in full width if any
byte of it is labelled; up to the last mark, other glyphs are replaced by blanks.  A label that
covers nothing marks the place where it stands, and a label may reach one place behind the line. -/
def underline (shown : List Glyph) (start stop : Nat) : String :=
  let stop := max stop (start + 1)
  let behind : Glyph := ⟨'\x00', (shown.getLast?.map (·.stop)).getD 0, 1⟩
  String.ofList <| (shown ++ [behind]).flatMap fun glyph =>
    if glyph.offset < stop ∧ start < glyph.stop then List.replicate glyph.width '^'
    else if glyph.offset < stop then List.replicate glyph.width ' '
    else []

/-- A message behind the marks, if there is one. -/
def trailing (message : String) : String := if message.isEmpty then "" else " " ++ message

/-- A labelled part of a line. -/
def underlined (margin : String) (line : Line) (label : Label) : String :=
  let shown := glyphs line.text
  margin ++ " │\n" ++
    toString line.number ++ " │ " ++ display shown ++ "\n" ++
    margin ++ " │ " ++
    underline shown (label.span.start - line.start) (label.span.stop - line.start) ++
    trailing label.message ++ "\n"

/-- A labelled line together with the line at whose beginning the label ends. -/
def bracketed (margin : String) (first last : Line) (label : Label) : String :=
  margin ++ " │  \n" ++
    rightCell margin.length (toString first.number) ++ " │ ╭ " ++
    display (glyphs first.text) ++ "\n" ++
    toString last.number ++ " │ │ " ++ display (glyphs last.text) ++ "\n" ++
    margin ++ " │ ╰^" ++ trailing label.message ++ "\n"

/-- The column of an offset: one more than the number of characters of the line that end at or
before it. -/
def column (line : Line) (offset : Nat) : Nat :=
  (layOut line.start 0 line.text).countP (fun glyph => glyph.stop ≤ offset) + 1

/-- The place and the picture of a label. -/
def labelText (file : SourceFile) (label : Label) : String :=
  match lineAt? file.lines label.span.start, lineAt? file.lines label.span.stop with
  | some first, some last =>
    let margin := blanks (toString last.number).length
    margin ++ s!" ┌─ {file.name}:{first.number}:{column first label.span.start}\n" ++
      if first.number = last.number then underlined margin first label
      else bracketed margin first last label
  | _, _ => ""

/-- A diagnostic in full, followed by an empty line.  A label on an unknown file leaves nothing to
show, and nothing is written. -/
def text (sources : Sources) (diagnostic : Diagnostic) : String :=
  let notes := String.join (diagnostic.notes.map noteText) ++ "\n"
  match diagnostic.label? with
  | none => diagnostic.title ++ notes
  | some label =>
    match sources.files[label.file]? with
    | none => ""
    | some file => diagnostic.title ++ labelText file label ++ notes

/-- Several diagnostics, one after the other. -/
def texts (sources : Sources) (diagnostics : List Diagnostic) : String :=
  String.join (diagnostics.map (text sources))

end Diagnostic
end NovaLint
