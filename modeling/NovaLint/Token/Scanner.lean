import NovaLint.Token.Cursor

/-!
# A scanner that starts again

A scanner lets a matcher search a text for lexemes.  Where no lexeme begins, the matcher may have
read ahead before it gave up; only the first character is reported, and the matcher starts again on
the text behind it.  So the scanner keeps four places that move apart: how far the matcher has come
in its own text, where that text begins in the source, up to where lines have been counted, and the
line reached there.
-/

namespace NovaLint

namespace Text

/-- What is left of a text behind some bytes. -/
def dropBytes : Nat → List Char → List Char
  | 0, text => text
  | _, [] => []
  | count + 1, c :: rest => dropBytes (count + 1 - c.utf8Size) rest

/-- The characters of a text up to some bytes. -/
def takeBytes : Nat → List Char → List Char
  | 0, _ => []
  | _, [] => []
  | count + 1, c :: rest => c :: takeBytes (count + 1 - c.utf8Size) rest

/-- The characters between two offsets of a text. -/
def between (text : List Char) (start stop : Nat) : List Char :=
  takeBytes (stop - start) (dropBytes start text)

end Text

/-- A search for lexemes in a text. -/
structure Matcher where
  /-- The characters not yet read. -/
  rest : List Char
  /-- Where they begin in the text that is searched. -/
  offset : Nat
deriving DecidableEq, Repr

/-- What a matcher comes upon. -/
structure Matcher.Attempt where
  /-- What was matched, or `unrecognized`. -/
  kind : Kind
  /-- The characters that were read. -/
  text : List Char
  /-- Where they stand in the text that is searched. -/
  span : Text.Span
deriving DecidableEq, Repr

/-- The next match or the next failure.  How many characters a failure reads after the first is told
by `reach`, which may be any number. -/
def Matcher.next? (reach : List Char → Nat) (matcher : Matcher) : Option (Attempt × Matcher) :=
  let gap := Trivia.length .code matcher.rest
  let start := matcher.offset + Text.byteLength (matcher.rest.take gap)
  match matcher.rest.drop gap with
  | [] => none
  | first :: later =>
    let lexeme := Lexeme.recognize first later
    let count := if lexeme.kind = .unrecognized then reach later + 1 else lexeme.size
    let text := (first :: later).take count
    let stop := start + Text.byteLength text
    some (⟨lexeme.kind, text, ⟨start, stop⟩⟩, ⟨(first :: later).drop count, stop⟩)

/-- A scanner and the places that it keeps. -/
structure Scanner where
  /-- The whole text. -/
  source : List Char
  /-- The search in the text or in its end. -/
  matcher : Matcher
  /-- Where the text that is searched begins in the source. -/
  base : Nat
  /-- The line that holds the offset `counted`. -/
  line : Nat
  /-- Up to which offset the lines of the source have been counted. -/
  counted : Nat
deriving DecidableEq, Repr

namespace Scanner

/-- The scanner before the first character of a source text. -/
def start (source : String) : Scanner :=
  { source := source.toList, matcher := ⟨source.toList, 0⟩, base := 0, line := 1, counted := 0 }

/-- Count the lines up to an offset. -/
def countTo (scanner : Scanner) (offset : Nat) : Scanner :=
  { scanner with
    line := scanner.line + (Text.between scanner.source scanner.counted offset).count '\n'
    counted := offset }

/-- Report the first character of a failure.  If the matcher has read more, it starts again. -/
def reject (scanner : Scanner) (span : Text.Span) : Token × Scanner :=
  let first? := (Text.dropBytes span.start scanner.source).head?
  let stop := span.start + (first?.map Char.utf8Size).getD 1
  let text := String.ofList (Text.between scanner.source span.start stop)
  let token := ⟨.unrecognized, text, scanner.line, ⟨span.start, stop⟩⟩
  if stop < span.stop then
    (token, { scanner with matcher := ⟨Text.dropBytes stop scanner.source, 0⟩, base := stop })
  else (token, scanner)

/-- The next token and the scanner behind it, or nothing at the end. -/
def next? (reach : List Char → Nat) (scanner : Scanner) : Option (Token × Scanner) :=
  match scanner.matcher.next? reach with
  | none => none
  | some (attempt, matcher) =>
    let span := attempt.span.shift scanner.base
    let counted := { scanner.countTo span.start with matcher }
    if attempt.kind = .unrecognized then some (counted.reject span)
    else some (⟨attempt.kind, String.ofList attempt.text, counted.line, span⟩, counted)

/-- The answers to a number of requests for the next token. -/
def answers (reach : List Char → Nat) : Nat → Scanner → List (Option Token)
  | 0, _ => []
  | count + 1, scanner =>
    match scanner.next? reach with
    | none => none :: answers reach count scanner
    | some (token, behind) => some token :: answers reach count behind

end Scanner
end NovaLint
