import NovaLint.Token.Kind

/-!
# The lexeme at the front of a text

`Lexeme.recognize` decides from the first character which class of lexeme can begin, and takes the
longest lexeme of that class.  No two classes begin with the same character, so this is the longest
lexeme of all.  Where no lexeme begins, the first character alone is taken and is `unrecognized`; an
opening quote whose literal is never closed is such a character.
-/

namespace NovaLint

/-- A recognized piece at the front of a text. -/
structure Lexeme where
  /-- What was recognized. -/
  kind : Kind
  /-- Number of characters after the first that belong to it. -/
  extra : Nat
deriving DecidableEq, Repr

namespace Lexeme

/-- Number of characters of the lexeme; never zero. -/
def size (lexeme : Lexeme) : Nat := lexeme.extra + 1

/-- Characters that can begin a word. -/
def startsWord (c : Char) : Bool := c.isAlpha || c == '_'

/-- Characters that can continue a word. -/
def continuesWord (c : Char) : Bool := c.isAlphanum || c == '_'

/-- Length of a word after its first character. -/
def wordExtra (rest : List Char) : Nat := (rest.takeWhile continuesWord).length

/-- A number after its first digit.  A point belongs to the number only if a digit follows it. -/
def number (rest : List Char) : Lexeme :=
  let whole := rest.takeWhile Char.isDigit
  match rest.dropWhile Char.isDigit with
  | '.' :: digit :: later =>
    if digit.isDigit then
      ⟨.floatLiteral, whole.length + 2 + (later.takeWhile Char.isDigit).length⟩
    else ⟨.intLiteral, whole.length⟩
  | _ => ⟨.intLiteral, whole.length⟩

/-- Length of a string literal after its opening quote, the closing quote included.  A backslash
takes the next character along, whatever it is, but a literal never passes the end of its line. -/
def stringExtra? : List Char → Option Nat
  | [] => none
  | '"' :: _ => some 1
  | '\\' :: c :: rest => if c = '\n' then none else (stringExtra? rest).map (· + 2)
  | c :: rest => if c = '\\' ∨ c = '\n' then none else (stringExtra? rest).map (· + 1)

/-- Length of a character literal after its opening quote: one character or one escape, and the
closing quote. -/
def charExtra? : List Char → Option Nat
  | '\\' :: c :: '\'' :: _ => if c = '\n' then none else some 3
  | c :: '\'' :: _ => if c = '\'' ∨ c = '\\' ∨ c = '\n' then none else some 2
  | _ => none

/-- The longest sign that begins with `first`: two characters, else one, else none. -/
def sign (first : Char) (rest : List Char) : Lexeme :=
  match rest.head?.bind (Kind.ofPair? first) with
  | some kind => ⟨kind, 1⟩
  | none => ⟨(Kind.ofSingle? first).getD .unrecognized, 0⟩

/-- The lexeme at the front of the text `first :: rest`. -/
def recognize (first : Char) (rest : List Char) : Lexeme :=
  if startsWord first then
    ⟨Kind.ofWord (String.ofList (first :: rest.takeWhile continuesWord)), wordExtra rest⟩
  else if first.isDigit then number rest
  else if first = '"' then
    match stringExtra? rest with
    | some extra => ⟨.stringLiteral, extra⟩
    | none => ⟨.unrecognized, 0⟩
  else if first = '\'' then
    match charExtra? rest with
    | some extra => ⟨.charLiteral, extra⟩
    | none => ⟨.unrecognized, 0⟩
  else sign first rest

end Lexeme
end NovaLint
