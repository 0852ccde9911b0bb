import NovaLint.Text.CharClass

/-!
# Quoted text

A text between double quotes on one line of visible characters.  Quotes and backslashes are marked
by a backslash, the common control characters have a letter each, and any other character that
cannot be seen on its own is written as its code point in hexadecimal digits.
-/

namespace NovaLint
namespace Text

/-- The character cannot be seen on its own. -/
def isInvisible (c : Char) : Bool :=
  isControl c || (isBlank c && c != ' ') || isExtending c || isFormat c || isPrivate c ||
    isUnassigned c

/-- A code point between braces, in hexadecimal digits without leading zeros. -/
def codePoint (c : Char) : List Char :=
  '\\' :: 'u' :: '\x7b' :: Nat.toDigits 16 c.toNat ++ ['\x7d']

/-- A character as it stands between quotes. -/
def escape (c : Char) : List Char :=
  match c with
  | '"' => ['\\', '"']
  | '\\' => ['\\', '\\']
  | '\n' => ['\\', 'n']
  | '\t' => ['\\', 't']
  | '\r' => ['\\', 'r']
  | '\x00' => ['\\', '0']
  | c => if isInvisible c then codePoint c else [c]

/-- A text between quotes. -/
def quoted (text : String) : String :=
  String.ofList ('"' :: text.toList.flatMap escape ++ ['"'])

end Text
end NovaLint
