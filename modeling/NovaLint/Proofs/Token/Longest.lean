import Mathlib.Data.List.TakeWhile
import NovaLint.Proofs.Token.Pattern

/-!
# The longest lexeme

The scanner decides from the first character which lexemes can begin, and takes the longest of
them.  This file ties that decision to the patterns: `recognize_chosen` says that no pattern of any
kind matches a longer piece at the front of the text, that the kind is the one whose pattern
matches, and that a character stands alone only if no pattern matches there at all.
-/

namespace NovaLint

/-- Kinds of tokens that begin with the same class of characters. -/
inductive Family where
  /-- Names and reserved words. -/
  | word
  /-- Numbers with and without a fraction. -/
  | number
  /-- Texts between double quotes. -/
  | string
  /-- Characters between single quotes. -/
  | char
  /-- Operators, brackets and separators. -/
  | sign
deriving DecidableEq, Repr

/-- The family that a first character leads to. -/
def Lexeme.family (first : Char) : Family :=
  if startsWord first then .word
  else if first.isDigit then .number
  else if first = '"' then .string
  else if first = '\'' then .char
  else .sign

namespace Kind

/-- The family of a kind. -/
def family : Kind → Family
  | ifWord | elseWord | forWord | whileWord | doWord | functionWord | returnWord | outputWord
  | intType | floatType | stringType | charType | boolType | trueWord | falseWord
  | identifier => .word
  | intLiteral | floatLiteral => .number
  | stringLiteral => .string
  | charLiteral => .char
  | _ => .sign

theorem eq_of_spelling_eq_none {kind : Kind} (unspelled : kind.spelling? = none) :
    kind = identifier ∨ kind = intLiteral ∨ kind = floatLiteral ∨ kind = stringLiteral ∨
      kind = charLiteral ∨ kind = unrecognized := by
  cases kind <;> simp_all [spelling?]

theorem family_of_spelling {kind : Kind} {spelling : String}
    (spelled : kind.spelling? = some spelling) :
    ∃ first rest, spelling.toList = first :: rest ∧ Lexeme.family first = kind.family := by
  cases kind <;> simp only [spelling?, Option.some.injEq, reduceCtorEq] at spelled <;>
    subst spelled <;> exact ⟨_, _, rfl, rfl⟩

/-- A reserved word is written like a name. -/
theorem mem_identifier_of_spelling {kind : Kind} {spelling : String}
    (spelled : kind.spelling? = some spelling) (word : kind.family = .word) :
    spelling.toList ∈ identifier.language := by
  rw [mem_identifier]
  cases kind <;> simp only [spelling?, family, Option.some.injEq, reduceCtorEq] at spelled word <;>
    subst spelled <;> exact ⟨_, _, rfl, rfl, List.all_eq_true.mp rfl⟩

theorem lookup_words_of_spelling {kind : Kind} {spelling : String}
    (spelled : kind.spelling? = some spelling) (word : kind.family = .word) :
    words.lookup spelling = some kind := by
  cases kind <;> simp only [spelling?, family, Option.some.injEq, reduceCtorEq] at spelled word <;>
    subst spelled <;> rfl

/-- A sign is written with two characters or with one. -/
theorem ofPair_or_ofSingle_of_spelling {kind : Kind} {spelling : String}
    (spelled : kind.spelling? = some spelling) (sign : kind.family = .sign) :
    (∃ first second, spelling.toList = [first, second] ∧ ofPair? first second = some kind) ∨
      ∃ first, spelling.toList = [first] ∧ ofSingle? first = some kind := by
  cases kind <;> simp only [spelling?, family, Option.some.injEq, reduceCtorEq] at spelled sign <;>
    subst spelled <;> first | exact .inl ⟨_, _, rfl, rfl⟩ | exact .inr ⟨_, rfl, rfl⟩

private theorem mem_of_lookup {α β : Type} [BEq α] [LawfulBEq α] {table : List (α × β)} {key : α}
    {value : β} (found : table.lookup key = some value) : (key, value) ∈ table := by
  obtain ⟨front, back, rfl, _⟩ := List.lookup_eq_some_iff.mp found
  exact List.mem_append_right front List.mem_cons_self

theorem spelling_of_lookup_words {kind : Kind} {word : String}
    (found : words.lookup word = some kind) : kind.spelling? = some word := by
  have listed : ∀ entry ∈ words, entry.2.spelling? = some entry.1 := by decide
  exact listed (word, kind) (mem_of_lookup found)

theorem spelling_of_ofPair {kind : Kind} {first second : Char}
    (found : ofPair? first second = some kind) :
    kind.spelling? = some (String.ofList [first, second]) := by
  have listed : ∀ entry ∈ pairs,
      entry.2.spelling? = some (String.ofList [entry.1.1, entry.1.2]) := by decide
  exact listed ((first, second), kind) (mem_of_lookup found)

theorem spelling_of_ofSingle {kind : Kind} {c : Char} (found : ofSingle? c = some kind) :
    kind.spelling? = some (String.ofList [c]) := by
  have listed : ∀ entry ∈ singles, entry.2.spelling? = some (String.ofList [entry.1]) := by decide
  exact listed (c, kind) (mem_of_lookup found)

theorem not_startsWord_of_isDigit {c : Char} (digit : c.isDigit) :
    ¬ Lexeme.startsWord c := by
  rw [Lexeme.isDigit_iff] at digit
  rw [Lexeme.startsWord_iff]
  rintro (⟨low, _⟩ | ⟨low, _⟩ | rfl)
  · exact absurd (Char.le_trans low digit.2) (by decide)
  · exact absurd (Char.le_trans low digit.2) (by decide)
  · exact absurd digit.2 (by decide)

private theorem family_of_digits {piece : List Char} (matched : piece ∈ intLiteral.language) :
    ∃ first rest, piece = first :: rest ∧ Lexeme.family first = .number := by
  obtain ⟨nonempty, digits⟩ := mem_intLiteral.mp matched
  obtain ⟨first, rest, rfl⟩ := List.exists_cons_of_ne_nil nonempty
  have digit : first.isDigit := digits first List.mem_cons_self
  exact ⟨first, rest, rfl, by simp [Lexeme.family, not_startsWord_of_isDigit digit, digit]⟩

/-- The first character of a match tells the family of the kind. -/
theorem family_of_mem {kind : Kind} {piece : List Char} (matched : piece ∈ kind.language) :
    ∃ first rest, piece = first :: rest ∧ Lexeme.family first = kind.family := by
  cases spelled : kind.spelling? with
  | some spelling =>
      rw [language_of_spelling spelled] at matched
      obtain ⟨first, rest, spelling_eq, same⟩ := family_of_spelling spelled
      exact ⟨first, rest, Eq.trans matched spelling_eq, same⟩
  | none =>
      rcases eq_of_spelling_eq_none spelled with rfl | rfl | rfl | rfl | rfl | rfl
      · obtain ⟨first, rest, rfl, starts, _⟩ := mem_identifier.mp matched
        exact ⟨first, rest, rfl, by simp [Lexeme.family, family, starts]⟩
      · exact family_of_digits matched
      · obtain ⟨whole, whole_mem, fraction, _, rfl⟩ := mem_floatLiteral.mp matched
        obtain ⟨first, rest, rfl, same⟩ := family_of_digits whole_mem
        exact ⟨first, rest ++ '.' :: fraction, rfl, same⟩
      · obtain ⟨body, _, rfl⟩ := mem_stringLiteral.mp matched
        exact ⟨'"', body ++ ['"'], rfl, rfl⟩
      · obtain ⟨body, _, rfl⟩ := mem_charLiteral.mp matched
        exact ⟨'\'', body ++ ['\''], rfl, rfl⟩
      · exact absurd matched (Language.notMem_zero piece)

/-- A match at the front of a text takes its first character, and its kind is of the family that
this character leads to. -/
theorem match_at_front {kind : Kind} {piece : List Char} {first : Char} {rest : List Char}
    (matched : piece ∈ kind.language) (front : piece <+: first :: rest) :
    kind.family = Lexeme.family first ∧ ∃ tail, piece = first :: tail ∧ tail <+: rest := by
  obtain ⟨head, tail, rfl, same⟩ := family_of_mem matched
  obtain ⟨rfl, tail_front⟩ := List.cons_prefix_cons.mp front
  exact ⟨same.symm, tail, rfl, tail_front⟩

/-- No pattern matches a longer piece at the front of a text, and no other pattern matches this one,
but for a reserved word, which could also be a name. -/
structure Longest (kind : Kind) (piece text : List Char) : Prop where
  /-- The piece is at the front. -/
  front : piece <+: text
  /-- The pattern of the kind matches it. -/
  matched : piece ∈ kind.language
  /-- No pattern matches a longer piece. -/
  bound : ∀ (other : Kind) candidate, candidate ∈ other.language → candidate <+: text →
    candidate.length ≤ piece.length
  /-- Where two patterns match the piece, they are those of a reserved word and of a name. -/
  only : ∀ other : Kind, piece ∈ other.language →
    other = kind ∨ other = identifier ∧ kind.spelling? = some (String.ofList piece)

/-- What is to be cut from the front of a text. -/
inductive Chosen (kind : Kind) (piece text : List Char) : Prop
  /-- The longest match. -/
  | found (longest : kind.Longest piece text)
  /-- One character, if nothing matches. -/
  | missing (unknown : kind = unrecognized) (front : piece <+: text) (alone : piece.length = 1)
      (unmatched : ∀ (other : Kind) candidate, candidate ∈ other.language → ¬ candidate <+: text)

end Kind

namespace Lexeme

/-- The lexeme is what is to be cut from the front of a text. -/
def Chosen (lexeme : Lexeme) (text : List Char) : Prop :=
  lexeme.kind.Chosen (text.take lexeme.size) text

private theorem length_le_takeWhile {class? : Char → Bool} {piece text : List Char}
    (front : piece <+: text) (allowed : ∀ c ∈ piece, class? c) :
    piece.length ≤ (text.takeWhile class?).length := by
  obtain ⟨behind, rfl⟩ := front
  rw [List.takeWhile_append_of_pos allowed, List.length_append]
  omega

private theorem take_takeWhile_length (class? : Char → Bool) (text : List Char) :
    text.take (text.takeWhile class?).length = text.takeWhile class? :=
  (List.prefix_iff_eq_take.mp (List.takeWhile_prefix class?)).symm

/-- Only names and reserved words are of the family of words. -/
private theorem eq_identifier_or_spelled {kind : Kind} (word : kind.family = .word) :
    kind = .identifier ∨ ∃ spelling, kind.spelling? = some spelling := by
  cases spelled : kind.spelling? with
  | some spelling => exact .inr ⟨spelling, rfl⟩
  | none =>
      rcases Kind.eq_of_spelling_eq_none spelled with rfl | rfl | rfl | rfl | rfl | rfl <;>
        simp [Kind.family] at word ⊢

private theorem mem_identifier_of_family {kind : Kind} {piece : List Char}
    (matched : piece ∈ kind.language) (word : kind.family = .word) :
    piece ∈ Kind.identifier.language := by
  rcases eq_identifier_or_spelled word with rfl | ⟨spelling, spelled⟩
  · exact matched
  · rw [Kind.language_of_spelling spelled] at matched
    exact Eq.symm matched ▸ Kind.mem_identifier_of_spelling spelled word

theorem longest_word {first : Char} (starts : startsWord first) (rest : List Char) :
    (Kind.ofWord (String.ofList (first :: rest.takeWhile continuesWord))).Longest
      (first :: rest.takeWhile continuesWord) (first :: rest) := by
  have led : family first = .word := by simp [family, starts]
  have named : first :: rest.takeWhile continuesWord ∈ Kind.identifier.language :=
    Kind.mem_identifier.mpr
      ⟨first, _, rfl, starts, fun c member => List.mem_takeWhile_imp member⟩
  constructor
  · exact List.cons_prefix_cons.mpr ⟨rfl, List.takeWhile_prefix _⟩
  · cases reserved : Kind.words.lookup (String.ofList (first :: rest.takeWhile continuesWord)) with
    | some kind =>
        simp only [Kind.ofWord, reserved, Option.getD_some]
        rw [Kind.language_of_spelling (Kind.spelling_of_lookup_words reserved)]
        exact String.toList_ofList.symm
    | none => simpa only [Kind.ofWord, reserved, Option.getD_none] using named
  · intro kind piece matched front
    obtain ⟨same, tail, rfl, tail_front⟩ := Kind.match_at_front matched front
    obtain ⟨_, _, same_piece, _, continues⟩ :=
      Kind.mem_identifier.mp (mem_identifier_of_family matched (same.trans led))
    obtain ⟨rfl, rfl⟩ := List.cons.inj same_piece
    have bounded := length_le_takeWhile tail_front continues
    simp only [List.length_cons]
    omega
  · intro kind matched
    have word : kind.family = .word :=
      (Kind.match_at_front matched (List.prefix_refl _)).1.trans led
    rcases eq_identifier_or_spelled word with rfl | ⟨spelling, spelled⟩
    · cases reserved : Kind.words.lookup
          (String.ofList (first :: rest.takeWhile continuesWord)) with
      | some kind =>
          right
          simp only [Kind.ofWord, reserved, Option.getD_some]
          exact ⟨trivial, Kind.spelling_of_lookup_words reserved⟩
      | none => exact .inl (by simp only [Kind.ofWord, reserved, Option.getD_none])
    · left
      rw [Kind.language_of_spelling spelled] at matched
      have same : String.ofList (first :: rest.takeWhile continuesWord) = spelling := by
        rw [show first :: rest.takeWhile continuesWord = spelling.toList from matched,
          String.ofList_toList]
      simp only [same, Kind.ofWord, Kind.lookup_words_of_spelling spelled word, Option.getD_some]

private theorem eq_int_or_float {kind : Kind} (number : kind.family = .number) :
    kind = .intLiteral ∨ kind = .floatLiteral := by
  cases kind <;> simp_all [Kind.family]

/-- A point behind digits is no digit, so a number with a fraction is no run of digits. -/
private theorem not_mem_both {piece : List Char} (whole : piece ∈ Kind.intLiteral.language)
    (float : piece ∈ Kind.floatLiteral.language) : False := by
  obtain ⟨front, _, fraction, _, rfl⟩ := Kind.mem_floatLiteral.mp float
  have point : '.'.isDigit := (Kind.mem_intLiteral.mp whole).2 '.' (by simp)
  exact absurd point (by decide)

/-- Where a number with a fraction stands, its digits up to the point are all the digits that stand
there, and the point and another digit follow them. -/
private theorem split_float {piece : List Char} {first : Char} {rest : List Char}
    (float : piece ∈ Kind.floatLiteral.language) (front : piece <+: first :: rest) :
    ∃ digit fraction behind, digit.isDigit ∧ (∀ c ∈ fraction, c.isDigit) ∧
      rest.dropWhile Char.isDigit = '.' :: digit :: (fraction ++ behind) ∧
      piece.length = (rest.takeWhile Char.isDigit).length + fraction.length + 3 := by
  obtain ⟨whole, whole_mem, fraction, fraction_mem, rfl⟩ := Kind.mem_floatLiteral.mp float
  obtain ⟨whole_nonempty, whole_digits⟩ := Kind.mem_intLiteral.mp whole_mem
  obtain ⟨fraction_nonempty, fraction_digits⟩ := Kind.mem_intLiteral.mp fraction_mem
  obtain ⟨head, more, rfl⟩ := List.exists_cons_of_ne_nil whole_nonempty
  obtain ⟨digit, digits, rfl⟩ := List.exists_cons_of_ne_nil fraction_nonempty
  obtain ⟨digit_isDigit, digits_isDigit⟩ := List.forall_mem_cons.mp fraction_digits
  rw [List.cons_append] at front
  obtain ⟨rfl, behind, rfl⟩ := List.cons_prefix_cons.mp front
  have more_digits : ∀ c ∈ more, c.isDigit := fun c member =>
    whole_digits c (List.mem_cons_of_mem head member)
  have point : ¬ '.'.isDigit := by decide
  refine ⟨digit, digits, behind, digit_isDigit, digits_isDigit, ?_, ?_⟩
  · rw [List.append_assoc, List.dropWhile_append_of_pos more_digits, List.cons_append,
      List.dropWhile_cons_of_neg point, List.cons_append]
  · rw [List.append_assoc, List.takeWhile_append_of_pos more_digits, List.cons_append,
      List.cons_append, List.takeWhile_cons_of_neg point]
    simp only [List.append_nil, List.length_append, List.length_cons]
    omega

private theorem number_of_fraction {rest later : List Char} {digit : Char}
    (behind : rest.dropWhile Char.isDigit = '.' :: digit :: later) (isDigit : digit.isDigit) :
    number rest =
      ⟨.floatLiteral, (rest.takeWhile Char.isDigit).length + 2 +
        (later.takeWhile Char.isDigit).length⟩ := by
  simp only [number, behind, isDigit, if_true]

private theorem number_of_not_fraction {rest : List Char}
    (behind : ∀ digit later, rest.dropWhile Char.isDigit = '.' :: digit :: later →
      ¬ digit.isDigit) :
    number rest = ⟨.intLiteral, (rest.takeWhile Char.isDigit).length⟩ := by
  unfold number
  split
  · next digit later split_eq => exact if_neg (behind digit later split_eq)
  · rfl

/-- The digits at the front of a number are the longest run of digits there. -/
private theorem digits_bound {piece : List Char} {first : Char} {rest : List Char}
    (whole : piece ∈ Kind.intLiteral.language) (front : piece <+: first :: rest) :
    piece.length ≤ (rest.takeWhile Char.isDigit).length + 1 := by
  obtain ⟨_, tail, rfl, tail_front⟩ := Kind.match_at_front whole front
  have digits := (List.forall_mem_cons.mp (Kind.mem_intLiteral.mp whole).2).2
  have bounded := length_le_takeWhile tail_front digits
  simp only [List.length_cons]
  omega

private theorem longest_int {first : Char} (isDigit : first.isDigit) {rest : List Char}
    (behind : ∀ digit later, rest.dropWhile Char.isDigit = '.' :: digit :: later →
      ¬ digit.isDigit) :
    Kind.intLiteral.Longest (first :: rest.takeWhile Char.isDigit) (first :: rest) := by
  have led : family first = .number := by
    simp [family, Kind.not_startsWord_of_isDigit isDigit, isDigit]
  have whole : first :: rest.takeWhile Char.isDigit ∈ Kind.intLiteral.language :=
    Kind.mem_intLiteral.mpr ⟨by simp, List.forall_mem_cons.mpr
      ⟨isDigit, fun c member => List.mem_takeWhile_imp member⟩⟩
  constructor
  · exact List.cons_prefix_cons.mpr ⟨rfl, List.takeWhile_prefix _⟩
  · exact whole
  · intro kind piece matched front
    have number := (Kind.match_at_front matched front).1.trans led
    rcases eq_int_or_float number with rfl | rfl
    · exact digits_bound matched front
    · obtain ⟨digit, fraction, more, digit_isDigit, _, split_eq, _⟩ := split_float matched front
      exact absurd digit_isDigit (behind digit (fraction ++ more) split_eq)
  · intro kind matched
    have number := (Kind.match_at_front matched (List.prefix_refl _)).1.trans led
    rcases eq_int_or_float number with rfl | rfl
    · exact .inl rfl
    · exact (not_mem_both whole matched).elim

private theorem longest_float {first : Char} (isDigit : first.isDigit) {rest later : List Char}
    {digit : Char} (behind : rest.dropWhile Char.isDigit = '.' :: digit :: later)
    (digit_isDigit : digit.isDigit) :
    Kind.floatLiteral.Longest
      ((first :: rest.takeWhile Char.isDigit) ++ '.' :: digit :: later.takeWhile Char.isDigit)
      (first :: rest) := by
  have led : family first = .number := by
    simp [family, Kind.not_startsWord_of_isDigit isDigit, isDigit]
  have float : (first :: rest.takeWhile Char.isDigit) ++
      '.' :: digit :: later.takeWhile Char.isDigit ∈ Kind.floatLiteral.language := by
    refine Kind.mem_floatLiteral.mpr ⟨_, Kind.mem_intLiteral.mpr ⟨by simp, ?_⟩, _,
      Kind.mem_intLiteral.mpr ⟨by simp, ?_⟩, rfl⟩
    · exact List.forall_mem_cons.mpr ⟨isDigit, fun c member => List.mem_takeWhile_imp member⟩
    · exact List.forall_mem_cons.mpr
        ⟨digit_isDigit, fun c member => List.mem_takeWhile_imp member⟩
  constructor
  · have rest_eq : rest.takeWhile Char.isDigit ++ '.' :: digit :: later = rest := by
      rw [← behind, List.takeWhile_append_dropWhile]
    rw [List.cons_append]
    nth_rewrite 2 [← rest_eq]
    exact List.cons_prefix_cons.mpr ⟨rfl, (List.prefix_append_right_inj _).mpr
      (List.cons_prefix_cons.mpr ⟨rfl, List.cons_prefix_cons.mpr ⟨rfl, List.takeWhile_prefix _⟩⟩)⟩
  · exact float
  · intro kind piece matched front
    have number := (Kind.match_at_front matched front).1.trans led
    rcases eq_int_or_float number with rfl | rfl
    · have bounded := digits_bound matched front
      simp only [List.length_append, List.length_cons]
      omega
    · obtain ⟨other, fraction, more, _, fraction_digits, split_eq, length_eq⟩ :=
        split_float matched front
      rw [behind] at split_eq
      obtain ⟨rfl, rfl⟩ : digit = other ∧ later = fraction ++ more := by simpa using split_eq
      have bounded := length_le_takeWhile (List.prefix_append fraction more) fraction_digits
      simp only [List.length_append, List.length_cons]
      omega
  · intro kind matched
    have number := (Kind.match_at_front matched (List.prefix_refl _)).1.trans led
    rcases eq_int_or_float number with rfl | rfl
    · exact (not_mem_both matched float).elim
    · exact .inl rfl

theorem longest_number {first : Char} (isDigit : first.isDigit) (rest : List Char) :
    (number rest).kind.Longest ((first :: rest).take (number rest).size) (first :: rest) := by
  by_cases fraction : ∃ digit later, rest.dropWhile Char.isDigit = '.' :: digit :: later ∧
      digit.isDigit
  · obtain ⟨digit, later, behind, digit_isDigit⟩ := fraction
    have taken : (first :: rest).take
        ((rest.takeWhile Char.isDigit).length + 2 + (later.takeWhile Char.isDigit).length + 1) =
        (first :: rest.takeWhile Char.isDigit) ++
          '.' :: digit :: later.takeWhile Char.isDigit := by
      have rest_eq : rest.takeWhile Char.isDigit ++ '.' :: digit :: later = rest := by
        rw [← behind, List.takeWhile_append_dropWhile]
      generalize rest.takeWhile Char.isDigit = whole at rest_eq
      subst rest_eq
      rw [List.take_succ_cons, Nat.add_assoc, List.take_length_add_append, Nat.add_comm 2,
        List.take_succ_cons, List.take_succ_cons, take_takeWhile_length, List.cons_append]
    rw [number_of_fraction behind digit_isDigit, size, taken]
    exact longest_float isDigit behind digit_isDigit
  · have behind : ∀ digit later, rest.dropWhile Char.isDigit = '.' :: digit :: later →
        ¬ digit.isDigit := fun digit later split_eq digit_isDigit =>
      fraction ⟨digit, later, split_eq, digit_isDigit⟩
    rw [number_of_not_fraction behind, size, List.take_succ_cons, take_takeWhile_length]
    exact longest_int isDigit behind

/-- A literal between quotes is chosen where one stands, if its length is found exactly there. -/
private theorem chosen_quoted {kind : Kind} {quote : Char} {inside : Language Char}
    {extra? : List Char → Option Nat}
    (alone : ∀ other : Kind, other.family = family quote → other = kind)
    (language : ∀ piece, piece ∈ kind.language ↔
      ∃ body ∈ inside, piece = quote :: (body ++ [quote]))
    (complete : ∀ body ∈ inside, ∀ behind,
      extra? (body ++ quote :: behind) = some (body.length + 1))
    (sound : ∀ rest extra, extra? rest = some extra →
      ∃ body ∈ inside, body ++ [quote] <+: rest ∧ extra = body.length + 1)
    (rest : List Char) :
    Chosen
      (match extra? rest with
      | some extra => ⟨kind, extra⟩
      | none => ⟨.unrecognized, 0⟩)
      (quote :: rest) := by
  -- A match of any kind is a literal, and the search for a length finds its length.
  have searched : ∀ (other : Kind) piece, piece ∈ other.language → piece <+: quote :: rest →
      other = kind ∧ extra? rest = some (piece.length - 1) := by
    intro other piece matched front
    obtain rfl := alone other (Kind.match_at_front matched front).1
    obtain ⟨body, body_mem, rfl⟩ := (language piece).mp matched
    obtain ⟨behind, rfl⟩ := (List.cons_prefix_cons.mp front).2
    refine ⟨rfl, ?_⟩
    rw [List.append_assoc]
    simpa using complete body body_mem behind
  split
  · next extra closed =>
      obtain ⟨body, body_mem, ⟨behind, rfl⟩, rfl⟩ := sound rest extra closed
      have taken : (quote :: (body ++ [quote] ++ behind)).take (body.length + 1 + 1) =
          quote :: (body ++ [quote]) := by
        rw [List.take_succ_cons, show body.length + 1 = (body ++ [quote]).length by simp,
          List.take_left]
      have front : quote :: (body ++ [quote]) <+: quote :: (body ++ [quote] ++ behind) :=
        ⟨behind, rfl⟩
      rw [Chosen, size, taken]
      apply Kind.Chosen.found
      constructor
      · exact front
      · exact (language _).mpr ⟨body, body_mem, rfl⟩
      · intro other piece matched other_front
        have length_eq := (searched other piece matched other_front).2
        rw [closed, Option.some.injEq] at length_eq
        simp only [List.length_cons, List.length_append, List.length_nil]
        omega
      · intro other matched
        exact .inl (searched other _ matched front).1
  · next never =>
      refine Kind.Chosen.missing rfl (List.take_prefix _ _) rfl ?_
      intro other piece matched front
      have length_eq := (searched other piece matched front).2
      rw [never] at length_eq
      exact absurd length_eq.symm (Option.some_ne_none _)

theorem stringExtra?_append {body : List Char}
    (matched : body ∈ (Pattern.quotable '"').many.language) (behind : List Char) :
    stringExtra? (body ++ '"' :: behind) = some (body.length + 1) := by
  obtain ⟨chunks, rfl, quotable⟩ := matched
  induction chunks with
  | nil => simp [stringExtra?]
  | cons chunk chunks ih =>
      obtain ⟨chunk_mem, chunks_mem⟩ := List.forall_mem_cons.mp quotable
      have rest_extra := ih chunks_mem
      rw [List.flatten_cons, List.append_assoc]
      rcases Pattern.mem_quotable.mp chunk_mem with ⟨c, c_free, rfl⟩ | ⟨c, c_ne, rfl⟩
      · simp only [List.mem_cons, List.not_mem_nil, or_false, not_or] at c_free
        simp [stringExtra?, c_free, rest_extra]
      · simp [stringExtra?, c_ne, rest_extra]

theorem exists_body_of_stringExtra? {rest : List Char} {extra : Nat}
    (closed : stringExtra? rest = some extra) :
    ∃ body ∈ (Pattern.quotable '"').many.language,
      body ++ ['"'] <+: rest ∧ extra = body.length + 1 := by
  fun_induction stringExtra? rest generalizing extra with
  | case1 => simp at closed
  | case2 behind =>
      simp only [Option.some.injEq] at closed
      exact ⟨[], Pattern.nil_mem_many _, by simp, by simp [closed]⟩
  | case3 => simp at closed
  | case4 c rest c_ne ih =>
      obtain ⟨inner, inner_eq, rfl⟩ := Option.map_eq_some_iff.mp closed
      obtain ⟨body, body_mem, front, rfl⟩ := ih inner_eq
      have escape : ['\\', c] ∈ (Pattern.quotable '"').language :=
        Pattern.mem_quotable.mpr (.inr ⟨c, c_ne, rfl⟩)
      exact ⟨['\\', c] ++ body, Pattern.append_mem_many escape body_mem, by simpa using front,
        by simp⟩
  | case5 => simp at closed
  | case6 c rest not_quote not_escape c_free ih =>
      obtain ⟨inner, inner_eq, rfl⟩ := Option.map_eq_some_iff.mp closed
      obtain ⟨body, body_mem, front, rfl⟩ := ih inner_eq
      have single : [c] ∈ (Pattern.quotable '"').language := by
        refine Pattern.mem_quotable.mpr (.inl ⟨c, ?_, rfl⟩)
        simpa using ⟨not_quote, not_or.mp c_free⟩
      exact ⟨[c] ++ body, Pattern.append_mem_many single body_mem, by simpa using front, by simp⟩

theorem charExtra?_append {body : List Char}
    (matched : body ∈ (Pattern.quotable '\'').language) (behind : List Char) :
    charExtra? (body ++ '\'' :: behind) = some (body.length + 1) := by
  rcases Pattern.mem_quotable.mp matched with ⟨c, c_free, rfl⟩ | ⟨c, c_ne, rfl⟩
  · simp only [List.mem_cons, List.not_mem_nil, or_false, not_or] at c_free
    simp [charExtra?, c_free]
  · simp [charExtra?, c_ne]

theorem exists_body_of_charExtra? {rest : List Char} {extra : Nat}
    (closed : charExtra? rest = some extra) :
    ∃ body ∈ (Pattern.quotable '\'').language,
      body ++ ['\''] <+: rest ∧ extra = body.length + 1 := by
  unfold charExtra? at closed
  split at closed
  · next c behind =>
      split at closed
      · simp at closed
      · next c_ne =>
          rw [Option.some.injEq] at closed
          exact ⟨['\\', c], Pattern.mem_quotable.mpr (.inr ⟨c, c_ne, rfl⟩), by simp, closed.symm⟩
  · next c behind _ =>
      split at closed
      · simp at closed
      · next c_free =>
          rw [Option.some.injEq] at closed
          exact ⟨[c], Pattern.mem_quotable.mpr (.inl ⟨c, by simpa using c_free, rfl⟩), by simp,
            closed.symm⟩
  · simp at closed

private theorem eq_stringLiteral {kind : Kind} (string : kind.family = .string) :
    kind = .stringLiteral := by
  cases kind <;> simp_all [Kind.family]

private theorem eq_charLiteral {kind : Kind} (char : kind.family = .char) :
    kind = .charLiteral := by
  cases kind <;> simp_all [Kind.family]

/-- A match that begins with the character of a sign is one or two characters long, and the tables
of signs give its kind. -/
private theorem sign_of_match {kind : Kind} {piece : List Char} {first : Char} {rest : List Char}
    (led : family first = .sign) (matched : piece ∈ kind.language)
    (front : piece <+: first :: rest) :
    (∃ second more, rest = second :: more ∧ piece = [first, second] ∧
        Kind.ofPair? first second = some kind) ∨
      piece = [first] ∧ Kind.ofSingle? first = some kind := by
  obtain ⟨same, tail, rfl, tail_front⟩ := Kind.match_at_front matched front
  cases spelled : kind.spelling? with
  | none =>
      rcases Kind.eq_of_spelling_eq_none spelled with rfl | rfl | rfl | rfl | rfl | rfl
      case inr.inr.inr.inr.inr => exact absurd matched (Language.notMem_zero _)
      all_goals simp [Kind.family, led] at same
  | some spelling =>
      rw [Kind.language_of_spelling spelled] at matched
      have written : first :: tail = spelling.toList := matched
      rcases Kind.ofPair_or_ofSingle_of_spelling spelled (same.trans led) with
        ⟨a, b, spelling_eq, pair⟩ | ⟨a, spelling_eq, single⟩
      · obtain ⟨rfl, rfl⟩ := List.cons.inj (written.trans spelling_eq)
        obtain ⟨more, rfl⟩ := tail_front
        exact .inl ⟨b, more, rfl, rfl, pair⟩
      · obtain ⟨rfl, rfl⟩ := List.cons.inj (written.trans spelling_eq)
        exact .inr ⟨rfl, single⟩

private theorem longest_pair {first second : Char} {more : List Char} {kind : Kind}
    (led : family first = .sign) (pair : Kind.ofPair? first second = some kind) :
    kind.Longest [first, second] (first :: second :: more) := by
  constructor
  · exact List.prefix_append [first, second] more
  · rw [Kind.language_of_spelling (Kind.spelling_of_ofPair pair)]
    exact String.toList_ofList.symm
  · intro other piece matched front
    rcases sign_of_match led matched front with ⟨_, _, _, rfl, _⟩ | ⟨rfl, _⟩ <;> simp
  · intro other matched
    rcases sign_of_match led matched (List.prefix_append [first, second] more) with
      ⟨_, _, rest_eq, _, other_pair⟩ | ⟨single, _⟩
    · obtain ⟨rfl, rfl⟩ := List.cons.inj rest_eq
      exact .inl (Option.some.inj (other_pair.symm.trans pair))
    · simp at single

private theorem longest_single {first : Char} {rest : List Char} {kind : Kind}
    (led : family first = .sign) (unpaired : rest.head?.bind (Kind.ofPair? first) = none)
    (single : Kind.ofSingle? first = some kind) : kind.Longest [first] (first :: rest) := by
  have alone : ∀ (other : Kind) piece, piece ∈ other.language → piece <+: first :: rest →
      piece = [first] ∧ Kind.ofSingle? first = some other := by
    intro other piece matched front
    rcases sign_of_match led matched front with ⟨second, more, rfl, _, pair⟩ | alone
    · simp [pair] at unpaired
    · exact alone
  constructor
  · exact List.prefix_append [first] rest
  · rw [Kind.language_of_spelling (Kind.spelling_of_ofSingle single)]
    exact String.toList_ofList.symm
  · intro other piece matched front
    rw [(alone other piece matched front).1]
  · intro other matched
    have same := (alone other _ matched (List.prefix_append [first] rest)).2
    exact .inl (Option.some.inj (same.symm.trans single))

theorem chosen_sign {first : Char} (led : family first = .sign) (rest : List Char) :
    Chosen (sign first rest) (first :: rest) := by
  unfold sign
  split
  · next kind pair =>
      obtain ⟨second, head_eq, pair⟩ := Option.bind_eq_some_iff.mp pair
      obtain ⟨more, rfl⟩ := List.head?_eq_some_iff.mp head_eq
      exact Kind.Chosen.found (longest_pair led pair)
  · next unpaired =>
      cases single : Kind.ofSingle? first with
      | some kind => exact Kind.Chosen.found (longest_single led unpaired single)
      | none =>
          refine Kind.Chosen.missing rfl (List.take_prefix _ _) rfl ?_
          intro kind piece matched front
          rcases sign_of_match led matched front with ⟨second, more, rfl, _, pair⟩ | ⟨_, other⟩
          · simp [pair] at unpaired
          · simp [single] at other

/-- The scanner cuts the longest match of all patterns, or one character where there is none. -/
theorem recognize_chosen (first : Char) (rest : List Char) :
    Chosen (recognize first rest) (first :: rest) := by
  by_cases starts : startsWord first
  · rw [recognize, if_pos starts, Chosen, size, List.take_succ_cons, wordExtra,
      take_takeWhile_length]
    exact .found (longest_word starts rest)
  by_cases digit : first.isDigit
  · rw [recognize, if_neg starts, if_pos digit]
    exact Kind.Chosen.found (longest_number digit rest)
  by_cases double : first = '"'
  · subst double
    exact chosen_quoted (fun _ => eq_stringLiteral) (fun _ => Kind.mem_stringLiteral)
      (fun _ => stringExtra?_append) (fun _ _ => exists_body_of_stringExtra?) rest
  by_cases single : first = '\''
  · subst single
    exact chosen_quoted (fun _ => eq_charLiteral) (fun _ => Kind.mem_charLiteral)
      (fun _ => charExtra?_append) (fun _ _ => exists_body_of_charExtra?) rest
  rw [recognize, if_neg starts, if_neg digit, if_neg double, if_neg single]
  exact chosen_sign (by simp [family, starts, digit, double, single]) rest

end Lexeme
end NovaLint
