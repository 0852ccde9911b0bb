import NovaLint.Proofs.Token.Reading

/-!
# Maximal munch

Every token of a text is the longest match of all patterns at the place where it stands.  A reserved
word is preferred to the name that it could also be.  A character is left unrecognized only if no
pattern of a token matches there, and nothing could be skipped there either.
-/

namespace NovaLint

/-- The token is the longest match at the front of a text, and no other kind has a claim to it. -/
structure Token.Recognized (token : Token) (text : List Char) : Prop where
  /-- The pattern of its kind matches the token. -/
  matched : token.text.toList ∈ token.kind.language
  /-- No pattern matches a longer piece. -/
  longest : ∀ (kind : Kind) piece, piece ∈ kind.language → piece <+: text →
    piece.length ≤ token.text.toList.length
  /-- Reserved words and signs are told by their spelling alone. -/
  spelled : ∀ (kind : Kind) spelling, kind.spelling? = some spelling →
    (token.kind = kind ↔ token.text = spelling)
  /-- A pattern of another kind matches the token only if that kind is a name and the token is a
  reserved word. -/
  preferred : ∀ kind : Kind, token.text.toList ∈ kind.language → kind = token.kind ∨
    kind = .identifier ∧ token.kind.spelling? = some token.text

/-- The token is a single character, and no pattern matches at the front of the text. -/
structure Token.Unmatched (token : Token) (text : List Char) : Prop where
  /-- One character is cut. -/
  alone : token.text.toList.length = 1
  /-- No pattern of a token matches. -/
  unmatched : ∀ (kind : Kind) piece, piece ∈ kind.language → ¬ piece <+: text

theorem Token.recognized_of_longest {token : Token} {text : List Char}
    (longest : token.kind.Longest token.text.toList text) : token.Recognized text := by
  obtain ⟨_, matched, bound, only⟩ := longest
  rw [String.ofList_toList] at only
  refine ⟨matched, bound, fun kind spelling spelled => ⟨?_, ?_⟩, only⟩
  · rintro rfl
    rw [Kind.language_of_spelling spelled] at matched
    exact String.toList_inj.mp matched
  · rintro text_eq
    have spelling_mem : token.text.toList ∈ kind.language := by
      rw [Kind.language_of_spelling spelled, text_eq]
      rfl
    rcases only kind spelling_mem with same | ⟨rfl, _⟩
    · exact same.symm
    · exact absurd spelled (Option.some_ne_none spelling).symm

/-- At the place of every token nothing can be skipped, and the token is the longest match there, or
one character if there is no match. -/
theorem recognized_or_unmatched_of_mem_tokenize {source : String} {token : Token}
    (member : token ∈ tokenize source) :
    ∃ front text, source.toList = front ++ text ∧ Text.byteLength front = token.span.start ∧
      token.text.toList <+: text ∧ token.text.toList ≠ [] ∧ Trivia.Clean text ∧
      (token.kind ≠ .unrecognized → token.Recognized text) ∧
      (token.kind = .unrecognized → token.Unmatched text) := by
  obtain ⟨front, _, _, behind, source_eq, start_eq, _, reads⟩ :=
    exists_reads_of_mem_tokenize member
  refine ⟨front, _, source_eq, start_eq, List.prefix_append _ _, reads.nonempty, reads.clean, ?_⟩
  cases reads.chosen with
  | found longest =>
      refine ⟨fun _ => Token.recognized_of_longest longest, fun unrecognized => ?_⟩
      have matched := longest.matched
      rw [unrecognized] at matched
      exact absurd matched (Language.notMem_zero _)
  | missing unknown _ alone unmatched =>
      exact ⟨fun known => absurd unknown known, fun _ => ⟨alone, unmatched⟩⟩

/-- A quote that is never closed stands alone, whatever follows it. -/
theorem recognized_or_unmatched_of_open_quote :
    ⟨.unrecognized, "\"", 2, ⟨6, 7⟩⟩ ∈ tokenize "// é\n\"a==b" ∧
      ∃ front text, "// é\n\"a==b".toList = front ++ text ∧ Text.byteLength front = 6 ∧
        "\"".toList <+: text ∧ "\"".toList ≠ [] ∧ Trivia.Clean text ∧
        (Kind.unrecognized ≠ .unrecognized →
          Token.Recognized ⟨.unrecognized, "\"", 2, ⟨6, 7⟩⟩ text) ∧
        (Kind.unrecognized = .unrecognized →
          Token.Unmatched ⟨.unrecognized, "\"", 2, ⟨6, 7⟩⟩ text) := by
  have member : ⟨.unrecognized, "\"", 2, ⟨6, 7⟩⟩ ∈ tokenize "// é\n\"a==b" := by
    have first_cut : (Cursor.start "// é\n\"a==b").next? =
        some (⟨.unrecognized, "\"", 2, ⟨6, 7⟩⟩, ⟨"a==b".toList, ⟨7, 2⟩⟩) := by decide +kernel
    rw [tokenize, Cursor.tokens_eq_cons first_cut]
    exact List.mem_cons_self
  exact ⟨member, recognized_or_unmatched_of_mem_tokenize member⟩

end NovaLint
