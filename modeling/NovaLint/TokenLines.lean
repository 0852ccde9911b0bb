import NovaLint.Token.Cursor

/-!
# Tokens grouped by line

A group keeps an entry for each line that holds a token, in ascending order of the lines.  Within an
entry the tokens stand in the order in which they were pushed.  Pushing a token keeps the entries
ascending, none of them empty, and every token in the entry of its own line.
-/

namespace NovaLint

/-- The tokens of one line. -/
structure TokenLines.Entry where
  /-- Number of the line. -/
  line : Nat
  /-- Its tokens. -/
  tokens : List Token
deriving DecidableEq, Repr

namespace TokenLines.Entry

/-- Add a token to the entry of its line, or make an entry for it where its line belongs. -/
def insert (token : Token) : List Entry → List Entry
  | [] => [⟨token.line, [token]⟩]
  | entry :: later =>
    if token.line < entry.line then ⟨token.line, [token]⟩ :: entry :: later
    else if token.line = entry.line then ⟨entry.line, entry.tokens ++ [token]⟩ :: later
    else entry :: insert token later

theorem line_of_mem_insert {token : Token} {entries : List Entry} {entry : Entry}
    (member : entry ∈ insert token entries) :
    entry.line = token.line ∨ ∃ old ∈ entries, old.line = entry.line := by
  induction entries with
  | nil => simp_all [insert]
  | cons first later ih =>
      unfold insert at member
      grind

/-- The lines of the entries ascend. -/
def Ascending (entries : List Entry) : Prop :=
  entries.Pairwise fun earlier later => earlier.line < later.line

/-- No entry is empty, and each holds tokens of its own line only. -/
def Owned (entries : List Entry) : Prop :=
  ∀ entry ∈ entries, entry.tokens ≠ [] ∧ ∀ token ∈ entry.tokens, token.line = entry.line

theorem Ascending.insert {entries : List Entry} (ascending : Ascending entries) (token : Token) :
    Ascending (insert token entries) := by
  induction entries with
  | nil => simp [Entry.insert, Ascending]
  | cons first later ih =>
      obtain ⟨first_lt, later_ascending⟩ := List.pairwise_cons.mp ascending
      unfold Entry.insert
      split
      · next before =>
          refine List.pairwise_cons.mpr ⟨?_, ascending⟩
          intro entry member
          rcases List.mem_cons.mp member with rfl | member
          · exact before
          · exact Nat.lt_trans before (first_lt entry member)
      · split
        · exact List.pairwise_cons.mpr ⟨first_lt, later_ascending⟩
        · refine List.pairwise_cons.mpr ⟨?_, ih later_ascending⟩
          intro entry member
          rcases line_of_mem_insert member with same | ⟨old, old_member, same⟩
          · omega
          · exact same ▸ first_lt old old_member

theorem Owned.insert {entries : List Entry} (owned : Owned entries) (token : Token) :
    Owned (insert token entries) := by
  induction entries with
  | nil => simp [Entry.insert, Owned]
  | cons first later ih =>
      have later_owned : Owned later := fun entry member =>
        owned entry (List.mem_cons_of_mem first member)
      have first_owned := owned first List.mem_cons_self
      unfold Entry.insert
      split
      · intro entry member
        rcases List.mem_cons.mp member with rfl | member
        · simp
        · exact owned entry member
      · split
        · next same =>
            intro entry member
            rcases List.mem_cons.mp member with rfl | member
            · refine ⟨by simp, fun other other_member => ?_⟩
              rcases List.mem_append.mp other_member with old | new
              · exact first_owned.2 other old
              · rw [List.mem_singleton.mp new]
                exact same
            · exact later_owned entry member
        · intro entry member
          rcases List.mem_cons.mp member with rfl | member
          · exact first_owned
          · exact ih later_owned entry member

end TokenLines.Entry

/-- Tokens by line. -/
structure TokenLines where
  /-- The lines that hold a token. -/
  entries : List TokenLines.Entry
  /-- The lines ascend. -/
  ascending : TokenLines.Entry.Ascending entries
  /-- No entry is empty, and each holds tokens of its own line only. -/
  owned : TokenLines.Entry.Owned entries
deriving DecidableEq

namespace TokenLines

/-- The group without tokens. -/
def empty : TokenLines := ⟨[], List.Pairwise.nil, fun _ member => nomatch member⟩

/-- Add a token after the tokens of its line. -/
def push (group : TokenLines) (token : Token) : TokenLines :=
  ⟨Entry.insert token group.entries, group.ascending.insert token, group.owned.insert token⟩

/-- Group a stream of tokens. -/
def ofTokens (tokens : List Token) : TokenLines := tokens.foldl push empty

/-- The tokens of a line, if it holds any. -/
def get? (group : TokenLines) (line : Nat) : Option (List Token) :=
  (group.entries.find? fun entry => entry.line == line).map (·.tokens)

/-- Number of lines that hold a token. -/
def size (group : TokenLines) : Nat := group.entries.length

/-- No line holds a token. -/
def isEmpty (group : TokenLines) : Bool := group.entries.isEmpty

/-- All tokens, line after line. -/
def flatten (group : TokenLines) : List Token := group.entries.flatMap (·.tokens)

end TokenLines
end NovaLint
