import Mathlib.Data.Finset.Sort
import NovaLint.Proofs.Check.Groups
import NovaLint.Proofs.Listing.Export

/-!
# Tokens in the order of their lines

A group of tokens is told by what it holds on each line.  A token that is pushed comes behind the
tokens of its own line and leaves the other lines alone, so a group holds on each line what was
pushed there, in the order in which it came.  Read line after line, the group gives back the tokens
in a stable order; tokens that were cut from a text stand in that order already.
-/

namespace NovaLint

namespace Token

/-- The lines that hold a token, in ascending order. -/
def heldLines (tokens : List Token) : List Nat :=
  (tokens.map (·.line)).toFinset.sort (· ≤ ·)

/-- The tokens in the order of their lines.  Those of one line keep their order. -/
def byLine (tokens : List Token) : List Token :=
  tokens.mergeSort fun earlier later => earlier.line ≤ later.line

variable {tokens others : List Token}

theorem onLine_cons (token : Token) (tokens : List Token) (number : Nat) :
    onLine (token :: tokens) number =
      if token.line = number then token :: onLine tokens number else onLine tokens number := by
  simp only [onLine, List.filter_cons, beq_iff_eq]

theorem onLine_eq_nil_iff {number : Nat} :
    onLine tokens number = [] ↔ ∀ token ∈ tokens, token.line ≠ number := by
  simp [onLine]

theorem mem_heldLines_iff {number : Nat} :
    number ∈ heldLines tokens ↔ onLine tokens number ≠ [] := by
  rw [heldLines, Finset.mem_sort, List.mem_toFinset, List.mem_map, ne_eq, onLine_eq_nil_iff]
  push Not
  rfl

/-- Which lines are held is told by what stands on each line. -/
theorem heldLines_congr (same : ∀ number, onLine tokens number = onLine others number) :
    heldLines tokens = heldLines others := by
  have same_lines : (tokens.map (·.line)).toFinset = (others.map (·.line)).toFinset := by
    ext number
    have held : number ∈ heldLines tokens ↔ number ∈ heldLines others := by
      rw [mem_heldLines_iff, mem_heldLines_iff, same]
    simpa only [heldLines, Finset.mem_sort] using held
  rw [heldLines, same_lines, heldLines]

theorem byLine_perm (tokens : List Token) : (byLine tokens).Perm tokens :=
  List.mergeSort_perm tokens _

theorem linesAscend_byLine (tokens : List Token) : LinesAscend (byLine tokens) := by
  have sorted : (byLine tokens).Pairwise fun earlier later =>
      decide (earlier.line ≤ later.line) = true :=
    List.pairwise_mergeSort (fun a b c => by simpa using Nat.le_trans)
      (fun a b => by simpa using Nat.le_total a.line b.line) tokens
  exact sorted.imp of_decide_eq_true

theorem onLine_byLine (tokens : List Token) (number : Nat) :
    onLine (byLine tokens) number = onLine tokens number := by
  have kept : (onLine tokens number).Sublist (byLine tokens) := by
    refine List.sublist_mergeSort (fun a b c => by simpa using Nat.le_trans)
      (fun a b => by simpa using Nat.le_total a.line b.line) ?_ List.filter_sublist
    refine List.pairwise_of_forall_mem_list fun earlier earlier_mem later later_mem => ?_
    rw [beq_iff_eq.mp (List.mem_filter.mp earlier_mem).2,
      beq_iff_eq.mp (List.mem_filter.mp later_mem).2]
    exact decide_eq_true le_rfl
  have within : (onLine tokens number).Sublist (onLine (byLine tokens) number) := by
    have filtered := kept.filter (·.line == number)
    simpa only [onLine, List.filter_filter, Bool.and_self] using filtered
  have length_eq := ((byLine_perm tokens).filter (·.line == number)).length_eq
  exact (within.eq_of_length length_eq.symm).symm

/-- Tokens in the order of their lines are told by what stands on each line. -/
theorem eq_of_onLine_eq (ascend : LinesAscend tokens) (ascend' : LinesAscend others)
    (same : ∀ number, onLine tokens number = onLine others number) : tokens = others := by
  induction tokens generalizing others with
  | nil =>
      cases others with
      | nil => rfl
      | cons other others =>
          have nothing := same other.line
          rw [onLine_cons, if_pos rfl] at nothing
          cases nothing
  | cons token tokens ih =>
      obtain ⟨token_le, ascend_tokens⟩ := List.pairwise_cons.mp ascend
      have here := same token.line
      rw [onLine_cons, if_pos rfl] at here
      cases others with
      | nil => cases here
      | cons other others =>
          obtain ⟨other_le, ascend_others⟩ := List.pairwise_cons.mp ascend'
          -- Each of the two first tokens occurs on the other side, behind the first one there.
          have token_mem : token ∈ other :: others :=
            List.mem_of_mem_filter (here ▸ List.mem_cons_self)
          have other_mem : other ∈ token :: tokens := by
            have there := same other.line
            rw [onLine_cons other, if_pos rfl] at there
            exact List.mem_of_mem_filter (there ▸ List.mem_cons_self)
          have line_eq : token.line = other.line := by
            refine Nat.le_antisymm ?_ ?_
            · rcases List.mem_cons.mp other_mem with rfl | later
              · exact le_rfl
              · exact token_le other later
            · rcases List.mem_cons.mp token_mem with rfl | later
              · exact le_rfl
              · exact other_le token later
          rw [onLine_cons, if_pos line_eq.symm] at here
          obtain ⟨rfl, _⟩ := List.cons.inj here
          rw [ih ascend_tokens ascend_others fun number => ?_]
          have same_here := same number
          rw [onLine_cons, onLine_cons] at same_here
          split at same_here
          · exact (List.cons.inj same_here).2
          · exact same_here

end Token

namespace TokenLines

namespace Entry

variable {entries : List Entry}

theorem onLine_tokens (owned : Owned entries) {entry : Entry} (member : entry ∈ entries) :
    Token.onLine entry.tokens entry.line = entry.tokens :=
  List.filter_eq_self.mpr fun token held => beq_iff_eq.mpr ((owned entry member).2 token held)

theorem onLine_flatMap_eq_nil (owned : Owned entries) {number : Nat}
    (elsewhere : ∀ entry ∈ entries, entry.line ≠ number) :
    Token.onLine (entries.flatMap (·.tokens)) number = [] := by
  rw [Token.onLine_eq_nil_iff]
  intro token member
  obtain ⟨entry, entry_mem, held⟩ := List.mem_flatMap.mp member
  rw [(owned entry entry_mem).2 token held]
  exact elsewhere entry entry_mem

/-- A token of a line on which the entries hold nothing may stand before or behind them. -/
theorem onLine_singleton_append_comm (owned : Owned entries) {token : Token}
    (apart : ∀ entry ∈ entries, entry.line ≠ token.line) (number : Nat) :
    Token.onLine [token] number ++ Token.onLine (entries.flatMap (·.tokens)) number =
      Token.onLine (entries.flatMap (·.tokens)) number ++ Token.onLine [token] number := by
  by_cases here : token.line = number
  · rw [onLine_flatMap_eq_nil owned (here ▸ apart), List.append_nil, List.nil_append]
  · rw [Token.onLine_cons, if_neg here]
    exact (List.append_nil _).symm

/-- A token that is inserted comes behind all tokens of its line, and nothing else moves. -/
theorem onLine_insert (ascending : Ascending entries) (owned : Owned entries) (token : Token)
    (number : Nat) :
    Token.onLine ((insert token entries).flatMap (·.tokens)) number =
      Token.onLine (entries.flatMap (·.tokens)) number ++ Token.onLine [token] number := by
  induction entries with
  | nil => simp [insert, Token.onLine]
  | cons first later ih =>
      obtain ⟨first_lt, later_ascending⟩ := List.pairwise_cons.mp ascending
      have later_owned : Owned later := fun entry member =>
        owned entry (List.mem_cons_of_mem first member)
      unfold insert
      split
      · next before =>
          have apart : ∀ entry ∈ first :: later, entry.line ≠ token.line := by
            refine List.forall_mem_cons.mpr ⟨before.ne', fun entry member => ?_⟩
            exact (before.trans (first_lt entry member)).ne'
          rw [List.flatMap_cons, Token.onLine_append]
          exact onLine_singleton_append_comm owned apart number
      · split
        · next same =>
            have apart : ∀ entry ∈ later, entry.line ≠ token.line := fun entry member =>
              same ▸ (first_lt entry member).ne'
            simp only [List.flatMap_cons, Token.onLine_append, List.append_assoc,
              onLine_singleton_append_comm later_owned apart number]
        · rw [List.flatMap_cons, Token.onLine_append, ih later_ascending later_owned,
            List.flatMap_cons, Token.onLine_append, List.append_assoc]

end Entry

variable (group : TokenLines)

theorem onLine_flatten_of_mem {entry : Entry} (member : entry ∈ group.entries) :
    Token.onLine group.flatten entry.line = entry.tokens := by
  obtain ⟨front, back, split⟩ := List.append_of_mem member
  have ascending := group.ascending
  have owned := group.owned
  rw [split] at ascending owned
  obtain ⟨-, behind, before⟩ := List.pairwise_append.mp ascending
  have front_owned : Entry.Owned front := fun other other_mem =>
    owned other (List.mem_append_left _ other_mem)
  have back_owned : Entry.Owned back := fun other other_mem =>
    owned other (List.mem_append_right _ (List.mem_cons_of_mem entry other_mem))
  have front_nil := Entry.onLine_flatMap_eq_nil front_owned fun other other_mem =>
    (before other other_mem entry List.mem_cons_self).ne
  have back_nil := Entry.onLine_flatMap_eq_nil back_owned fun other other_mem =>
    ((List.pairwise_cons.mp behind).1 other other_mem).ne'
  rw [flatten, split, List.flatMap_append, List.flatMap_cons, Token.onLine_append,
    Token.onLine_append, front_nil, back_nil, List.nil_append, List.append_nil]
  exact Entry.onLine_tokens group.owned member

theorem mem_lines_iff {number : Nat} :
    number ∈ group.entries.map (·.line) ↔ Token.onLine group.flatten number ≠ [] := by
  constructor
  · intro member
    obtain ⟨entry, entry_mem, rfl⟩ := List.mem_map.mp member
    rw [group.onLine_flatten_of_mem entry_mem]
    exact (group.owned entry entry_mem).1
  · intro held
    by_contra absent
    refine held (Entry.onLine_flatMap_eq_nil group.owned fun entry entry_mem same => absent ?_)
    exact List.mem_map.mpr ⟨entry, entry_mem, same⟩

theorem lines_eq_heldLines : group.entries.map (·.line) = Token.heldLines group.flatten := by
  have ascending : (group.entries.map (·.line)).Pairwise (· < ·) :=
    List.pairwise_map.mpr group.ascending
  have same_lines : (group.flatten.map (·.line)).toFinset =
      (group.entries.map (·.line)).toFinset := by
    ext number
    rw [List.mem_toFinset, List.mem_toFinset, group.mem_lines_iff, ← Token.mem_heldLines_iff,
      Token.heldLines, Finset.mem_sort, List.mem_toFinset]
  rw [Token.heldLines, same_lines]
  exact ((List.toFinset_sort _ (ascending.imp Nat.ne_of_lt)).mpr (ascending.imp Nat.le_of_lt)).symm

/-- A group is told by what it holds on each line. -/
theorem entries_eq_onLine :
    group.entries = (Token.heldLines group.flatten).map fun number =>
      ⟨number, Token.onLine group.flatten number⟩ := by
  rw [← group.lines_eq_heldLines, List.map_map]
  conv_lhs => rw [← List.map_id group.entries]
  refine List.map_congr_left fun entry member => ?_
  rw [Function.comp_apply, group.onLine_flatten_of_mem member]
  rfl

theorem get?_eq_onLine (number : Nat) :
    group.get? number =
      if Token.onLine group.flatten number = [] then none
      else some (Token.onLine group.flatten number) := by
  rw [get?]
  cases found : group.entries.find? (·.line == number) with
  | none =>
      have absent : number ∉ group.entries.map (·.line) := by
        simpa using found
      rw [if_pos (not_not.mp (mt group.mem_lines_iff.mpr absent)), Option.map_none]
  | some entry =>
      have member := List.mem_of_find?_eq_some found
      have same : entry.line = number := by simpa using List.find?_some found
      rw [← same, group.onLine_flatten_of_mem member, if_neg (group.owned entry member).1,
        Option.map_some]

theorem linesAscend_flatten : LinesAscend group.flatten := by
  refine List.pairwise_flatMap.mpr ⟨fun entry member => ?_, ?_⟩
  · refine List.pairwise_of_forall_mem_list fun earlier earlier_mem later later_mem => ?_
    rw [(group.owned entry member).2 earlier earlier_mem,
      (group.owned entry member).2 later later_mem]
  · refine group.ascending.imp_of_mem fun {entry other} entry_mem other_mem before => ?_
    intro earlier earlier_mem later later_mem
    rw [(group.owned entry entry_mem).2 earlier earlier_mem,
      (group.owned other other_mem).2 later later_mem]
    exact before.le

variable {group}

theorem eq_of_onLine_eq {other : TokenLines}
    (same : ∀ number, Token.onLine group.flatten number = Token.onLine other.flatten number) :
    group = other := by
  have entries_eq : group.entries = other.entries := by
    rw [group.entries_eq_onLine, other.entries_eq_onLine, Token.heldLines_congr same]
    exact List.map_congr_left fun number _ => by rw [same number]
  obtain ⟨_, _, _⟩ := group
  obtain ⟨_, _, _⟩ := other
  simpa using entries_eq

theorem onLine_flatten_push (group : TokenLines) (token : Token) (number : Nat) :
    Token.onLine (group.push token).flatten number =
      Token.onLine (group.flatten ++ [token]) number := by
  rw [Token.onLine_append]
  exact Entry.onLine_insert group.ascending group.owned token number

theorem onLine_flatten_foldl_push (group : TokenLines) (tokens : List Token) (number : Nat) :
    Token.onLine (tokens.foldl push group).flatten number =
      Token.onLine (group.flatten ++ tokens) number := by
  induction tokens generalizing group with
  | nil => rw [List.append_nil, List.foldl_nil]
  | cons token later ih =>
      rw [List.foldl_cons, ih, Token.onLine_append, onLine_flatten_push, ← Token.onLine_append,
        List.append_assoc, List.singleton_append]

theorem onLine_flatten_ofTokens (tokens : List Token) (number : Nat) :
    Token.onLine (ofTokens tokens).flatten number = Token.onLine tokens number :=
  onLine_flatten_foldl_push empty tokens number

/-- A group holds some tokens that arrived one after the other. -/
structure Holds (group : TokenLines) (arrived : List Token) : Prop where
  /-- A line is found with its tokens in the order in which they arrived, if there are any. -/
  get?_eq : ∀ number, group.get? number =
    if Token.onLine arrived number = [] then none else some (Token.onLine arrived number)
  /-- The entries are those of the lines that hold a token, each once and in ascending order. -/
  entries_eq : group.entries = (Token.heldLines arrived).map fun number =>
    ⟨number, Token.onLine arrived number⟩
  /-- There are as many entries as lines. -/
  size_eq : group.size = (arrived.map (·.line)).toFinset.card
  /-- Line after line, the tokens come in their stable order. -/
  flatten_eq : group.flatten = Token.byLine arrived
  /-- No token is lost, and none is doubled. -/
  flatten_perm : group.flatten.Perm arrived
  /-- Only tokens in the order of their lines come as they arrived. -/
  flatten_eq_iff : group.flatten = arrived ↔ LinesAscend arrived
  /-- Grouping the tokens again gives the same group. -/
  regroup : ofTokens group.flatten = group

/-- What a group holds on each line tells all that is asked of it. -/
theorem holds_of_onLine_eq {arrived : List Token}
    (same : ∀ number, Token.onLine group.flatten number = Token.onLine arrived number) :
    group.Holds arrived := by
  have flatten_eq : group.flatten = Token.byLine arrived :=
    Token.eq_of_onLine_eq group.linesAscend_flatten (Token.linesAscend_byLine arrived)
      fun number => (same number).trans (Token.onLine_byLine arrived number).symm
  have entries_eq : group.entries = (Token.heldLines arrived).map fun number =>
      ⟨number, Token.onLine arrived number⟩ := by
    rw [group.entries_eq_onLine, Token.heldLines_congr same]
    exact List.map_congr_left fun number _ => by rw [same number]
  constructor
  case get?_eq =>
    intro number
    rw [group.get?_eq_onLine, same]
  case entries_eq => exact entries_eq
  case size_eq => rw [size, entries_eq, List.length_map, Token.heldLines, Finset.length_sort]
  case flatten_eq => exact flatten_eq
  case flatten_perm => exact flatten_eq ▸ Token.byLine_perm arrived
  case flatten_eq_iff =>
    refine ⟨fun unmoved => unmoved ▸ group.linesAscend_flatten, fun ascend => ?_⟩
    exact Token.eq_of_onLine_eq group.linesAscend_flatten ascend same
  case regroup => exact eq_of_onLine_eq (onLine_flatten_ofTokens group.flatten)

/-- A group is the tokens that it held and those that were pushed, in the stable order of their
lines.  The tokens of a text come back as they were cut. -/
theorem holds_pushed (group : TokenLines) (tokens : List Token) (source : String) :
    (tokens.foldl push group).Holds (group.flatten ++ tokens) ∧
      (ofTokens tokens).Holds tokens ∧
      (ofTokens (tokenize source)).flatten = tokenize source := by
  refine ⟨holds_of_onLine_eq (onLine_flatten_foldl_push group tokens),
    holds_of_onLine_eq (onLine_flatten_ofTokens tokens), ?_⟩
  have held := holds_of_onLine_eq (onLine_flatten_ofTokens (tokenize source))
  exact held.flatten_eq_iff.mpr (Cursor.pairwise_lines (Cursor.start source))

end TokenLines
end NovaLint
