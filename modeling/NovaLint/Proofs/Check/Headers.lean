import NovaLint.Proofs.Check.Composition
import NovaLint.Proofs.Check.Groups
import NovaLint.Proofs.Token.Tiling

/-!
# Conditions between parentheses

The condition of a structure stands between the parenthesis behind its keyword and the one that
matches it.  The check of a header looks for no match: any closing parenthesis on the line of the
keyword will do, and the separators of a `for` are counted up to the first one.  It still never
complains of a header that is closed on its line, and never misses a separator that is not there.
Where no parenthesis is opened before the first one is closed, it judges just what the match says.
-/

namespace NovaLint

/-- The tokens of a text stand in the order of their lines. -/
theorem linesAscend_tokenize (source : String) : LinesAscend (tokenize source) :=
  Cursor.pairwise_lines (Cursor.start source)

/-- Of tokens that stand on a line or below it, those on the line come first. -/
theorem takeWhile_line_eq_filter {tokens : List Token} {line : Nat} (ascend : LinesAscend tokens)
    (below : ∀ token ∈ tokens, line ≤ token.line) :
    tokens.takeWhile (·.line == line) = tokens.filter (·.line == line) := by
  induction tokens with
  | nil => rfl
  | cons first rest ih =>
      obtain ⟨first_le, ascend⟩ := List.pairwise_cons.mp ascend
      rw [List.takeWhile_cons, List.filter_cons]
      split
      · rw [ih ascend fun token member => below token (List.mem_cons_of_mem first member)]
      · next passed =>
          have first_below := below first List.mem_cons_self
          rw [beq_iff_eq] at passed
          apply (List.filter_eq_nil_iff.mpr ?_).symm
          intro token member
          have token_below := first_le token member
          rw [beq_iff_eq]
          omega

/-- What stands in front of the first closing parenthesis. -/
def beforeClosing (tokens : List Token) : List Token :=
  tokens.takeWhile (·.kind != .rightParen)

/-- Number of separators among some tokens. -/
def separatorCount (tokens : List Token) : Nat := tokens.countP (·.kind == .semicolon)

/-- Behind an opening parenthesis stand some tokens and then the parenthesis that closes it: in
between as many parentheses are opened as are closed, and none is closed before it is opened. -/
structure Matched (behind inner : List Token) (closing : Token) : Prop where
  /-- The tokens and the closing parenthesis stand in front. -/
  front : inner ++ [closing] <+: behind
  /-- A closing parenthesis ends them. -/
  closes : closing.kind = .rightParen
  /-- All that is opened in between is closed there. -/
  balanced : (Bracket.paren.balance inner).closed = (Bracket.paren.balance inner).opened
  /-- Nothing is closed in between that was not opened there. -/
  nested : ∀ part, part <+: inner →
    (Bracket.paren.balance part).closed ≤ (Bracket.paren.balance part).opened

instance (behind inner : List Token) (closing : Token) :
    Decidable (Matched behind inner closing) :=
  decidable_of_iff
    (inner ++ [closing] <+: behind ∧ closing.kind = .rightParen ∧
      (Bracket.paren.balance inner).closed = (Bracket.paren.balance inner).opened ∧
      ∀ part ∈ inner.inits,
        (Bracket.paren.balance part).closed ≤ (Bracket.paren.balance part).opened)
    ⟨fun ⟨front, closes, balanced, nested⟩ =>
        { front, closes, balanced
          nested := fun part within => nested part ((List.mem_inits part inner).mpr within) },
      fun matched =>
        ⟨matched.front, matched.closes, matched.balanced,
          fun part within => matched.nested part ((List.mem_inits part inner).mp within)⟩⟩

namespace Bracket

theorem opened_paren_eq_zero {tokens : List Token}
    (none_opens : ∀ token ∈ tokens, token.kind ≠ .leftParen) :
    (paren.balance tokens).opened = 0 := by
  apply List.countP_eq_zero.mpr
  intro token member
  have other := none_opens token member
  revert other
  cases token.kind <;> simp [openedBy?]

theorem closed_paren_eq_zero {tokens : List Token}
    (none_closes : ∀ token ∈ tokens, token.kind ≠ .rightParen) :
    (paren.balance tokens).closed = 0 := by
  apply List.countP_eq_zero.mpr
  intro token member
  have other := none_closes token member
  revert other
  cases token.kind <;> simp [closedBy?]

theorem balance_concat_rightParen (tokens : List Token) {closing : Token}
    (closes : closing.kind = .rightParen) :
    paren.balance (tokens ++ [closing]) =
      { paren.balance tokens with closed := (paren.balance tokens).closed + 1 } := by
  rw [balance_append]
  simp [Balance.add, balance, closes, openedBy?, closedBy?]

end Bracket

/-- Tokens fall apart at the first closing parenthesis, if there is one. -/
theorem exists_first_closing {tokens : List Token}
    (closes : ∃ token ∈ tokens, token.kind = .rightParen) :
    ∃ closing, beforeClosing tokens ++ [closing] <+: tokens ∧ closing.kind = .rightParen := by
  induction tokens with
  | nil => obtain ⟨_, member, _⟩ := closes; cases member
  | cons first rest ih =>
      rw [beforeClosing, List.takeWhile_cons]
      split
      · next passed =>
          obtain ⟨token, member, closes⟩ := closes
          rcases List.mem_cons.mp member with rfl | later
          · rw [closes] at passed
            cases passed
          · obtain ⟨closing, front, closes⟩ := ih ⟨token, later, closes⟩
            exact ⟨closing, List.cons_prefix_cons.mpr ⟨rfl, front⟩, closes⟩
      · next found =>
          rw [bne_iff_ne, not_not] at found
          exact ⟨first, List.prefix_append [first] rest, found⟩

theorem kind_of_mem_beforeClosing {tokens : List Token} {token : Token}
    (member : token ∈ beforeClosing tokens) : token.kind ≠ .rightParen := by
  have passed := List.mem_takeWhile_imp member
  rwa [bne_iff_ne] at passed

theorem beforeClosing_mono {part tokens : List Token} (front : part <+: tokens) :
    beforeClosing part <+: beforeClosing tokens := by
  obtain ⟨more, rfl⟩ := front
  rw [beforeClosing, beforeClosing, List.takeWhile_append]
  split
  · exact (List.takeWhile_prefix _).trans (List.prefix_append _ _)
  · exact List.prefix_rfl

namespace Matched

variable {behind inner other : List Token} {closing last : Token}

/-- Where no parenthesis is opened before the first one is closed, this one is the match. -/
theorem of_flat (front : inner ++ [closing] <+: behind) (closes : closing.kind = .rightParen)
    (none_opens : ∀ token ∈ inner, token.kind ≠ .leftParen)
    (none_closes : ∀ token ∈ inner, token.kind ≠ .rightParen) : Matched behind inner closing := by
  refine ⟨front, closes, ?_, ?_⟩
  · rw [Bracket.opened_paren_eq_zero none_opens, Bracket.closed_paren_eq_zero none_closes]
  · intro part part_front
    rw [Bracket.closed_paren_eq_zero fun token member => none_closes token (part_front.mem member)]
    exact Nat.zero_le _

/-- Nothing between matching parentheses is the match of the first one. -/
theorem not_prefix (matched : Matched behind inner closing)
    (balanced : (Bracket.paren.balance other).closed = (Bracket.paren.balance other).opened)
    (closes : last.kind = .rightParen) : ¬ other ++ [last] <+: inner := by
  intro part
  have closed_le := matched.nested _ part
  rw [Bracket.balance_concat_rightParen other closes] at closed_le
  dsimp only at closed_le
  omega

/-- A parenthesis has one match only. -/
theorem unique (matched : Matched behind inner closing) (matched' : Matched behind other last) :
    inner = other ∧ closing = last := by
  have same_length : inner.length = other.length := by
    rcases Nat.lt_trichotomy inner.length other.length with shorter | same | longer
    · have part : inner ++ [closing] <+: other :=
        List.prefix_of_prefix_length_le matched.front
          ((List.prefix_append other [last]).trans matched'.front) (by simp; omega)
      exact absurd part (matched'.not_prefix matched.balanced matched.closes)
    · exact same
    · have part : other ++ [last] <+: inner :=
        List.prefix_of_prefix_length_le matched'.front
          ((List.prefix_append inner [closing]).trans matched.front) (by simp; omega)
      exact absurd part (matched.not_prefix matched'.balanced matched'.closes)
  have same : inner ++ [closing] = other ++ [last] := by
    apply List.IsPrefix.eq_of_length
    · apply List.prefix_of_prefix_length_le matched.front matched'.front
      simp [same_length]
    · simp [same_length]
  exact ⟨List.append_inj_left same same_length,
    List.singleton_inj.mp (List.append_inj_right same same_length)⟩

/-- The first closing parenthesis is the match or stands before it. -/
theorem beforeClosing_eq (matched : Matched behind inner closing) :
    beforeClosing behind = beforeClosing inner := by
  obtain ⟨more, rfl⟩ := matched.front
  rw [beforeClosing, beforeClosing, List.append_assoc, List.takeWhile_append]
  split
  · next all_passed =>
      have whole := (List.takeWhile_prefix _).eq_of_length all_passed
      rw [List.singleton_append, List.takeWhile_cons_of_neg (by simp [matched.closes]), whole,
        List.append_nil]
  · rfl

/-- Where no parenthesis is opened before the first one is closed, the match is the first one. -/
theorem beforeClosing_eq_self (matched : Matched behind inner closing)
    (none_opens : ∀ token ∈ beforeClosing inner, token.kind ≠ .leftParen) :
    beforeClosing inner = inner := by
  cases Decidable.em (∃ token ∈ inner, token.kind = .rightParen) with
  | inl closes =>
      obtain ⟨first, part, closes⟩ := exists_first_closing closes
      have closed_le := matched.nested _ part
      rw [Bracket.balance_concat_rightParen _ closes] at closed_le
      dsimp only at closed_le
      rw [Bracket.opened_paren_eq_zero none_opens] at closed_le
      omega
  | inr none_closes =>
      apply List.takeWhile_eq_self_iff.mpr
      intro token member
      rw [bne_iff_ne]
      exact fun closes => none_closes ⟨token, member, closes⟩

end Matched

/-! ## Headers -/

/-- A keyword in a stream that introduces a condition and is directly followed by an opening
parenthesis. -/
structure Header (tokens : List Token) where
  /-- The tokens in front of the keyword. -/
  front : List Token
  /-- The keyword. -/
  keyword : Token
  /-- The opening parenthesis. -/
  opening : Token
  /-- The tokens behind the opening parenthesis. -/
  behind : List Token
  /-- They make up the stream. -/
  tokens_eq : front ++ keyword :: opening :: behind = tokens
  /-- The keyword calls for a condition. -/
  introduces : keyword.kind = .ifWord ∨ keyword.kind = .whileWord ∨ keyword.kind = .forWord
  /-- The parenthesis opens the condition. -/
  opens : opening.kind = .leftParen

namespace Report

/-- What the walk through a program reports at a place. -/
def walkFindingsAt (initial : Char) (tokens : List Token) (place : Nat) : List Finding :=
  (Site.all tokens)[place]?.elim [] (walkAfter initial tokens place).findingsAt

/-- The findings of a class that belongs to the walk are those reported at the places. -/
theorem findingsOf_walkFindingsAt {code : FindingCode} (among : code ∈ Walk.codes) (initial : Char)
    (tokens : List Token) :
    (ofTokens initial tokens).findingsOf code =
      (List.range tokens.length).flatMap fun place =>
        (walkFindingsAt initial tokens place).filter (·.code == code) := by
  rw [findingsOf_walk among]
  apply List.flatMap_congr
  intro place _
  rw [walkFindingsAt]
  cases (Site.all tokens)[place]? <;> rfl

end Report

namespace Header

variable {tokens : List Token}

/-- The header at a place of a stream. -/
def at? (tokens : List Token) (place : Nat) : Option (Header tokens) :=
  match split : tokens.drop place with
  | keyword :: opening :: behind =>
    if shape : (keyword.kind = .ifWord ∨ keyword.kind = .whileWord ∨ keyword.kind = .forWord) ∧
        opening.kind = .leftParen then
      some
        { front := tokens.take place
          keyword, opening, behind
          tokens_eq := split ▸ List.take_append_drop place tokens
          introduces := shape.1
          opens := shape.2 }
    else none
  | _ => none

/-- The place of the keyword. -/
def place (header : Header tokens) : Nat := header.front.length

/-- The keyword and what stands around it. -/
def site (header : Header tokens) : Site :=
  ⟨header.front.getLast?, header.keyword, header.opening :: header.behind⟩

/-- The header is reported to lack a closing parenthesis. -/
def LacksClosing (initial : Char) (header : Header tokens) : Prop :=
  (Cause.missingClosing header.keyword.text).onLine header.keyword.line ∈
    Report.walkFindingsAt initial tokens header.place

/-- The header is reported to lack a separator. -/
def LacksSeparators (initial : Char) (header : Header tokens) : Prop :=
  Cause.missingSeparators.onLine header.keyword.line ∈
    Report.walkFindingsAt initial tokens header.place

instance (initial : Char) (header : Header tokens) : Decidable (header.LacksClosing initial) :=
  inferInstanceAs (Decidable (_ ∈ _))

instance (initial : Char) (header : Header tokens) : Decidable (header.LacksSeparators initial) :=
  inferInstanceAs (Decidable (_ ∈ _))

/-- Some tokens and the parenthesis that matches the opening one stand behind it, the latter on the
line of the keyword. -/
structure ClosesOnLine (header : Header tokens) (inner : List Token) (closing : Token) : Prop where
  /-- The parentheses match. -/
  matched : Matched header.behind inner closing
  /-- The keyword stands on the line of the closing parenthesis. -/
  line_eq : closing.line = header.keyword.line

theorem getElem?_all (header : Header tokens) :
    (Site.all tokens)[header.place]? = some header.site := by
  have split := Site.all_append header.front (header.keyword :: header.opening :: header.behind)
  have front_length : ((Site.all header.front).map
      (·.ahead (header.keyword :: header.opening :: header.behind))).length = header.place := by
    rw [List.length_map, Site.length_all, place]
  rw [header.tokens_eq] at split
  rw [split, List.getElem?_append_right front_length.le, front_length, Nat.sub_self]
  rfl

/-- What is reported for a header in the two classes on headers comes from the check of headers. -/
theorem mem_walkFindingsAt (header : Header tokens) (initial : Char) {finding : Finding} :
    finding ∈ Report.walkFindingsAt initial tokens header.place ↔
      finding ∈ ((Report.walkAfter initial tokens header.place).findingsAt header.site).filter
        (·.code == finding.code) := by
  rw [Report.walkFindingsAt, header.getElem?_all, Option.elim_some, List.mem_filter,
    beq_self_eq_true]
  exact (and_iff_left rfl).symm

theorem lacksClosing_iff (header : Header tokens) (initial : Char) :
    header.LacksClosing initial ↔
      ∀ token ∈ header.site.restOfLine, token.kind ≠ .rightParen := by
  have needs : header.site.needsCondition := by
    rw [Site.needsCondition, Site.kind, site]
    rcases header.introduces with isIf | isWhile | isFor <;> simp [*]
  have opens : header.site.nextIs .leftParen := by
    simp [Site.nextIs, Site.next?, site, header.opens]
  rw [LacksClosing, mem_walkFindingsAt, Walk.filter_findingsAt, Walk.conditionFindings, needs,
    opens]
  simp [Cause.onLine, Cause.code, site]

theorem lacksSeparators_iff (header : Header tokens) (initial : Char) :
    header.LacksSeparators initial ↔
      header.keyword.kind = .forWord ∧ header.site.separators < 2 := by
  rw [LacksSeparators, mem_walkFindingsAt, Walk.filter_findingsAt, Walk.separatorFindings]
  simp only [Cause.onLine, Cause.code, reduceCtorEq, if_false, if_true, List.nil_append]
  split
  · next lacks => exact iff_of_true (List.mem_singleton_self _) lacks
  · next complete => exact iff_of_false List.not_mem_nil complete

theorem restOfLine_front (header : Header tokens) : header.site.restOfLine <+: header.behind :=
  List.takeWhile_prefix _

theorem line_of_mem_restOfLine {header : Header tokens} {token : Token}
    (member : token ∈ header.site.restOfLine) : token.line = header.keyword.line := by
  rw [Site.restOfLine] at member
  have on_line := List.mem_takeWhile_imp member
  rwa [beq_iff_eq] at on_line

section Ascend

variable {header : Header tokens} {inner : List Token} {closing : Token}

theorem restOfLine_eq (ascend : LinesAscend tokens) :
    header.site.restOfLine = header.behind.filter (·.line == header.keyword.line) := by
  rw [← header.tokens_eq] at ascend
  obtain ⟨keyword_le, ascend⟩ := List.pairwise_cons.mp (List.pairwise_append.mp ascend).2.1
  apply takeWhile_line_eq_filter (List.pairwise_cons.mp ascend).2
  intro token member
  exact keyword_le token (List.mem_cons_of_mem header.opening member)

theorem lacksClosing_iff_of_ascend (ascend : LinesAscend tokens) (initial : Char) :
    header.LacksClosing initial ↔
      ∀ token ∈ header.behind, token.line = header.keyword.line → token.kind ≠ .rightParen := by
  rw [lacksClosing_iff, restOfLine_eq ascend]
  simp only [List.mem_filter, beq_iff_eq, and_imp]

/-- Up to a parenthesis on the line of the keyword all stands on this line. -/
theorem front_restOfLine (ascend : LinesAscend tokens)
    (front : inner ++ [closing] <+: header.behind)
    (line_eq : closing.line = header.keyword.line) :
    inner ++ [closing] <+: header.site.restOfLine := by
  obtain ⟨more, behind_eq⟩ := front
  have kept : (inner ++ [closing]).filter (·.line == header.keyword.line) = inner ++ [closing] := by
    rw [← header.tokens_eq, ← behind_eq] at ascend
    obtain ⟨keyword_le, ascend⟩ := List.pairwise_cons.mp (List.pairwise_append.mp ascend).2.1
    obtain ⟨-, ascend⟩ := List.pairwise_cons.mp ascend
    apply List.filter_eq_self.mpr
    intro token member
    have keyword_le := keyword_le token
      (List.mem_cons_of_mem header.opening (List.mem_append_left more member))
    have le_closing : token.line ≤ closing.line := by
      rcases List.mem_append.mp member with before | last
      · exact (List.pairwise_append.mp (List.pairwise_append.mp ascend).1).2.2 token before closing
          (List.mem_singleton_self closing)
      · rw [List.mem_singleton.mp last]
    rw [beq_iff_eq]
    omega
  rw [restOfLine_eq ascend, ← behind_eq, List.filter_append, kept]
  exact List.prefix_append _ _

namespace ClosesOnLine

theorem matched_restOfLine (closes : header.ClosesOnLine inner closing)
    (ascend : LinesAscend tokens) : Matched header.site.restOfLine inner closing :=
  { closes.matched with front := front_restOfLine ascend closes.matched.front closes.line_eq }

theorem not_lacksClosing (closes : header.ClosesOnLine inner closing) (initial : Char)
    (ascend : LinesAscend tokens) : ¬ header.LacksClosing initial := by
  rw [lacksClosing_iff]
  intro none_closes
  apply none_closes closing
  · exact (closes.matched_restOfLine ascend).front.mem (by simp)
  · exact closes.matched.closes

/-- The separators up to the first closing parenthesis are counted. -/
theorem separators_eq (closes : header.ClosesOnLine inner closing) (ascend : LinesAscend tokens) :
    header.site.separators = separatorCount (beforeClosing inner) := by
  rw [← (closes.matched_restOfLine ascend).beforeClosing_eq]
  rfl

end ClosesOnLine

end Ascend

/-- No parenthesis is opened on the line of the keyword before the first one is closed there. -/
def Flat (header : Header tokens) : Prop :=
  ∀ token ∈ beforeClosing header.behind, token.line = header.keyword.line → token.kind ≠ .leftParen

/-- A header lacks a closing parenthesis if its match is not on the line of the keyword. -/
def ClosingByMatch (initial : Char) (header : Header tokens) : Prop :=
  header.LacksClosing initial ↔ ¬ ∃ inner closing, header.ClosesOnLine inner closing

/-- The header of a `for` that is closed on its line lacks a separator if fewer than two stand
between its matching parentheses. -/
def SeparatorsByMatch (initial : Char) (header : Header tokens) : Prop :=
  header.keyword.kind = .forWord → ∀ inner closing, header.ClosesOnLine inner closing →
    (header.LacksSeparators initial ↔ separatorCount inner < 2)

/-- How a header is judged. -/
structure Judged (initial : Char) (header : Header tokens) : Prop where
  /-- It lacks a closing parenthesis if there is none behind it on the line of the keyword. -/
  closing : header.LacksClosing initial ↔
    ∀ token ∈ header.behind, token.line = header.keyword.line → token.kind ≠ .rightParen
  /-- It does not lack one if the match is on the line. -/
  closed : ∀ inner closing, header.ClosesOnLine inner closing → ¬ header.LacksClosing initial
  /-- A `for` that is closed on its line lacks a separator if there are fewer than two. -/
  too_few : header.keyword.kind = .forWord → ∀ inner closing, header.ClosesOnLine inner closing →
    separatorCount inner < 2 → header.LacksSeparators initial
  /-- It does not lack one if two stand before the first closing parenthesis. -/
  enough : ∀ inner closing, header.ClosesOnLine inner closing →
    2 ≤ separatorCount (beforeClosing inner) → ¬ header.LacksSeparators initial
  /-- Where no parenthesis is opened before the first one is closed, the match decides. -/
  by_match : header.Flat → header.ClosingByMatch initial ∧ header.SeparatorsByMatch initial

section Ascend

variable {header : Header tokens}

theorem Flat.none_opens (flat : header.Flat) :
    ∀ token ∈ beforeClosing header.site.restOfLine, token.kind ≠ .leftParen := by
  intro token member
  apply flat token
  · exact (beforeClosing_mono header.restOfLine_front).mem member
  · exact line_of_mem_restOfLine ((List.takeWhile_prefix _).mem member)

theorem closingByMatch_of_flat (flat : header.Flat) (ascend : LinesAscend tokens)
    (initial : Char) : header.ClosingByMatch initial := by
  constructor
  · rintro lacks ⟨inner, closing, closes⟩
    exact closes.not_lacksClosing initial ascend lacks
  · intro not_closed
    rw [lacksClosing_iff]
    intro token member closes
    apply not_closed
    obtain ⟨first, front, closes⟩ := exists_first_closing ⟨token, member, closes⟩
    refine ⟨beforeClosing header.site.restOfLine, first, ?_, ?_⟩
    · apply Matched.of_flat (front.trans header.restOfLine_front) closes flat.none_opens
      exact fun token member => kind_of_mem_beforeClosing member
    · exact line_of_mem_restOfLine (front.mem (by simp))

theorem separatorsByMatch_of_flat (flat : header.Flat) (ascend : LinesAscend tokens)
    (initial : Char) : header.SeparatorsByMatch initial := by
  intro isFor inner closing closes
  have none_opens : ∀ token ∈ beforeClosing inner, token.kind ≠ .leftParen := by
    rw [← (closes.matched_restOfLine ascend).beforeClosing_eq]
    exact flat.none_opens
  rw [lacksSeparators_iff, closes.separators_eq ascend,
    closes.matched.beforeClosing_eq_self none_opens]
  exact and_iff_right isFor

/-- Every header is judged, whatever the order of parentheses, separators and ends of lines. -/
theorem judged (header : Header tokens) (ascend : LinesAscend tokens) (initial : Char) :
    header.Judged initial where
  closing := lacksClosing_iff_of_ascend ascend initial
  closed := fun _ _ closes => closes.not_lacksClosing initial ascend
  too_few := by
    intro isFor inner closing closes few
    rw [lacksSeparators_iff, closes.separators_eq ascend]
    have fewer : separatorCount (beforeClosing inner) ≤ separatorCount inner :=
      (List.takeWhile_sublist _).countP_le
    exact ⟨isFor, by omega⟩
  enough := by
    intro inner closing closes enough
    rw [lacksSeparators_iff, closes.separators_eq ascend]
    omega
  by_match := fun flat =>
    ⟨closingByMatch_of_flat flat ascend initial, separatorsByMatch_of_flat flat ascend initial⟩

end Ascend

end Header

namespace Report

/-- The two classes on headers are reported place by place, and at the place of a header they say
how the header is judged. -/
theorem headers_judged (initial : Char) (source : String) :
    (∀ code ∈ [FindingCode.incompleteControlStructure, .incompleteForStructure],
      (ofTokens initial (tokenize source)).findingsOf code =
        (List.range (tokenize source).length).flatMap fun place =>
          (walkFindingsAt initial (tokenize source) place).filter (·.code == code)) ∧
    ∀ header : Header (tokenize source), header.Judged initial := by
  constructor
  · intro code among
    apply findingsOf_walkFindingsAt
    rcases List.mem_pair.mp among with rfl | rfl <;> decide
  · intro header
    exact header.judged (linesAscend_tokenize source) initial

/-- The header of a `for` with parentheses in its last part. -/
def parenthesizedStep : String := "for (_i = 0; _i < 10; _i = (_i + 1)) \x7b\n\x7d"

/-- The header that this text begins with. -/
def parenthesizedStepHeader : Header (tokenize parenthesizedStep) :=
  (Header.at? (tokenize parenthesizedStep) 0).get (by decide +kernel)

theorem headers_judged_parenthesized_step :
    (∃ inner closing, parenthesizedStepHeader.ClosesOnLine inner closing) ∧
      ¬ parenthesizedStepHeader.LacksClosing '_' ∧
      ¬ parenthesizedStepHeader.LacksSeparators '_' := by
  obtain ⟨matched, line_eq, enough⟩ :
      Matched parenthesizedStepHeader.behind (parenthesizedStepHeader.behind.take 15)
          parenthesizedStepHeader.behind[15]! ∧
        parenthesizedStepHeader.behind[15]!.line = parenthesizedStepHeader.keyword.line ∧
        2 ≤ separatorCount (beforeClosing (parenthesizedStepHeader.behind.take 15)) := by
    decide +kernel
  have closes : parenthesizedStepHeader.ClosesOnLine _ _ := ⟨matched, line_eq⟩
  have judged := (headers_judged '_' parenthesizedStep).2 parenthesizedStepHeader
  exact ⟨⟨_, _, closes⟩, judged.closed _ _ closes, judged.enough _ _ closes enough⟩

/-- A condition that is closed on the next line only, though a parenthesis is closed on its own
line, and a `for` whose second separator stands behind a closing parenthesis. -/
def nestedConditions : String :=
  "int _a = 1;\nif ((_a) > 0\n) \x7b\n\x7d\n" ++
    "for (_a = 0; _a < (_a + 1); _a = _a + 1) \x7b\n\x7d"

/-- The header of the `if`. -/
def brokenHeader : Header (tokenize nestedConditions) :=
  (Header.at? (tokenize nestedConditions) 5).get (by decide +kernel)

/-- The header of the `for`. -/
def nestedHeader : Header (tokenize nestedConditions) :=
  (Header.at? (tokenize nestedConditions) 15).get (by decide +kernel)

/-- No match is looked for: a closing parenthesis on the line hides that the condition is not closed
there, and separators behind it are not seen. -/
theorem not_judged_by_match :
    (¬ ∀ header : Header (tokenize nestedConditions), header.ClosingByMatch '_') ∧
      ¬ ∀ header : Header (tokenize nestedConditions), header.SeparatorsByMatch '_' := by
  constructor
  · intro byMatch
    obtain ⟨complete, matched, line_ne⟩ :
        ¬ brokenHeader.LacksClosing '_' ∧
          Matched brokenHeader.behind (brokenHeader.behind.take 5) brokenHeader.behind[5]! ∧
          brokenHeader.behind[5]!.line ≠ brokenHeader.keyword.line := by
      decide +kernel
    apply complete
    apply (byMatch brokenHeader).mpr
    rintro ⟨inner, closing, closes⟩
    apply line_ne
    rw [← (closes.matched.unique matched).2]
    exact closes.line_eq
  · intro byMatch
    obtain ⟨isFor, lacks, matched, line_eq, enough⟩ :
        nestedHeader.keyword.kind = .forWord ∧ nestedHeader.LacksSeparators '_' ∧
          Matched nestedHeader.behind (nestedHeader.behind.take 17) nestedHeader.behind[17]! ∧
          nestedHeader.behind[17]!.line = nestedHeader.keyword.line ∧
          ¬ separatorCount (nestedHeader.behind.take 17) < 2 := by
      decide +kernel
    have closes : nestedHeader.ClosesOnLine _ _ := ⟨matched, line_eq⟩
    exact enough ((byMatch nestedHeader isFor _ _ closes).mp lacks)

end Report
end NovaLint
