import NovaLint.Proofs.Check.Codes
import NovaLint.Proofs.Control.Tally

/-!
# Well-nested programs

A program is well nested if every block belongs to the head of a control structure and every block
that is opened is closed.  Such programs are the trees of `Program`; a tree is read by the tally
from its first token to its last.  `Program.after_tokens` says that reading it leaves the stack of
open structures as it was and counts every structure of the tree once, whatever is open around the
program and whatever follows it.
-/

namespace NovaLint

/-- A token of a given kind. -/
abbrev TokenOf (kind : Kind) : Type := { token : Token // token.kind = kind }

/-- The kinds of braces and of the words that take part in control structures. -/
def Kind.structural : List Kind :=
  [leftBrace, rightBrace, ifWord, elseWord, forWord, whileWord, doWord, functionWord]

/-- A token that takes no part in control structures. -/
abbrev PlainToken : Type := { token : Token // token.kind ∉ Kind.structural }

theorem TokenOf.kind_ne {kind other : Kind} (token : TokenOf kind) (different : kind ≠ other) :
    token.val.kind ≠ other := by
  rw [token.property]
  exact different

theorem PlainToken.kind_ne {kind : Kind} (token : PlainToken)
    (structural : kind ∈ Kind.structural) : token.val.kind ≠ kind :=
  fun same => token.property (same ▸ structural)

/-- What stands before the block of a structure. -/
inductive Head where
  /-- `if` and its header. -/
  | ifHead (word : TokenOf .ifWord) (header : List PlainToken)
  /-- `else if` and its header. -/
  | elseIfHead (first : TokenOf .elseWord) (second : TokenOf .ifWord) (header : List PlainToken)
  /-- `else`, which has no header. -/
  | elseHead (word : TokenOf .elseWord)
  /-- `for` and its header. -/
  | forHead (word : TokenOf .forWord) (header : List PlainToken)
  /-- `while` and its header. -/
  | whileHead (word : TokenOf .whileWord) (header : List PlainToken)
  /-- `function` and its header. -/
  | functionHead (word : TokenOf .functionWord) (header : List PlainToken)

namespace Head

/-- The structure that the head begins. -/
def control : Head → Control
  | ifHead .. => .ifBlock
  | elseIfHead .. => .elseIfBlock
  | elseHead .. => .elseBlock
  | forHead .. => .forBlock
  | whileHead .. => .whileBlock
  | functionHead .. => .functionBlock

/-- The tokens of the head. -/
def tokens : Head → List Token
  | ifHead word header => word.val :: header.map (·.val)
  | elseIfHead first second header => first.val :: second.val :: header.map (·.val)
  | elseHead word => [word.val]
  | forHead word header => word.val :: header.map (·.val)
  | whileHead word header => word.val :: header.map (·.val)
  | functionHead word header => word.val :: header.map (·.val)

theorem control_ne_doBlock (head : Head) : head.control ≠ .doBlock := by
  cases head <;> simp [control]

end Head

/-- A well-nested program. -/
inductive Program where
  /-- Nothing more. -/
  | done
  /-- A token that takes no part in structures, and the rest. -/
  | plain (token : PlainToken) (rest : Program)
  /-- A structure with its block, and the rest. -/
  | block (head : Head) (left : TokenOf .leftBrace) (body : Program) (right : TokenOf .rightBrace)
      (rest : Program)
  /-- `do` with its block, `while` with its header, and the rest. -/
  | doWhile (first : TokenOf .doWord) (left : TokenOf .leftBrace) (body : Program)
      (right : TokenOf .rightBrace) (second : TokenOf .whileWord) (header : List PlainToken)
      (rest : Program)

namespace Program

/-- The tokens of a program. -/
def tokens : Program → List Token
  | done => []
  | plain token rest => token.val :: rest.tokens
  | block head left body right rest =>
    head.tokens ++ left.val :: (body.tokens ++ right.val :: rest.tokens)
  | doWhile first left body right second header rest =>
    first.val :: left.val :: (body.tokens ++
      right.val :: second.val :: (header.map (·.val) ++ rest.tokens))

/-- How many structures of a kind a program has.  The `while` behind a `do` counts as one. -/
def count (control : Control) : Program → Nat
  | done => 0
  | plain _ rest => rest.count control
  | block head _ body _ rest =>
    (if control = head.control then 1 else 0) + body.count control + rest.count control
  | doWhile _ _ body _ _ _ rest =>
    (if control = .doBlock then 1 else 0) + body.count control +
      (if control = .whileBlock then 1 else 0) + rest.count control

/-- How many blocks a program has. -/
def blocks : Program → Nat
  | done => 0
  | plain _ rest => rest.blocks
  | block _ _ body _ rest => 1 + body.blocks + rest.blocks
  | doWhile _ _ body _ _ _ rest => 1 + body.blocks + rest.blocks

end Program

/-! ## Reading a tree -/

namespace Control.Tally

/-- The tally behind some tokens that stand behind another. -/
def after (tally : Tally) (previous? : Option Token) (tokens : List Token) : Tally :=
  tally.run (Site.allAfter previous? tokens)

theorem after_cons (tally : Tally) (previous? : Option Token) (token : Token)
    (rest : List Token) :
    tally.after previous? (token :: rest) =
      (tally.behind ⟨previous?, token, rest⟩).after (some token) rest := rfl

theorem after_plain (tally : Tally) (previous? : Option Token) (token : PlainToken)
    (rest : List Token) :
    tally.after previous? (token.val :: rest) = tally.after (some token.val) rest := by
  have plain := token.property
  simp only [Kind.structural, List.mem_cons, List.not_mem_nil, or_false, not_or] at plain
  have nothing : Site.occurrence? ⟨previous?, token.val, rest⟩ tally.lastClosed? = none := by
    unfold Site.occurrence? Site.kind Control.ofKeyword?
    dsimp only
    split
    · simp_all
    · simp_all
    · simp_all
    · split <;> simp_all
  rw [after_cons, behind_of_occurrence?_eq_none tally nothing plain.2.1]

theorem after_leftBrace (tally : Tally) (previous? : Option Token) (left : TokenOf .leftBrace)
    (rest : List Token) :
    tally.after previous? (left.val :: rest) = tally.after (some left.val) rest := by
  have not_closing : left.val.kind ≠ .rightBrace := left.kind_ne (by decide)
  have nothing : Site.occurrence? ⟨previous?, left.val, rest⟩ tally.lastClosed? = none := by
    simp only [Site.occurrence?, Site.kind, left.property]
    rfl
  rw [after_cons, behind_of_occurrence?_eq_none tally nothing not_closing]

theorem after_rightBrace (tally : Tally) (previous? : Option Token) (right : TokenOf .rightBrace)
    (rest : List Token) :
    tally.after previous? (right.val :: rest) = tally.leave.after (some right.val) rest := by
  rw [after_cons, behind_of_rightBrace tally]
  exact right.property

theorem after_of_opens (tally : Tally) {previous? : Option Token} {token : Token}
    {rest : List Token} {control : Control}
    (occurs : Site.occurrence? ⟨previous?, token, rest⟩ tally.lastClosed? = some (.opens control)) :
    tally.after previous? (token :: rest) =
      (tally.enter control token.line).after (some token) rest := by
  rw [after_cons, behind_of_opens tally occurs]

/-- No `else` and no block of a `do` stands right before a place. -/
structure Settled (tally : Tally) (previous? : Option Token) : Prop where
  /-- An `if` here is no part of an `else if`. -/
  apart : ∀ token ∈ previous?, token.kind ≠ .elseWord
  /-- A `while` here does not belong to a `do`. -/
  fresh : ∀ token ∈ previous?, token.kind = .rightBrace → tally.lastClosed? ≠ some .doBlock

theorem settled_start : empty.Settled none := by
  constructor <;> rintro _ ⟨⟩

theorem settled_behind (tally : Tally) {token : Token} (not_else : token.kind ≠ .elseWord)
    (not_closing : token.kind ≠ .rightBrace) : tally.Settled (some token) := by
  constructor
  · rintro _ ⟨⟩
    exact not_else
  · rintro _ ⟨⟩ closing
    exact absurd closing not_closing

theorem settled_behind_plain (tally : Tally) (token : PlainToken) :
    tally.Settled (some token.val) :=
  settled_behind tally (token.kind_ne (by decide)) (token.kind_ne (by decide))

theorem settled_behind_leftBrace (tally : Tally) (left : TokenOf .leftBrace) :
    tally.Settled (some left.val) :=
  settled_behind tally (left.kind_ne (by decide)) (left.kind_ne (by decide))

theorem settled_behind_rightBrace {tally : Tally} (right : TokenOf .rightBrace)
    (not_do : tally.lastClosed? ≠ some .doBlock) : tally.Settled (some right.val) := by
  constructor
  · rintro _ ⟨⟩
    exact right.kind_ne (by decide)
  · rintro _ ⟨⟩ _
    exact not_do

theorem not_previousIs_of_apart {previous? : Option Token}
    (apart : ∀ token ∈ previous?, token.kind ≠ .elseWord) (token : Token) (rest : List Token) :
    ¬ Site.previousIs ⟨previous?, token, rest⟩ .elseWord := by
  cases previous? with
  | none => exact Bool.false_ne_true
  | some previous => simpa [Site.previousIs] using apart previous rfl

theorem Settled.not_ends {tally : Tally} {previous? : Option Token}
    (settled : tally.Settled previous?) (token : Token) (rest : List Token) :
    ¬ (Site.previousIs ⟨previous?, token, rest⟩ .rightBrace ∧
      tally.lastClosed? = some .doBlock) := by
  rintro ⟨behind, closed⟩
  cases previous? with
  | none => exact Bool.false_ne_true behind
  | some previous =>
      have closing : previous.kind = .rightBrace := by simpa [Site.previousIs] using behind
      exact settled.fresh previous rfl closing closed

/-- A header changes nothing, and no `else` and no brace stands at its end. -/
theorem after_header (tally : Tally) (previous? : Option Token) (header : List PlainToken)
    (following : List Token) :
    ∃ last?, (tally.Settled previous? → tally.Settled last?) ∧
      tally.after previous? (header.map (·.val) ++ following) = tally.after last? following := by
  induction header generalizing previous? with
  | nil => exact ⟨previous?, id, rfl⟩
  | cons token header ih =>
      obtain ⟨last?, settled_last, rest_eq⟩ := ih (some token.val)
      refine ⟨last?, fun _ => settled_last (tally.settled_behind_plain token), ?_⟩
      rw [List.map_cons, List.cons_append, after_plain, rest_eq]

/-- A header up to the brace that opens its block changes nothing. -/
theorem after_header_leftBrace (tally : Tally) (previous? : Option Token)
    (header : List PlainToken) (left : TokenOf .leftBrace) (following : List Token) :
    tally.after previous? (header.map (·.val) ++ left.val :: following) =
      tally.after (some left.val) following := by
  obtain ⟨last?, _, header_eq⟩ := tally.after_header previous? header (left.val :: following)
  rw [header_eq, after_leftBrace]

/-- A word and its header enter the structure that occurs at the word. -/
theorem after_word_header {tally : Tally} {previous? : Option Token} {word : Token}
    {header : List PlainToken} {left : TokenOf .leftBrace} {following : List Token}
    {control : Control}
    (occurs : Site.occurrence? ⟨previous?, word, header.map (·.val) ++ left.val :: following⟩
      tally.lastClosed? = some (.opens control)) :
    tally.after previous? (word :: header.map (·.val) ++ left.val :: following) =
      (tally.enter control word.line).after (some left.val) following := by
  rw [List.cons_append, after_of_opens tally occurs, after_header_leftBrace]

/-- The head of a structure enters it.  Only a `while` could be taken for the end of a `do`. -/
theorem after_head {tally : Tally} {previous? : Option Token}
    (apart : ∀ token ∈ previous?, token.kind ≠ .elseWord) (head : Head)
    (settled : head.control = .whileBlock → tally.Settled previous?) (left : TokenOf .leftBrace)
    (following : List Token) :
    ∃ line, tally.after previous? (head.tokens ++ left.val :: following) =
      (tally.enter head.control line).after (some left.val) following := by
  cases head with
  | ifHead word header =>
      refine ⟨word.val.line, after_word_header ?_⟩
      simp only [Site.occurrence?, Site.kind, word.property]
      exact if_neg (not_previousIs_of_apart apart _ _)
  | elseIfHead first second header =>
      refine ⟨first.val.line, ?_⟩
      let behind := header.map (·.val) ++ left.val :: following
      have occurs : Site.occurrence? ⟨previous?, first.val, second.val :: behind⟩
          tally.lastClosed? = some (.opens .elseIfBlock) := by
        simp [Site.occurrence?, Site.kind, first.property, Site.nextIs, Site.next?, second.property]
      -- The second word is counted with the first, which stands right before it.
      have nothing : Site.occurrence? ⟨some first.val, second.val, behind⟩
          (tally.enter .elseIfBlock first.val.line).lastClosed? = none := by
        simp [Site.occurrence?, Site.kind, second.property, Site.previousIs, first.property]
      have not_closing : second.val.kind ≠ .rightBrace := second.kind_ne (by decide)
      rw [Head.tokens, List.cons_append, List.cons_append, after_of_opens tally occurs, after_cons,
        behind_of_occurrence?_eq_none _ nothing not_closing, after_header_leftBrace]
      rfl
  | elseHead word =>
      refine ⟨word.val.line, ?_⟩
      have occurs : Site.occurrence? ⟨previous?, word.val, left.val :: following⟩
          tally.lastClosed? = some (.opens .elseBlock) := by
        simp [Site.occurrence?, Site.kind, word.property, Site.nextIs, Site.next?, left.property]
      rw [Head.tokens, List.singleton_append, after_of_opens tally occurs, after_leftBrace]
      rfl
  | forHead word header =>
      refine ⟨word.val.line, after_word_header ?_⟩
      simp only [Site.occurrence?, Site.kind, word.property]
      rfl
  | whileHead word header =>
      refine ⟨word.val.line, after_word_header ?_⟩
      simp only [Site.occurrence?, Site.kind, word.property]
      exact if_neg ((settled rfl).not_ends _ _)
  | functionHead word header =>
      refine ⟨word.val.line, after_word_header ?_⟩
      simp only [Site.occurrence?, Site.kind, word.property]
      rfl

/-- The same structures are open as before, and some more have occurred. -/
structure Grown (before after : Tally) (more : Control → Nat) : Prop where
  /-- The stack is as it was. -/
  openBlocks_eq : after.openBlocks = before.openBlocks
  /-- The occurrences have grown. -/
  occurrences_eq : ∀ control, (after.count control).occurrences =
    (before.count control).occurrences + more control

theorem grown_refl (tally : Tally) : tally.Grown tally fun _ => 0 :=
  ⟨rfl, fun _ => rfl⟩

theorem Grown.trans {first second third : Tally} {more further : Control → Nat}
    (grown : first.Grown second more) (later : second.Grown third further) :
    first.Grown third fun control => more control + further control := by
  constructor
  · rw [later.openBlocks_eq, grown.openBlocks_eq]
  · intro control
    rw [later.occurrences_eq, grown.occurrences_eq, Nat.add_assoc]

theorem grown_mention (tally : Tally) (control : Control) (line : Nat) :
    tally.Grown (tally.mention control line) fun other => if other = control then 1 else 0 :=
  ⟨rfl, fun other => tally.occurrences_mention control other line⟩

/-- A block that leaves the stack as it was is closed by its brace. -/
theorem Grown.block {before inner : Tally} {control : Control} {line : Nat}
    {more : Control → Nat} (grown : (before.enter control line).Grown inner more) :
    before.Grown inner.leave fun other => (if other = control then 1 else 0) + more other := by
  constructor
  · rw [openBlocks_leave, grown.openBlocks_eq, openBlocks_enter, List.tail_cons]
  · intro other
    rw [occurrences_leave, grown.occurrences_eq, occurrences_enter, Nat.add_assoc]

theorem Grown.head?_openBlocks {before inner : Tally} {control : Control} {line : Nat}
    {more : Control → Nat} (grown : (before.enter control line).Grown inner more) :
    inner.openBlocks.head? = some control := by
  rw [grown.openBlocks_eq, openBlocks_enter, List.head?_cons]

/-- The brace behind the block of a head does not close a `do`. -/
theorem Grown.settled_leave {before inner : Tally} {head : Head} {line : Nat}
    {more : Control → Nat} (grown : (before.enter head.control line).Grown inner more)
    (right : TokenOf .rightBrace) : inner.leave.Settled (some right.val) := by
  refine settled_behind_rightBrace right ?_
  rw [lastClosed?_leave, grown.head?_openBlocks]
  exact fun closes_do => head.control_ne_doBlock (Option.some.inj closes_do)

/-- The brace behind the block of a `do` and the `while` behind the brace.  The `while` ends a
structure only if the brace closes a `do`. -/
theorem after_doTail (inner : Tally) (previous? : Option Token) (right : TokenOf .rightBrace)
    (second : TokenOf .whileWord) (header : List PlainToken) (following : List Token) :
    ∃ last? final, final.Settled last? ∧
      inner.after previous? (right.val :: second.val :: (header.map (·.val) ++ following)) =
        final.after last? following ∧
      final =
        if inner.openBlocks.head? = some .doBlock then
          inner.leave.mention .whileBlock second.val.line
        else inner.leave.enter .whileBlock second.val.line := by
  have behind_brace : Site.previousIs ⟨some right.val, second.val,
      header.map (·.val) ++ following⟩ .rightBrace := by
    simp [Site.previousIs, right.property]
  have apart : ∀ tally : Tally, tally.Settled (some second.val) := fun tally =>
    settled_behind tally (second.kind_ne (by decide)) (second.kind_ne (by decide))
  rw [after_rightBrace]
  by_cases closes_do : inner.openBlocks.head? = some .doBlock
  · have ends : Site.occurrence? ⟨some right.val, second.val, header.map (·.val) ++ following⟩
        inner.leave.lastClosed? = some (.ends .whileBlock) := by
      simp only [Site.occurrence?, Site.kind, second.property, lastClosed?_leave]
      exact if_pos ⟨behind_brace, closes_do⟩
    obtain ⟨last?, settled_header, header_eq⟩ :=
      after_header (inner.leave.mention .whileBlock second.val.line) (some second.val) header
        following
    rw [if_pos closes_do, after_cons, behind_of_ends _ ends]
    exact ⟨last?, _, settled_header (apart _), header_eq, rfl⟩
  · have opens : Site.occurrence? ⟨some right.val, second.val, header.map (·.val) ++ following⟩
        inner.leave.lastClosed? = some (.opens .whileBlock) := by
      simp only [Site.occurrence?, Site.kind, second.property, lastClosed?_leave]
      exact if_neg fun both => closes_do both.2
    obtain ⟨last?, settled_header, header_eq⟩ :=
      after_header (inner.leave.enter .whileBlock second.val.line) (some second.val) header
        following
    rw [if_neg closes_do, after_of_opens _ opens]
    exact ⟨last?, _, settled_header (apart _), header_eq, rfl⟩

/-- The word `do` enters its structure wherever it stands. -/
theorem after_doHead (tally : Tally) (previous? : Option Token) (first : TokenOf .doWord)
    (left : TokenOf .leftBrace) (following : List Token) :
    tally.after previous? (first.val :: left.val :: following) =
      (tally.enter .doBlock first.val.line).after (some left.val) following := by
  have enters : Site.occurrence? ⟨previous?, first.val, left.val :: following⟩
      tally.lastClosed? = some (.opens .doBlock) := by
    simp only [Site.occurrence?, Site.kind, first.property]
    rfl
  rw [after_of_opens tally enters, after_leftBrace]

end Control.Tally

namespace Program

open Control.Tally

/-- Reading a well-nested program leaves the stack of open structures as it was and counts every
structure of the program once. -/
theorem after_tokens (program : Program) {tally : Control.Tally} {previous? : Option Token}
    (settled : tally.Settled previous?) (following : List Token) :
    ∃ last? final, final.Settled last? ∧
      tally.after previous? (program.tokens ++ following) = final.after last? following ∧
      tally.Grown final program.count := by
  induction program generalizing tally previous? following with
  | done => exact ⟨previous?, tally, settled, rfl, grown_refl tally⟩
  | plain token rest ih =>
      obtain ⟨last?, final, settled_last, rest_eq, grown⟩ :=
        ih (settled_behind_plain tally token) following
      refine ⟨last?, final, settled_last, ?_, grown⟩
      rw [tokens, List.cons_append, after_plain, rest_eq]
  | block head left body right rest body_ih rest_ih =>
      obtain ⟨line, entered⟩ :=
        after_head settled.apart head (fun _ => settled) left
          (body.tokens ++ right.val :: (rest.tokens ++ following))
      obtain ⟨_, inner, _, body_eq, body_grown⟩ :=
        body_ih (settled_behind_leftBrace (tally.enter head.control line) left)
          (right.val :: (rest.tokens ++ following))
      -- The brace closes the structure of the head, which is no `do`.
      obtain ⟨last?, final, settled_last, rest_eq, rest_grown⟩ :=
        rest_ih (body_grown.settled_leave right) following
      refine ⟨last?, final, settled_last, ?_, body_grown.block.trans rest_grown⟩
      simp only [tokens, List.append_assoc, List.cons_append]
      rw [entered, body_eq, after_rightBrace, rest_eq]
  | doWhile first left body right second header rest body_ih rest_ih =>
      obtain ⟨_, inner, _, body_eq, body_grown⟩ :=
        body_ih (settled_behind_leftBrace (tally.enter .doBlock first.val.line) left)
          (right.val :: second.val :: (header.map (·.val) ++ (rest.tokens ++ following)))
      -- The brace closes the `do`, so the `while` right behind it ends that structure.
      obtain ⟨_, ended, settled_ended, tail_eq, ended_eq⟩ :=
        after_doTail inner _ right second header (rest.tokens ++ following)
      rw [if_pos body_grown.head?_openBlocks] at ended_eq
      subst ended_eq
      obtain ⟨last?, final, settled_last, rest_eq, rest_grown⟩ := rest_ih settled_ended following
      refine ⟨last?, final, settled_last, ?_,
        (body_grown.block.trans (grown_mention _ .whileBlock second.val.line)).trans rest_grown⟩
      simp only [tokens, List.append_assoc, List.cons_append]
      rw [after_doHead, body_eq, tail_eq, rest_eq]

/-- Reading a well-nested program from its beginning leaves nothing open. -/
theorem run_tokens (program : Program) :
    Control.Tally.empty.Grown (Control.Tally.run .empty (Site.all program.tokens))
      program.count := by
  obtain ⟨last?, final, _, final_eq, grown⟩ := program.after_tokens settled_start []
  rw [List.append_nil] at final_eq
  have run_eq : Control.Tally.run .empty (Site.all program.tokens) = final := final_eq
  rw [run_eq]
  exact grown

section Braces

variable {counted : Kind → Bool}
  (braces : ∀ kind, counted kind → kind = .leftBrace ∨ kind = .rightBrace)

include braces

theorem countP_eq_zero {tokens : List Token} (not_left : ∀ token ∈ tokens, token.kind ≠ .leftBrace)
    (not_right : ∀ token ∈ tokens, token.kind ≠ .rightBrace) :
    tokens.countP (fun token => counted token.kind) = 0 := by
  rw [List.countP_eq_zero]
  intro token member brace
  rcases braces token.kind brace with left | right
  · exact not_left token member left
  · exact not_right token member right

theorem countP_header (header : List PlainToken) :
    (header.map (·.val)).countP (fun token => counted token.kind) = 0 := by
  refine countP_eq_zero braces ?_ ?_
  · intro token member
    obtain ⟨plain, _, rfl⟩ := List.mem_map.mp member
    exact plain.kind_ne (by decide)
  · intro token member
    obtain ⟨plain, _, rfl⟩ := List.mem_map.mp member
    exact plain.kind_ne (by decide)

theorem countP_word {kind : Kind} (word : TokenOf kind) (not_left : kind ≠ .leftBrace)
    (not_right : kind ≠ .rightBrace) :
    [word.val].countP (fun token => counted token.kind) = 0 := by
  refine countP_eq_zero braces ?_ ?_
  · simpa using word.kind_ne not_left
  · simpa using word.kind_ne not_right

theorem countP_head (head : Head) :
    head.tokens.countP (fun token => counted token.kind) = 0 := by
  cases head with
  | elseIfHead first second header =>
      change ([first.val] ++ ([second.val] ++ header.map (·.val))).countP _ = 0
      rw [List.countP_append, List.countP_append, countP_word braces first (by decide) (by decide),
        countP_word braces second (by decide) (by decide), countP_header braces]
  | elseHead word => exact countP_word braces word (by decide) (by decide)
  | ifHead word header | forHead word header | whileHead word header
  | functionHead word header =>
      change ([word.val] ++ header.map (·.val)).countP _ = 0
      rw [List.countP_append, countP_word braces word (by decide) (by decide), countP_header braces]

/-- Every block brings two braces, and no other token is a brace. -/
theorem countP_tokens (program : Program) :
    program.tokens.countP (fun token => counted token.kind) =
      program.blocks * ((counted .leftBrace).toNat + (counted .rightBrace).toNat) := by
  induction program with
  | done => simp [tokens, blocks]
  | plain token rest ih =>
      have token_eq := countP_header braces [token]
      rw [tokens, blocks, ← ih, ← List.singleton_append, List.countP_append]
      simpa using token_eq
  | block head left body right rest body_ih rest_ih =>
      have head_eq := countP_head braces head
      simp only [tokens, blocks, List.countP_append, List.countP_cons, body_ih, rest_ih, head_eq,
        left.property, right.property, Nat.add_mul]
      cases counted .leftBrace <;> cases counted .rightBrace <;> simp <;> omega
  | doWhile first left body right second header rest body_ih rest_ih =>
      have first_eq := countP_word braces first (by decide) (by decide)
      have second_eq := countP_word braces second (by decide) (by decide)
      have header_eq := countP_header braces header
      rw [List.countP_singleton] at first_eq second_eq
      simp only [tokens, blocks, List.countP_append, List.countP_cons, body_ih, rest_ih, first_eq,
        second_eq, header_eq, left.property, right.property, Nat.add_mul]
      cases counted .leftBrace <;> cases counted .rightBrace <;> simp <;> omega

end Braces

theorem balance_brace (program : Program) :
    Bracket.brace.balance program.tokens = ⟨.brace, program.blocks, program.blocks⟩ := by
  have opening : ∀ kind, (Bracket.openedBy? kind == some .brace) →
      kind = .leftBrace ∨ kind = .rightBrace := by
    intro kind opens
    unfold Bracket.openedBy? at opens
    split at opens <;> simp_all
  have closing : ∀ kind, (Bracket.closedBy? kind == some .brace) →
      kind = .leftBrace ∨ kind = .rightBrace := by
    intro kind closes
    unfold Bracket.closedBy? at closes
    split at closes <;> simp_all
  have opened : program.tokens.countP (fun token => Bracket.openedBy? token.kind == some .brace) =
      program.blocks := (countP_tokens opening program).trans (Nat.mul_one _)
  have closed : program.tokens.countP (fun token => Bracket.closedBy? token.kind == some .brace) =
      program.blocks := (countP_tokens closing program).trans (Nat.mul_one _)
  rw [Bracket.balance, opened, closed]

end Program
end NovaLint
