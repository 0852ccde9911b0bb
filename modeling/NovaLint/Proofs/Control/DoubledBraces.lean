import NovaLint.Proofs.Control.Nesting
import NovaLint.Proofs.Control.Occurrences

/-!
# Doubled braces

The contents of a body may be put between a second pair of braces.  These braces open no structure,
yet the second closing brace takes one from the stack of open structures, so from there on the stack
lags behind the structures that are really around.  `Lag` says in which ways.  Only a `while` behind
the block of a `do` tells the difference: it no longer finds that a `do` was closed last.
-/

namespace NovaLint

/-- A well-nested program in which one body is marked. -/
inductive Marking where
  /-- The body lies behind a token. -/
  | plain (token : PlainToken) (rest : Marking)
  /-- The body is that of the first structure. -/
  | ofBlock (head : Head) (left : TokenOf .leftBrace) (body : Program) (right : TokenOf .rightBrace)
      (rest : Program)
  /-- The body lies within that of the first structure. -/
  | inBlock (head : Head) (left : TokenOf .leftBrace) (body : Marking) (right : TokenOf .rightBrace)
      (rest : Program)
  /-- The body lies behind the first structure. -/
  | behindBlock (head : Head) (left : TokenOf .leftBrace) (body : Program)
      (right : TokenOf .rightBrace) (rest : Marking)
  /-- The body is that of a `do`. -/
  | ofDo (first : TokenOf .doWord) (left : TokenOf .leftBrace) (body : Program)
      (right : TokenOf .rightBrace) (second : TokenOf .whileWord) (header : List PlainToken)
      (rest : Program)
  /-- The body lies within that of a `do`. -/
  | inDo (first : TokenOf .doWord) (left : TokenOf .leftBrace) (body : Marking)
      (right : TokenOf .rightBrace) (second : TokenOf .whileWord) (header : List PlainToken)
      (rest : Program)
  /-- The body lies behind a `do`. -/
  | behindDo (first : TokenOf .doWord) (left : TokenOf .leftBrace) (body : Program)
      (right : TokenOf .rightBrace) (second : TokenOf .whileWord) (header : List PlainToken)
      (rest : Marking)

namespace Marking

/-- The program without the mark. -/
def program : Marking → Program
  | plain token rest => .plain token rest.program
  | ofBlock head left body right rest => .block head left body right rest
  | inBlock head left body right rest => .block head left body.program right rest
  | behindBlock head left body right rest => .block head left body right rest.program
  | ofDo first left body right second header rest =>
    .doWhile first left body right second header rest
  | inDo first left body right second header rest =>
    .doWhile first left body.program right second header rest
  | behindDo first left body right second header rest =>
    .doWhile first left body right second header rest.program

/-- The structures whose bodies hold the contents of the marked one. -/
def around : Marking → List Control
  | plain _ rest => rest.around
  | ofBlock head _ _ _ _ => [head.control]
  | inBlock head _ body _ _ => body.around ++ [head.control]
  | behindBlock _ _ _ _ rest => rest.around
  | ofDo _ _ _ _ _ _ _ => [.doBlock]
  | inDo _ _ body _ _ _ _ => body.around ++ [.doBlock]
  | behindDo _ _ _ _ _ _ rest => rest.around

/-- The tokens of the program with the contents of the marked body between further braces. -/
def doubled (opening : TokenOf .leftBrace) (closing : TokenOf .rightBrace) : Marking → List Token
  | plain token rest => token.val :: rest.doubled opening closing
  | ofBlock head left body right rest =>
    head.tokens ++ left.val :: opening.val :: (body.tokens ++
      closing.val :: right.val :: rest.tokens)
  | inBlock head left body right rest =>
    head.tokens ++ left.val :: (body.doubled opening closing ++ right.val :: rest.tokens)
  | behindBlock head left body right rest =>
    head.tokens ++ left.val :: (body.tokens ++ right.val :: rest.doubled opening closing)
  | ofDo first left body right second header rest =>
    first.val :: left.val :: opening.val :: (body.tokens ++
      closing.val :: right.val :: second.val :: (header.map (·.val) ++ rest.tokens))
  | inDo first left body right second header rest =>
    first.val :: left.val :: (body.doubled opening closing ++
      right.val :: second.val :: (header.map (·.val) ++ rest.tokens))
  | behindDo first left body right second header rest =>
    first.val :: left.val :: (body.tokens ++
      right.val :: second.val :: (header.map (·.val) ++ rest.doubled opening closing))

end Marking

namespace Control.Tally

/-- The structures that have occurred between two tallies. -/
def Counts (before after : Tally) (more : Control → Nat) : Prop :=
  ∀ control, (after.count control).occurrences = (before.count control).occurrences + more control

theorem Counts.trans {first second third : Tally} {more further : Control → Nat}
    (counts : first.Counts second more) (later : second.Counts third further) :
    first.Counts third fun control => more control + further control := by
  intro control
  rw [later control, counts control, Nat.add_assoc]

theorem counts_enter (tally : Tally) (control : Control) (line : Nat) :
    tally.Counts (tally.enter control line) fun other => if other = control then 1 else 0 :=
  fun other => tally.occurrences_enter control other line

theorem counts_mention (tally : Tally) (control : Control) (line : Nat) :
    tally.Counts (tally.mention control line) fun other => if other = control then 1 else 0 :=
  fun other => tally.occurrences_mention control other line

theorem Counts.leave {before after : Tally} {more : Control → Nat}
    (counts : before.Counts after more) : before.Counts after.leave more := by
  intro control
  rw [occurrences_leave, counts control]

theorem settled_or_behind_do {tally : Tally} {previous? : Option Token}
    (apart : ∀ token ∈ previous?, token.kind ≠ .elseWord) :
    tally.Settled previous? ∨
      (∃ token ∈ previous?, token.kind = .rightBrace) ∧ tally.lastClosed? = some .doBlock := by
  by_cases closed : tally.lastClosed? = some .doBlock
  · by_cases behind : ∃ token ∈ previous?, token.kind = .rightBrace
    · exact .inr ⟨behind, closed⟩
    · exact .inl ⟨apart, fun token found closing => absurd ⟨token, found, closing⟩ behind⟩
  · exact .inl ⟨apart, fun _ _ _ => closed⟩

/-- The head of a structure is counted wherever it stands, but it may fail to enter it. -/
theorem after_head_of_apart {tally : Tally} {previous? : Option Token}
    (apart : ∀ token ∈ previous?, token.kind ≠ .elseWord) (head : Head) (left : TokenOf .leftBrace)
    (following : List Token) :
    ∃ behind, tally.after previous? (head.tokens ++ left.val :: following) =
        behind.after (some left.val) following ∧
      (behind.openBlocks = head.control :: tally.openBlocks ∨
        behind.openBlocks = tally.openBlocks) ∧
      tally.Counts behind fun other => if other = head.control then 1 else 0 := by
  rcases settled_or_behind_do apart with settled | ⟨⟨token, rfl, closing⟩, closed⟩
  · obtain ⟨line, entered⟩ := after_head apart head (fun _ => settled) left following
    exact ⟨_, entered, .inl rfl, tally.counts_enter head.control line⟩
  by_cases is_while : head.control = .whileBlock
  · cases head with
    | whileHead word header =>
        -- The `while` stands behind a brace that closed a `do` and is taken for the end of it.
        have ends : Site.occurrence? ⟨some token, word.val, header.map (·.val) ++
            left.val :: following⟩ tally.lastClosed? = some (.ends .whileBlock) := by
          simp only [Site.occurrence?, Site.kind, word.property]
          exact if_pos ⟨by simpa [Site.previousIs] using closing, closed⟩
        refine ⟨tally.mention .whileBlock word.val.line, ?_, .inr rfl, tally.counts_mention _ _⟩
        rw [Head.tokens, List.cons_append, after_cons, behind_of_ends _ ends,
          after_header_leftBrace]
    | _ => exact absurd is_while (by simp [Head.control])
  · obtain ⟨line, entered⟩ :=
      after_head apart head (fun same => absurd same is_while) left following
    exact ⟨_, entered, .inl rfl, tally.counts_enter head.control line⟩

end Control.Tally

namespace Program

open Control.Tally

/-- Wherever a well-nested program is read, it takes nothing from the stack but the innermost
structures, and counts every structure of its own once. -/
theorem after_tokens_of_apart (program : Program) {tally : Control.Tally}
    {previous? : Option Token} (apart : ∀ token ∈ previous?, token.kind ≠ .elseWord)
    (following : List Token) :
    ∃ last? final, (∀ token ∈ last?, token.kind ≠ .elseWord) ∧
      tally.after previous? (program.tokens ++ following) = final.after last? following ∧
      final.openBlocks <:+ tally.openBlocks ∧ tally.Counts final program.count := by
  induction program generalizing tally previous? following with
  | done => exact ⟨previous?, tally, apart, rfl, List.suffix_rfl, fun _ => rfl⟩
  | plain token rest ih =>
      obtain ⟨last?, final, apart_last, rest_eq, suffix, counts⟩ :=
        ih (settled_behind_plain tally token).apart following
      refine ⟨last?, final, apart_last, ?_, suffix, counts⟩
      rw [tokens, List.cons_append, after_plain, rest_eq]
  | block head left body right rest body_ih rest_ih =>
      obtain ⟨behind, head_eq, entered, head_counts⟩ :=
        after_head_of_apart apart head left (body.tokens ++ right.val :: (rest.tokens ++ following))
      obtain ⟨_, inner, _, body_eq, body_grown⟩ :=
        body.after_tokens (settled_behind_leftBrace behind left)
          (right.val :: (rest.tokens ++ following))
      have apart_right : ∀ token ∈ some right.val, token.kind ≠ .elseWord := by
        rintro _ ⟨⟩
        exact right.kind_ne (by decide)
      obtain ⟨last?, final, apart_last, rest_eq, rest_suffix, rest_counts⟩ :=
        @rest_ih inner.leave (some right.val) apart_right following
      refine ⟨last?, final, apart_last, ?_, ?_, ?_⟩
      · simp only [tokens, List.append_assoc, List.cons_append]
        rw [head_eq, body_eq, after_rightBrace, rest_eq]
      · -- The brace takes what the head has entered, or the innermost structure around.
        refine rest_suffix.trans ?_
        rw [openBlocks_leave, body_grown.openBlocks_eq]
        rcases entered with enters | misread
        · have same := congrArg List.tail enters
          exact same ▸ List.suffix_rfl
        · rw [misread]
          exact List.tail_suffix _
      · have body_counts : behind.Counts inner body.count := body_grown.occurrences_eq
        exact ((head_counts.trans body_counts).leave).trans rest_counts
  | doWhile first left body right second header rest _ _ =>
      obtain ⟨_, inner, _, body_eq, body_grown⟩ :=
        body.after_tokens (settled_behind_leftBrace (tally.enter .doBlock first.val.line) left)
          (right.val :: second.val :: (header.map (·.val) ++ (rest.tokens ++ following)))
      obtain ⟨_, ended, settled_ended, tail_eq, ended_eq⟩ :=
        after_doTail inner _ right second header (rest.tokens ++ following)
      rw [if_pos body_grown.head?_openBlocks] at ended_eq
      subst ended_eq
      obtain ⟨last?, final, settled_last, rest_eq, rest_grown⟩ :=
        rest.after_tokens settled_ended following
      have grown := (body_grown.block.trans (grown_mention _ .whileBlock second.val.line)).trans
        rest_grown
      refine ⟨last?, final, settled_last.apart, ?_, ?_, grown.occurrences_eq⟩
      · simp only [tokens, List.append_assoc, List.cons_append]
        rw [after_doHead, body_eq, tail_eq, rest_eq]
      · have same := grown.openBlocks_eq
        exact same ▸ List.suffix_rfl

end Program

/-! ## The stack behind a brace too many -/

namespace Control.Tally

/-- How the stack may stand to the structures around a settled place.  The structures in `passed`
have been closed since a brace was read too many. -/
inductive Stands (passed around stack : List Control) : Prop
  /-- The stack holds what is around. -/
  | even (same : stack = around)
  /-- A `while` that opened nothing lies in the place of the innermost structures, and the outermost
  of these is no `do`. -/
  | late (cause : .doBlock ∈ passed) (inner : List Control) (outermost : Control)
      (not_do : outermost ≠ .doBlock) (rest : List Control)
      (split : around = inner ++ outermost :: rest) (same : stack = .whileBlock :: rest)
  /-- Such a `while` lies on the stack, and nothing else. -/
  | alone (cause : .doBlock ∈ passed) (same : stack = [.whileBlock])

/-- How a tally may stand to the structures around a place behind a brace too many. -/
inductive Lag (passed around : List Control) (tally : Tally) (previous? : Option Token) : Prop
  /-- A `while` at the place would be read as in the program without that brace. -/
  | settled (settled : tally.Settled previous?) (stands : Stands passed around tally.openBlocks)
  /-- The innermost structures are missing from the stack. -/
  | short (apart : ∀ token ∈ previous?, token.kind ≠ .elseWord) (missing : List Control)
      (nonempty : missing ≠ []) (split : around = missing ++ tally.openBlocks)

/-- A program read at a place leaves the structures around it. -/
theorem Lag.program {passed around : List Control} {tally : Tally} {previous? : Option Token}
    (lag : tally.Lag passed around previous?) (program : Program) (following : List Token) :
    ∃ last? final, final.Lag passed around last? ∧
      tally.after previous? (program.tokens ++ following) = final.after last? following ∧
      tally.Counts final program.count := by
  cases lag with
  | settled settled stands =>
      obtain ⟨last?, final, settled_last, read, grown⟩ := program.after_tokens settled following
      rw [← grown.openBlocks_eq] at stands
      exact ⟨last?, final, .settled settled_last stands, read, grown.occurrences_eq⟩
  | short apart missing nonempty split =>
      obtain ⟨last?, final, apart_last, read, ⟨lost, lost_eq⟩, counts⟩ :=
        program.after_tokens_of_apart apart following
      have more_missing : around = (missing ++ lost) ++ final.openBlocks := by
        rw [List.append_assoc, lost_eq, split]
      have still_nonempty : missing ++ lost ≠ [] := List.append_ne_nil_of_left_ne_nil nonempty lost
      exact ⟨last?, final, .short apart_last _ still_nonempty more_missing, read, counts⟩

/-- Behind a brace, the stack is even as soon as nothing is missing from it. -/
theorem Lag.of_split {passed around : List Control} {tally : Tally} (right : TokenOf .rightBrace)
    (missing : List Control) (split : around = missing ++ tally.openBlocks)
    (not_do : missing = [] → tally.lastClosed? ≠ some .doBlock) :
    tally.Lag passed around (some right.val) := by
  cases missing with
  | nil => exact .settled (settled_behind_rightBrace right (not_do rfl)) (.even split.symm)
  | cons control missing =>
      refine .short ?_ (control :: missing) (List.cons_ne_nil _ _) split
      rintro _ ⟨⟩
      exact right.kind_ne (by decide)

/-- The brace behind the block of a structure that is no `do`. -/
theorem Lag.close {passed around : List Control} {control : Control} {tally : Tally}
    {previous? : Option Token} (lag : tally.Lag passed (control :: around) previous?)
    (not_do : control ≠ .doBlock) (right : TokenOf .rightBrace) :
    tally.leave.Lag (passed ++ [control]) around (some right.val) := by
  have open_eq := tally.openBlocks_leave
  have closed_eq := tally.lastClosed?_leave
  cases lag with
  | settled _ stands =>
      cases stands with
      | even same =>
          rw [same] at open_eq closed_eq
          refine .of_split right [] open_eq.symm fun _ => ?_
          rw [closed_eq, List.head?_cons]
          simpa using not_do
      | late _ inner outermost _ rest split same =>
          rw [same, List.tail_cons] at open_eq
          rw [same, List.head?_cons] at closed_eq
          have not_closed : tally.leave.lastClosed? ≠ some .doBlock := by
            rw [closed_eq]
            decide
          cases inner with
          | nil =>
              rw [List.nil_append, List.cons.injEq] at split
              refine .of_split right [] ?_ fun _ => not_closed
              rw [open_eq, split.2, List.nil_append]
          | cons first inner =>
              rw [List.cons_append, List.cons.injEq] at split
              refine .of_split right (inner ++ [outermost]) ?_ fun _ => not_closed
              rw [open_eq, split.2, List.append_assoc, List.singleton_append]
      | alone _ same =>
          rw [same, List.tail_cons] at open_eq
          rw [same, List.head?_cons] at closed_eq
          refine .of_split right around ?_ fun _ => ?_
          · rw [open_eq, List.append_nil]
          · rw [closed_eq]
            decide
  | short _ missing nonempty split =>
      obtain ⟨first, missing, rfl⟩ := List.exists_cons_of_ne_nil nonempty
      rw [List.cons_append, List.cons.injEq] at split
      cases stack_eq : tally.openBlocks with
      | nil =>
          rw [stack_eq] at split open_eq closed_eq
          refine .of_split right missing ?_ fun _ => ?_
          · rw [open_eq, split.2]
            rfl
          · rw [closed_eq]
            decide
      | cons innermost rest =>
          rw [stack_eq] at split open_eq
          refine .of_split right (missing ++ [innermost]) ?_ fun nothing =>
            absurd nothing (by simp)
          rw [open_eq, split.2, List.tail_cons, List.append_assoc, List.singleton_append]

/-- The brace behind the block of a `do`, the `while` behind it and its header. -/
theorem Lag.closeDo {passed around : List Control} {tally : Tally} {previous? : Option Token}
    (lag : tally.Lag passed (.doBlock :: around) previous?) (right : TokenOf .rightBrace)
    (second : TokenOf .whileWord) (header : List PlainToken) (following : List Token) :
    ∃ last? final, final.Lag (passed ++ [.doBlock]) around last? ∧
      tally.after previous? (right.val :: second.val :: (header.map (·.val) ++ following)) =
        final.after last? following ∧
      tally.Counts final fun control => if control = .whileBlock then 1 else 0 := by
  obtain ⟨last?, final, settled, read, final_eq⟩ :=
    after_doTail tally previous? right second header following
  have cause : Control.doBlock ∈ passed ++ [.doBlock] := by simp
  have counts : tally.Counts final fun control => if control = .whileBlock then 1 else 0 := by
    have left_counts : tally.Counts tally.leave fun _ => 0 := Counts.leave fun _ => rfl
    intro control
    rw [final_eq]
    split
    · simpa using (left_counts.trans (counts_mention _ .whileBlock second.val.line)) control
    · simpa using (left_counts.trans (counts_enter _ .whileBlock second.val.line)) control
  have stack_eq : final.openBlocks = if tally.openBlocks.head? = some .doBlock then
      tally.openBlocks.tail else .whileBlock :: tally.openBlocks.tail := by
    rw [final_eq]
    split <;> simp
  refine ⟨last?, final, ?_, read, counts⟩
  cases lag with
  | settled _ stands =>
      refine .settled settled ?_
      cases stands with
      | even same =>
          rw [same] at stack_eq
          exact .even stack_eq
      | late _ inner outermost not_do rest split same =>
          rw [same] at stack_eq
          cases inner with
          | nil => exact absurd (List.cons.inj split).1.symm not_do
          | cons first inner =>
              exact .late cause inner outermost not_do rest (List.cons.inj split).2 stack_eq
      | alone _ same =>
          rw [same] at stack_eq
          exact .alone cause stack_eq
  | short _ missing nonempty split =>
      obtain ⟨first, missing, rfl⟩ := List.exists_cons_of_ne_nil nonempty
      rw [List.cons_append, List.cons.injEq] at split
      cases open_eq : tally.openBlocks with
      | nil =>
          rw [open_eq] at stack_eq
          exact .settled settled (.alone cause stack_eq)
      | cons innermost rest =>
          rw [open_eq] at split stack_eq
          by_cases is_do : innermost = .doBlock
          · rw [List.head?_cons, is_do, if_pos rfl, List.tail_cons] at stack_eq
            refine .short settled.apart (missing ++ [innermost]) (by simp) ?_
            rw [stack_eq, split.2, List.append_assoc, List.singleton_append]
          · rw [List.head?_cons, if_neg (by simpa using is_do), List.tail_cons] at stack_eq
            exact .settled settled (.late cause missing innermost is_do rest split.2 stack_eq)

/-- Around no structure a `while` may be open, and only because of a `do`. -/
theorem Lag.openBlocks_eq {passed : List Control} {tally : Tally} {previous? : Option Token}
    (lag : tally.Lag passed [] previous?) :
    tally.openBlocks = [] ∨ .doBlock ∈ passed ∧ tally.openBlocks = [.whileBlock] := by
  cases lag with
  | settled _ stands =>
      cases stands with
      | even same => exact .inl same
      | late _ _ _ _ _ split _ => exact absurd split (by simp)
      | alone cause same => exact .inr ⟨cause, same⟩
  | short _ missing nonempty split =>
      have nothing : missing = [] := (List.append_eq_nil_iff.mp split.symm).1
      exact absurd nothing nonempty

end Control.Tally

namespace Marking

open Control.Tally

/-- Reading a program with doubled braces leaves the stack as it was, up to a lag. -/
theorem after_doubled (marking : Marking) (opening : TokenOf .leftBrace)
    (closing : TokenOf .rightBrace) {tally : Control.Tally} {previous? : Option Token}
    (settled : tally.Settled previous?) (following : List Token) :
    ∃ last? final, final.Lag marking.around tally.openBlocks last? ∧
      tally.after previous? (marking.doubled opening closing ++ following) =
        final.after last? following ∧
      tally.Counts final marking.program.count := by
  induction marking generalizing tally previous? following with
  | plain token rest ih =>
      obtain ⟨last?, final, lag, rest_eq, counts⟩ := ih (settled_behind_plain tally token) following
      refine ⟨last?, final, lag, ?_, counts⟩
      rw [doubled, List.cons_append, after_plain, rest_eq]
  | ofBlock head left body right rest =>
      obtain ⟨line, entered⟩ := after_head settled.apart head (fun _ => settled) left
        (opening.val :: (body.tokens ++ closing.val :: right.val :: (rest.tokens ++ following)))
      obtain ⟨_, inner, _, body_eq, grown⟩ :=
        body.after_tokens (settled_behind_leftBrace (tally.enter head.control line) opening)
          (closing.val :: right.val :: (rest.tokens ++ following))
      -- The further closing brace takes the structure from the stack before its block ends.
      have short : inner.leave.Lag [] (head.control :: tally.openBlocks) (some closing.val) := by
        refine .of_split closing [head.control] ?_ fun nothing => absurd nothing (by simp)
        rw [openBlocks_leave, grown.openBlocks_eq]
        rfl
      obtain ⟨last?, final, lag, rest_eq, rest_counts⟩ :=
        (short.close head.control_ne_doBlock right).program rest following
      have body_counts : (tally.enter head.control line).Counts inner body.count :=
        grown.occurrences_eq
      refine ⟨last?, final, lag, ?_,
        ((tally.counts_enter head.control line).trans body_counts).leave.leave.trans rest_counts⟩
      simp only [doubled, List.append_assoc, List.cons_append]
      rw [entered, after_leftBrace, body_eq, after_rightBrace, after_rightBrace, rest_eq]
  | inBlock head left body right rest ih =>
      obtain ⟨line, entered⟩ := after_head settled.apart head (fun _ => settled) left
        (body.doubled opening closing ++ right.val :: (rest.tokens ++ following))
      obtain ⟨_, inner, body_lag, body_eq, body_counts⟩ :=
        ih (settled_behind_leftBrace (tally.enter head.control line) left)
          (right.val :: (rest.tokens ++ following))
      obtain ⟨last?, final, lag, rest_eq, rest_counts⟩ :=
        (body_lag.close head.control_ne_doBlock right).program rest following
      refine ⟨last?, final, lag, ?_,
        ((tally.counts_enter head.control line).trans body_counts).leave.trans rest_counts⟩
      simp only [doubled, List.append_assoc, List.cons_append]
      rw [entered, body_eq, after_rightBrace, rest_eq]
  | behindBlock head left body right rest ih =>
      obtain ⟨line, entered⟩ := after_head settled.apart head (fun _ => settled) left
        (body.tokens ++ right.val :: (rest.doubled opening closing ++ following))
      obtain ⟨_, inner, _, body_eq, grown⟩ :=
        body.after_tokens (settled_behind_leftBrace (tally.enter head.control line) left)
          (right.val :: (rest.doubled opening closing ++ following))
      obtain ⟨last?, final, lag, rest_eq, rest_counts⟩ := ih (grown.settled_leave right) following
      have block_counts : tally.Counts inner.leave fun control =>
        (if control = head.control then 1 else 0) + body.count control := grown.block.occurrences_eq
      rw [grown.block.openBlocks_eq] at lag
      refine ⟨last?, final, lag, ?_, block_counts.trans rest_counts⟩
      simp only [doubled, List.append_assoc, List.cons_append]
      rw [entered, body_eq, after_rightBrace, rest_eq]
  | ofDo first left body right second header rest =>
      obtain ⟨_, inner, _, body_eq, grown⟩ :=
        body.after_tokens (settled_behind_leftBrace (tally.enter .doBlock first.val.line) opening)
          (closing.val :: right.val :: second.val ::
            (header.map (·.val) ++ (rest.tokens ++ following)))
      have short : inner.leave.Lag [] (.doBlock :: tally.openBlocks) (some closing.val) := by
        refine .of_split closing [.doBlock] ?_ fun nothing => absurd nothing (by simp)
        rw [openBlocks_leave, grown.openBlocks_eq]
        rfl
      obtain ⟨_, ended, ended_lag, tail_eq, tail_counts⟩ :=
        short.closeDo right second header (rest.tokens ++ following)
      obtain ⟨last?, final, lag, rest_eq, rest_counts⟩ := ended_lag.program rest following
      have body_counts : (tally.enter .doBlock first.val.line).Counts inner body.count :=
        grown.occurrences_eq
      refine ⟨last?, final, lag, ?_,
        (((tally.counts_enter _ _).trans body_counts).leave.trans tail_counts).trans rest_counts⟩
      simp only [doubled, List.append_assoc, List.cons_append]
      rw [after_doHead, after_leftBrace, body_eq, after_rightBrace, tail_eq, rest_eq]
  | inDo first left body right second header rest ih =>
      obtain ⟨_, inner, body_lag, body_eq, body_counts⟩ :=
        ih (settled_behind_leftBrace (tally.enter .doBlock first.val.line) left)
          (right.val :: second.val :: (header.map (·.val) ++ (rest.tokens ++ following)))
      obtain ⟨_, ended, ended_lag, tail_eq, tail_counts⟩ :=
        body_lag.closeDo right second header (rest.tokens ++ following)
      obtain ⟨last?, final, lag, rest_eq, rest_counts⟩ := ended_lag.program rest following
      refine ⟨last?, final, lag, ?_,
        (((tally.counts_enter _ _).trans body_counts).trans tail_counts).trans rest_counts⟩
      simp only [doubled, List.append_assoc, List.cons_append]
      rw [after_doHead, body_eq, tail_eq, rest_eq]
  | behindDo first left body right second header rest ih =>
      obtain ⟨_, inner, _, body_eq, grown⟩ :=
        body.after_tokens (settled_behind_leftBrace (tally.enter .doBlock first.val.line) left)
          (right.val :: second.val ::
            (header.map (·.val) ++ (rest.doubled opening closing ++ following)))
      obtain ⟨_, ended, settled_ended, tail_eq, ended_eq⟩ :=
        after_doTail inner _ right second header (rest.doubled opening closing ++ following)
      rw [if_pos grown.head?_openBlocks] at ended_eq
      subst ended_eq
      obtain ⟨last?, final, lag, rest_eq, rest_counts⟩ := ih settled_ended following
      have do_grown := grown.block.trans (grown_mention _ .whileBlock second.val.line)
      have do_counts : tally.Counts (inner.leave.mention .whileBlock second.val.line)
          fun control => ((if control = .doBlock then 1 else 0) + body.count control) +
            if control = .whileBlock then 1 else 0 := do_grown.occurrences_eq
      rw [do_grown.openBlocks_eq] at lag
      refine ⟨last?, final, lag, ?_, do_counts.trans rest_counts⟩
      simp only [doubled, List.append_assoc, List.cons_append]
      rw [after_doHead, body_eq, tail_eq, rest_eq]

/-- What is known at the end of a program with doubled braces. -/
theorem run_doubled (marking : Marking) (opening : TokenOf .leftBrace)
    (closing : TokenOf .rightBrace) :
    ∃ last?, (run .empty (Site.all (marking.doubled opening closing))).Lag marking.around [] last? ∧
      Control.Tally.empty.Counts (run .empty (Site.all (marking.doubled opening closing)))
        marking.program.count := by
  obtain ⟨last?, final, lag, final_eq, counts⟩ :=
    marking.after_doubled opening closing settled_start []
  rw [List.append_nil] at final_eq
  have run_eq : run .empty (Site.all (marking.doubled opening closing)) = final := final_eq
  rw [run_eq]
  exact ⟨last?, lag, counts⟩

end Marking

theorem Control.Tally.balance_of_counts {tally : Tally} {more : Control → Nat}
    (coherent : tally.Coherent) (counts : empty.Counts tally more) (control : Control) :
    tally.balance control =
      ⟨control, more control, tally.openBlocks.count control, more control != 0⟩ := by
  have occurrences_eq := counts control
  rw [count_empty, Nat.zero_add] at occurrences_eq
  rw [balance, occurrences_eq, coherent.outstanding_eq]

namespace Report

open Control.Tally

theorem controls_of_counts (initial : Char) {tokens : List Token} {more : Control → Nat}
    (counts : Control.Tally.empty.Counts (run .empty (Site.all tokens)) more) :
    (ofTokens initial tokens).controls = Control.all.map fun control =>
      ⟨control, more control, (run .empty (Site.all tokens)).openBlocks.count control,
        more control != 0⟩ := by
  change Control.all.map (Walk.run _ _).tally.balance = _
  rw [Walk.tally_run]
  exact List.map_congr_left fun control _ =>
    balance_of_counts (coherent_empty.run (Site.all tokens)) counts control

theorem findingsOf_unclosed_of_controls (initial : Char) (tokens : List Token) :
    (ofTokens initial tokens).findingsOf .unclosedControlStructure =
      ((ofTokens initial tokens).controls.filter fun balance => !balance.isBalanced).map
        fun balance => (Cause.unclosedControl balance.control balance.unclosed).onLine
          (((run .empty (Site.all tokens)).count balance.control).firstLine?.getD 0) := by
  rw [findingsOf_unclosedControlStructure, Walk.tally_run]
  change _ = ((Control.all.map (Walk.run _ _).tally.balance).filter _).map _
  rw [Walk.tally_run]
  rfl

end Report

namespace Marking

/-- Doubled braces leave the balance of control structures as it is, unless the doubled body is that
of a `do` or lies within one.  Then the most that they change is that one `while` counts as never
closed. -/
theorem report_doubled (initial : Char) (marking : Marking) (opening : TokenOf .leftBrace)
    (closing : TokenOf .rightBrace) :
    let plain := Report.ofTokens initial marking.program.tokens
    let doubled := Report.ofTokens initial (marking.doubled opening closing)
    (doubled.controls = plain.controls ∧ doubled.findingsOf .unclosedControlStructure = []) ∨
      .doBlock ∈ marking.around ∧
        doubled.controls = plain.controls.map (fun balance =>
          if balance.control = .whileBlock then { balance with unclosed := 1 } else balance) ∧
        ∃ line, doubled.findingsOf .unclosedControlStructure =
          [(Cause.unclosedControl .whileBlock 1).onLine line] := by
  intro plain doubled
  have plain_eq : plain.controls = Control.all.map fun control =>
      ⟨control, marking.program.count control, 0, marking.program.count control != 0⟩ := by
    have grown := marking.program.run_tokens
    rw [Report.controls_of_counts initial grown.occurrences_eq, grown.openBlocks_eq]
    rfl
  obtain ⟨_, lag, counts⟩ := marking.run_doubled opening closing
  have doubled_eq := Report.controls_of_counts initial counts
  have unclosed_eq := Report.findingsOf_unclosed_of_controls initial
    (marking.doubled opening closing)
  rw [doubled_eq] at unclosed_eq
  rcases lag.openBlocks_eq with empty | ⟨cause, alone⟩
  · rw [empty] at doubled_eq unclosed_eq
    exact .inl ⟨doubled_eq.trans plain_eq.symm, unclosed_eq⟩
  · rw [alone] at doubled_eq unclosed_eq
    refine .inr ⟨cause, ?_, _, unclosed_eq⟩
    rw [plain_eq]
    exact doubled_eq

/-- A `do` with an empty block. -/
def emptyDo : Marking :=
  .ofDo ⟨⟨.doWord, "do", 1, ⟨0, 2⟩⟩, rfl⟩ ⟨⟨.leftBrace, "\x7b", 1, ⟨2, 3⟩⟩, rfl⟩ .done
    ⟨⟨.rightBrace, "\x7d", 1, ⟨3, 4⟩⟩, rfl⟩ ⟨⟨.whileWord, "while", 1, ⟨4, 9⟩⟩, rfl⟩ [] .done

/-- The braces of a plain block are not told from those of a structure. -/
theorem doubled_braces_unclose_while :
    ¬ ∀ (initial : Char) (marking : Marking) (opening : TokenOf .leftBrace)
      (closing : TokenOf .rightBrace),
      (Report.ofTokens initial (marking.doubled opening closing)).controls =
          (Report.ofTokens initial marking.program.tokens).controls ∧
        (Report.ofTokens initial (marking.doubled opening closing)).findingsOf
            .unclosedControlStructure =
          (Report.ofTokens initial marking.program.tokens).findingsOf
            .unclosedControlStructure := by
  intro unchanged
  have same := (unchanged '_' emptyDo ⟨⟨.leftBrace, "\x7b", 1, ⟨2, 3⟩⟩, rfl⟩
    ⟨⟨.rightBrace, "\x7d", 1, ⟨3, 4⟩⟩, rfl⟩).1
  exact absurd same (by decide +kernel)

end Marking
end NovaLint
