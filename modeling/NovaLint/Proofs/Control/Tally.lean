import Mathlib.Algebra.GroupWithZero.Nat
import NovaLint.Report

/-!
# Counting control structures

The tally keeps two counters for every kind of control structure and the stack of the open ones.
`Tally.Coherent` says how they belong together: as many structures are outstanding as lie on the
stack, and none that has not occurred.  Every token keeps the tally coherent, so closing never takes
from an empty counter, however many braces close nothing.  What is counted of each kind is told by
the tokens themselves, without the stack.
-/

namespace NovaLint
namespace Control

theorem index_injective {control other : Control} (same : control.index = other.index) :
    control = other := by
  cases control <;> cases other <;> first | rfl | exact absurd same (by decide)

/-- Every structure of a list is of one of the kinds. -/
theorem sum_count_all (structures : List Control) :
    (all.map structures.count).sum = structures.length := by
  induction structures with
  | nil => rfl
  | cons control outer ih =>
      simp only [all, List.map_cons, List.map_nil, List.sum_cons, List.sum_nil] at ih
      simp only [all, List.map_cons, List.map_nil, List.sum_cons, List.sum_nil, List.count_cons,
        List.length_cons]
      cases control <;> simp <;> omega

namespace Tally

@[simp]
theorem count_empty (control : Control) : empty.count control = ⟨0, 0, none⟩ := by
  simp [count, empty]

theorem count_update (tally : Tally) (control other : Control) (change : Count → Count) :
    (tally.update control change).count other =
      if other = control then change (tally.count control) else tally.count other := by
  by_cases same : other = control
  · subst same
    simp [count, update]
  · have different : (control.index : Nat) ≠ other.index := fun index_eq =>
      same (index_injective (Fin.ext index_eq.symm))
    simp [count, update, same, different]

@[simp]
theorem openBlocks_mention (tally : Tally) (control : Control) (line : Nat) :
    (tally.mention control line).openBlocks = tally.openBlocks := rfl

@[simp]
theorem lastClosed?_mention (tally : Tally) (control : Control) (line : Nat) :
    (tally.mention control line).lastClosed? = tally.lastClosed? := rfl

theorem occurrences_mention (tally : Tally) (control other : Control) (line : Nat) :
    ((tally.mention control line).count other).occurrences =
      (tally.count other).occurrences + if other = control then 1 else 0 := by
  rw [mention, count_update]
  split
  · next same => rw [same]
  · rfl

theorem outstanding_mention (tally : Tally) (control other : Control) (line : Nat) :
    ((tally.mention control line).count other).outstanding = (tally.count other).outstanding := by
  rw [mention, count_update]
  split
  · next same => rw [same]
  · rfl

/-- The first line is kept once it is known. -/
theorem firstLine?_mention (tally : Tally) (control other : Control) (line : Nat) :
    ((tally.mention control line).count other).firstLine? =
      ((tally.count other).firstLine? <|> if other = control then some line else none) := by
  rw [mention, count_update]
  split
  · next same => rw [same]
  · simp

@[simp]
theorem openBlocks_enter (tally : Tally) (control : Control) (line : Nat) :
    (tally.enter control line).openBlocks = control :: tally.openBlocks := rfl

@[simp]
theorem lastClosed?_enter (tally : Tally) (control : Control) (line : Nat) :
    (tally.enter control line).lastClosed? = tally.lastClosed? := rfl

/-- Entering a structure counts it like a mention and leaves it outstanding. -/
theorem count_enter (tally : Tally) (control other : Control) (line : Nat) :
    (tally.enter control line).count other =
      ((tally.mention control line).update control fun count =>
        { count with outstanding := count.outstanding + 1 }).count other := rfl

theorem occurrences_enter (tally : Tally) (control other : Control) (line : Nat) :
    ((tally.enter control line).count other).occurrences =
      (tally.count other).occurrences + if other = control then 1 else 0 := by
  rw [← occurrences_mention tally control other line, count_enter, count_update]
  split
  · next same => rw [same]
  · rfl

theorem firstLine?_enter (tally : Tally) (control other : Control) (line : Nat) :
    ((tally.enter control line).count other).firstLine? =
      ((tally.count other).firstLine? <|> if other = control then some line else none) := by
  rw [← firstLine?_mention tally control other line, count_enter, count_update]
  split
  · next same => rw [same]
  · rfl

theorem outstanding_enter (tally : Tally) (control other : Control) (line : Nat) :
    ((tally.enter control line).count other).outstanding =
      (tally.count other).outstanding + if other = control then 1 else 0 := by
  rw [← outstanding_mention tally control other line, count_enter, count_update]
  split
  · next same => rw [same]
  · rfl

@[simp]
theorem openBlocks_leave (tally : Tally) : tally.leave.openBlocks = tally.openBlocks.tail := by
  unfold leave
  split
  · next none_open => rw [none_open]; rfl
  · next some_open => rw [some_open]; rfl

@[simp]
theorem lastClosed?_leave (tally : Tally) : tally.leave.lastClosed? = tally.openBlocks.head? := by
  unfold leave
  split
  · next none_open => rw [none_open]; rfl
  · next some_open => rw [some_open]; rfl

/-- Leaving a structure takes it from what is outstanding, and without one nothing is taken. -/
theorem count_leave (tally : Tally) (control : Control) :
    tally.leave.count control =
      if tally.openBlocks.head? = some control then
        { tally.count control with outstanding := (tally.count control).outstanding - 1 }
      else tally.count control := by
  unfold leave
  split
  · next none_open => rw [none_open]; rfl
  · next innermost outer some_open =>
      change (tally.update innermost fun count =>
        { count with outstanding := count.outstanding - 1 }).count control = _
      rw [count_update, some_open, List.head?_cons]
      by_cases same : control = innermost
      · subst same
        rw [if_pos rfl, if_pos rfl]
      · rw [if_neg same, if_neg fun same_head => same (Option.some.inj same_head).symm]

theorem occurrences_leave (tally : Tally) (control : Control) :
    (tally.leave.count control).occurrences = (tally.count control).occurrences := by
  rw [count_leave]
  split <;> rfl

theorem firstLine?_leave (tally : Tally) (control : Control) :
    (tally.leave.count control).firstLine? = (tally.count control).firstLine? := by
  rw [count_leave]
  split <;> rfl

theorem outstanding_leave (tally : Tally) (control : Control) :
    (tally.leave.count control).outstanding =
      (tally.count control).outstanding -
        if tally.openBlocks.head? = some control then 1 else 0 := by
  rw [count_leave]
  split <;> rfl

/-- The counters agree with the stack of open structures. -/
structure Coherent (tally : Tally) : Prop where
  /-- As many structures of a kind are outstanding as lie on the stack. -/
  outstanding_eq : ∀ control, (tally.count control).outstanding = tally.openBlocks.count control
  /-- No structure is outstanding that has not occurred. -/
  outstanding_le : ∀ control, (tally.count control).outstanding ≤ (tally.count control).occurrences

theorem coherent_empty : empty.Coherent := by
  constructor
  · intro control
    rw [count_empty]
    rfl
  · intro control
    simp

theorem Coherent.mention {tally : Tally} (coherent : tally.Coherent) (control : Control)
    (line : Nat) : (tally.mention control line).Coherent := by
  constructor
  · intro other
    rw [outstanding_mention, openBlocks_mention]
    exact coherent.outstanding_eq other
  · intro other
    have bounded := coherent.outstanding_le other
    rw [outstanding_mention, occurrences_mention]
    omega

theorem Coherent.enter {tally : Tally} (coherent : tally.Coherent) (control : Control)
    (line : Nat) : (tally.enter control line).Coherent := by
  constructor
  · intro other
    rw [outstanding_enter, openBlocks_enter, coherent.outstanding_eq other, List.count_cons]
    by_cases same : other = control
    · simp [same]
    · simp [same, Ne.symm same]
  · intro other
    have bounded := coherent.outstanding_le other
    rw [outstanding_enter, occurrences_enter]
    omega

theorem Coherent.leave {tally : Tally} (coherent : tally.Coherent) : tally.leave.Coherent := by
  constructor
  · intro control
    rw [outstanding_leave, openBlocks_leave, coherent.outstanding_eq control, List.count_tail]
    simp only [beq_iff_eq]
  · intro control
    have bounded := coherent.outstanding_le control
    rw [outstanding_leave, occurrences_leave]
    omega

/-- Closing a structure never takes from an empty counter. -/
theorem Coherent.outstanding_pos {tally : Tally} (coherent : tally.Coherent) {control : Control}
    (innermost : tally.openBlocks.head? = some control) :
    0 < (tally.count control).outstanding := by
  rw [coherent.outstanding_eq]
  exact List.count_pos_iff.mpr (List.mem_of_head? innermost)

end Tally
end Control

/-! ## The tally on the way through a program -/

/-- The kind that occurs. -/
def Site.Occurrence.control : Occurrence → Control
  | opens control => control
  | ends control => control

/-- The structure that occurs at a place, told by the neighbours alone. -/
def Site.control? (site : Site) : Option Control :=
  match site.kind with
  | .elseWord => some (if site.nextIs .ifWord then .elseIfBlock else .elseBlock)
  | .ifWord => if site.previousIs .elseWord then none else some .ifBlock
  | kind => Control.ofKeyword? kind

/-- What was closed before decides only whether a structure is opened or ended. -/
theorem Site.map_control_occurrence? (site : Site) (lastClosed? : Option Control) :
    (site.occurrence? lastClosed?).map Occurrence.control = site.control? := by
  unfold occurrence? control?
  cases site.kind with
  | ifWord =>
      dsimp only
      split <;> rfl
  | whileWord =>
      dsimp only
      split <;> rfl
  | _ => rfl

/-- A closing brace is no occurrence. -/
theorem Site.kind_ne_of_occurrence? {site : Site} {lastClosed? : Option Control}
    {occurrence : Occurrence} (occurs : site.occurrence? lastClosed? = some occurrence) :
    site.kind ≠ .rightBrace := by
  intro closing
  rw [occurrence?, closing] at occurs
  exact absurd occurs (Option.some_ne_none occurrence).symm

namespace Control.Tally

/-- The tally behind a place. -/
def behind (tally : Tally) (site : Site) : Tally :=
  if site.kind = .rightBrace then tally.leave
  else
    match site.occurrence? tally.lastClosed? with
    | some (.opens control) => tally.enter control site.token.line
    | some (.ends control) => tally.mention control site.token.line
    | none => tally

theorem behind_of_rightBrace (tally : Tally) {site : Site} (closing : site.kind = .rightBrace) :
    tally.behind site = tally.leave :=
  if_pos closing

theorem behind_of_opens (tally : Tally) {site : Site} {control : Control}
    (occurs : site.occurrence? tally.lastClosed? = some (.opens control)) :
    tally.behind site = tally.enter control site.token.line := by
  rw [behind, if_neg (Site.kind_ne_of_occurrence? occurs), occurs]

theorem behind_of_ends (tally : Tally) {site : Site} {control : Control}
    (occurs : site.occurrence? tally.lastClosed? = some (.ends control)) :
    tally.behind site = tally.mention control site.token.line := by
  rw [behind, if_neg (Site.kind_ne_of_occurrence? occurs), occurs]

theorem behind_of_occurrence?_eq_none (tally : Tally) {site : Site}
    (nothing : site.occurrence? tally.lastClosed? = none)
    (not_closing : site.kind ≠ .rightBrace) : tally.behind site = tally := by
  rw [behind, if_neg not_closing, nothing]

/-- The tally behind several places. -/
def run (tally : Tally) (sites : List Site) : Tally := sites.foldl behind tally

@[simp]
theorem run_nil (tally : Tally) : tally.run [] = tally := rfl

@[simp]
theorem run_cons (tally : Tally) (site : Site) (later : List Site) :
    tally.run (site :: later) = (tally.behind site).run later := rfl

theorem Coherent.behind {tally : Tally} (coherent : tally.Coherent) (site : Site) :
    (tally.behind site).Coherent := by
  by_cases closing : site.kind = .rightBrace
  · rw [behind_of_rightBrace tally closing]
    exact coherent.leave
  cases found : site.occurrence? tally.lastClosed? with
  | none =>
      rw [behind_of_occurrence?_eq_none tally found closing]
      exact coherent
  | some occurrence =>
      cases occurrence with
      | opens control =>
          rw [behind_of_opens tally found]
          exact coherent.enter control _
      | ends control =>
          rw [behind_of_ends tally found]
          exact coherent.mention control _

theorem Coherent.run {tally : Tally} (coherent : tally.Coherent) (sites : List Site) :
    (tally.run sites).Coherent := by
  induction sites generalizing tally with
  | nil => exact coherent
  | cons site later ih => exact ih (coherent.behind site)

theorem occurrences_behind (tally : Tally) (site : Site) (control : Control) :
    ((tally.behind site).count control).occurrences =
      (tally.count control).occurrences + if site.control? = some control then 1 else 0 := by
  have occurs := site.map_control_occurrence? tally.lastClosed?
  rw [← occurs]
  cases found : site.occurrence? tally.lastClosed? with
  | some occurrence =>
      cases occurrence with
      | opens opened =>
          rw [behind_of_opens tally found, occurrences_enter]
          simp only [Option.map_some, Site.Occurrence.control, Option.some.injEq, eq_comm]
      | ends ended =>
          rw [behind_of_ends tally found, occurrences_mention]
          simp only [Option.map_some, Site.Occurrence.control, Option.some.injEq, eq_comm]
  | none =>
      by_cases closing : site.kind = .rightBrace
      · rw [behind_of_rightBrace tally closing, occurrences_leave]
        rfl
      · rw [behind_of_occurrence?_eq_none tally found closing]
        rfl

theorem occurrences_run (tally : Tally) (sites : List Site) (control : Control) :
    ((tally.run sites).count control).occurrences =
      (tally.count control).occurrences + sites.countP (·.control? = some control) := by
  induction sites generalizing tally with
  | nil => rfl
  | cons site later ih =>
      rw [run_cons, ih, occurrences_behind, List.countP_cons]
      simp only [decide_eq_true_eq]
      omega

theorem firstLine?_behind (tally : Tally) (site : Site) (control : Control) :
    ((tally.behind site).count control).firstLine? =
      ((tally.count control).firstLine? <|>
        if site.control? = some control then some site.token.line else none) := by
  have occurs := site.map_control_occurrence? tally.lastClosed?
  rw [← occurs]
  cases found : site.occurrence? tally.lastClosed? with
  | some occurrence =>
      cases occurrence with
      | opens opened =>
          rw [behind_of_opens tally found, firstLine?_enter]
          simp only [Option.map_some, Site.Occurrence.control, Option.some.injEq, eq_comm]
      | ends ended =>
          rw [behind_of_ends tally found, firstLine?_mention]
          simp only [Option.map_some, Site.Occurrence.control, Option.some.injEq, eq_comm]
  | none =>
      by_cases closing : site.kind = .rightBrace
      · rw [behind_of_rightBrace tally closing, firstLine?_leave]
        simp
      · rw [behind_of_occurrence?_eq_none tally found closing]
        simp

/-- The first line of a kind is that of the first token that stands for it. -/
theorem firstLine?_run (tally : Tally) (sites : List Site) (control : Control) :
    ((tally.run sites).count control).firstLine? =
      ((tally.count control).firstLine? <|>
        (sites.find? (·.control? = some control)).map (·.token.line)) := by
  induction sites generalizing tally with
  | nil => simp
  | cons site later ih =>
      rw [run_cons, ih, firstLine?_behind, List.find?_cons]
      by_cases occurs : site.control? = some control
      · cases (tally.count control).firstLine? <;> simp [occurs]
      · simp [occurs]

end Control.Tally

namespace Walk

/-- The tally of a walk is kept by itself. -/
theorem tally_run (walk : Walk) (sites : List Site) :
    (walk.run sites).tally = walk.tally.run sites := by
  induction sites generalizing walk with
  | nil => rfl
  | cons site later ih => exact ih (walk.step site)

end Walk
end NovaLint
