import NovaLint.Proofs.Check.Places
import NovaLint.Proofs.Control.Tally

/-!
# Occurrences of control structures

How often a kind of control structure occurs in a program is told by its tokens and their direct
neighbours: an `else` is counted with the `if` behind it, if there is one, and such an `if` is not
counted again.  The report gives these numbers, however the braces of the program are placed, and
what it says of open and closed structures fits them.
-/

namespace NovaLint

/-- The kind of the token at a place of a stream. -/
def kindAt? (tokens : List Token) (place : Nat) : Option Kind :=
  tokens[place]?.map (·.kind)

namespace Control

/-- The token at a place stands for a structure of the kind. -/
def occursAt (tokens : List Token) (place : Nat) : Control → Bool
  | ifBlock => kindAt? tokens place = some .ifWord ∧
      ¬ (place ≠ 0 ∧ kindAt? tokens (place - 1) = some .elseWord)
  | elseIfBlock => kindAt? tokens place = some .elseWord ∧ kindAt? tokens (place + 1) = some .ifWord
  | elseBlock => kindAt? tokens place = some .elseWord ∧ kindAt? tokens (place + 1) ≠ some .ifWord
  | forBlock => kindAt? tokens place = some .forWord
  | whileBlock => kindAt? tokens place = some .whileWord
  | doBlock => kindAt? tokens place = some .doWord
  | functionBlock => kindAt? tokens place = some .functionWord

/-- How often the kind occurs in a stream. -/
def occurrencesIn (tokens : List Token) (control : Control) : Nat :=
  (List.range tokens.length).countP (control.occursAt tokens)

end Control

namespace Site

theorem nextIs_iff {tokens : List Token} {place : Nat} {previous? : Option Token} {token : Token}
    {kind : Kind} :
    nextIs ⟨previous?, token, tokens.drop (place + 1)⟩ kind ↔
      kindAt? tokens (place + 1) = some kind := by
  rw [nextIs, next?, List.head?_drop, kindAt?]
  cases tokens[place + 1]? <;> simp

theorem previousIs_iff {tokens rest : List Token} {place : Nat} {token : Token} {kind : Kind} :
    previousIs ⟨if place = 0 then none else tokens[place - 1]?, token, rest⟩ kind ↔
      place ≠ 0 ∧ kindAt? tokens (place - 1) = some kind := by
  rw [previousIs, kindAt?]
  by_cases first : place = 0
  · simp [first]
  · rw [if_neg first]
    cases tokens[place - 1]? <;> simp [first]

theorem control?_eq_some_iff {tokens : List Token} {place : Nat} {token : Token}
    (found : tokens[place]? = some token) (control : Control) :
    control? ⟨if place = 0 then none else tokens[place - 1]?, token, tokens.drop (place + 1)⟩ =
      some control ↔ control.occursAt tokens place := by
  have here : kindAt? tokens place = some token.kind := by rw [kindAt?, found]; rfl
  unfold control?
  split
  · next elseWord =>
      change token.kind = .elseWord at elseWord
      rw [elseWord] at here
      by_cases follows : kindAt? tokens (place + 1) = some .ifWord
      · rw [if_pos (nextIs_iff.mpr follows)]
        cases control <;> simp [Control.occursAt, here, follows]
      · rw [if_neg (mt nextIs_iff.mp follows)]
        cases control <;> simp [Control.occursAt, here, follows]
  · next ifWord =>
      change token.kind = .ifWord at ifWord
      rw [ifWord] at here
      by_cases behind : place ≠ 0 ∧ kindAt? tokens (place - 1) = some .elseWord
      · rw [if_pos (previousIs_iff.mpr behind)]
        cases control <;> simp [Control.occursAt, here, behind]
      · rw [if_neg (mt previousIs_iff.mp behind)]
        cases control <;> simp only [Control.occursAt, here, behind] <;> simp
  · next not_else not_if =>
      change ¬ token.kind = .elseWord at not_else
      change ¬ token.kind = .ifWord at not_if
      change Control.ofKeyword? token.kind = _ ↔ _
      unfold Control.ofKeyword?
      split <;> cases control <;> simp_all [Control.occursAt]

/-- Counting at the first places of a stream is counting in it. -/
theorem countP_take_all (tokens : List Token) (control : Control) (count : Nat) :
    ((all tokens).take count).countP (·.control? = some control) =
      (List.range count).countP (control.occursAt tokens) := by
  induction count with
  | zero => rfl
  | succ count ih =>
      rw [List.take_add_one, List.countP_append, List.range_succ, List.countP_append, ih, all,
        getElem?_allAfter]
      cases found : tokens[count]? with
      | none =>
          have nothing : control.occursAt tokens count = false := by
            cases control <;> simp [Control.occursAt, kindAt?, found]
          simp [nothing]
      | some token =>
          have same := control?_eq_some_iff found control
          simp only [Option.map_some, Option.toList_some, List.countP_singleton, same]
          simp

end Site

namespace Report

/-- The tally behind a number of tokens of a program. -/
def tallyAfter (initial : Char) (tokens : List Token) (count : Nat) : Control.Tally :=
  ((Walk.start (Names.table initial (Names.sightings tokens))).run
    ((Site.all tokens).take count)).tally

theorem tallyAfter_eq (initial : Char) (tokens : List Token) (count : Nat) :
    tallyAfter initial tokens count =
      Control.Tally.run .empty ((Site.all tokens).take count) :=
  Walk.tally_run _ _

theorem tallyAfter_length (initial : Char) (tokens : List Token) :
    tallyAfter initial tokens tokens.length = Control.Tally.run .empty (Site.all tokens) := by
  rw [tallyAfter_eq, ← Site.length_all, List.take_length]

theorem coherent_tallyAfter (initial : Char) (tokens : List Token) (count : Nat) :
    (tallyAfter initial tokens count).Coherent := by
  rw [tallyAfter_eq]
  exact Control.Tally.coherent_empty.run _

theorem occurrences_tallyAfter (initial : Char) (tokens : List Token) (count : Nat)
    (control : Control) :
    ((tallyAfter initial tokens count).count control).occurrences =
      (List.range count).countP (control.occursAt tokens) := by
  rw [tallyAfter_eq, Control.Tally.occurrences_run, Control.Tally.count_empty,
    Site.countP_take_all, Nat.zero_add]

theorem controls_ofTokens (initial : Char) (tokens : List Token) :
    (ofTokens initial tokens).controls =
      Control.all.map (tallyAfter initial tokens tokens.length).balance := by
  rw [tallyAfter, ← Site.length_all, List.take_length]
  rfl

theorem unused_ofTokens (initial : Char) (tokens : List Token) :
    (ofTokens initial tokens).unused =
      (((ofTokens initial tokens).controls.filter fun balance => !balance.used).map
        (·.control)) := rfl

/-- The counters of control structures agree with the stack at every token, and what is reported of
them agrees with the tokens and with the stack at the end. -/
theorem control_counters_agree (initial : Char) (tokens : List Token) :
    (∀ count, (tallyAfter initial tokens count).Coherent ∧
      ∀ control, (tallyAfter initial tokens count).openBlocks.head? = some control →
        0 < ((tallyAfter initial tokens count).count control).outstanding) ∧
    (ofTokens initial tokens).controls.map (·.control) = Control.all ∧
    (∀ balance ∈ (ofTokens initial tokens).controls,
      balance.unclosed ≤ balance.occurrences ∧
        balance.closed + balance.unclosed = balance.occurrences ∧
        balance.occurrences = balance.control.occurrencesIn tokens) ∧
    ((ofTokens initial tokens).controls.map (·.unclosed)).sum =
      (tallyAfter initial tokens tokens.length).openBlocks.length ∧
    (ofTokens initial tokens).unused =
      Control.all.filter fun control => control.occurrencesIn tokens = 0 := by
  have final := coherent_tallyAfter initial tokens tokens.length
  have occurrences_eq : ∀ control,
      ((tallyAfter initial tokens tokens.length).count control).occurrences =
        control.occurrencesIn tokens := occurrences_tallyAfter initial tokens tokens.length
  refine ⟨fun count => ⟨coherent_tallyAfter initial tokens count, fun control innermost => ?_⟩,
    ?_, ?_, ?_, ?_⟩
  · exact (coherent_tallyAfter initial tokens count).outstanding_pos innermost
  · rw [controls_ofTokens]
    rfl
  · intro balance member
    rw [controls_ofTokens] at member
    obtain ⟨control, _, rfl⟩ := List.mem_map.mp member
    have bounded := final.outstanding_le control
    exact ⟨bounded, Nat.sub_add_cancel bounded, occurrences_eq control⟩
  · rw [controls_ofTokens, List.map_map, ← Control.sum_count_all]
    congr 1
    exact List.map_congr_left fun control _ => final.outstanding_eq control
  · rw [unused_ofTokens, controls_ofTokens, List.filter_map, List.map_map]
    have same : ∀ control : Control,
        (!((tallyAfter initial tokens tokens.length).balance control).used) =
          decide (control.occurrencesIn tokens = 0) := by
      intro control
      rw [Bool.eq_iff_iff, ← occurrences_eq]
      simp [Control.Tally.balance]
    refine (congrArg _ (List.filter_congr fun control _ => same control)).trans ?_
    exact List.map_id _

end Report
end NovaLint
