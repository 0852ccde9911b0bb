import Mathlib.Data.List.Nodup
import NovaLint.Statement.Verdict

/-!
# Leading tokens decide

A line is accepted for its leading tokens or for a shape of the catalog.  The shapes of the catalog
differ from each other, so a line has at most one of them, and each begins with tokens that start a
statement.  So a line that has a shape is accepted anyway: the first two tokens decide, and nothing
behind them does.
-/

namespace NovaLint

namespace Shape

theorem accepts_iff {shape : Shape} {kinds : List Kind} :
    shape.accepts kinds ↔ shape.kinds = kinds :=
  beq_iff_eq

theorem nodup_kinds_catalog : (catalog.map (·.kinds)).Nodup := by decide

/-- No line has two shapes. -/
theorem countP_accepts_le_one (kinds : List Kind) : catalog.countP (·.accepts kinds) ≤ 1 := by
  have once := List.nodup_iff_count_le_one.mp nodup_kinds_catalog kinds
  rwa [List.count_eq_countP, List.countP_map] at once

/-- Every shape begins with tokens that start a statement. -/
theorem startsStatement_kinds {shape : Shape} (listed : shape ∈ catalog) :
    Verdict.startsStatement shape.kinds := by
  have all_start : ∀ shape ∈ catalog, Verdict.startsStatement shape.kinds := by decide
  exact all_start shape listed

theorem startsStatement_of_accepts {shape : Shape} {kinds : List Kind} (listed : shape ∈ catalog)
    (accepted : shape.accepts kinds) : Verdict.startsStatement kinds :=
  accepts_iff.mp accepted ▸ startsStatement_kinds listed

/-- Trying shapes of the catalog, whichever and in whatever order, accepts no further line. -/
theorem startsStatement_or_find? {shapes : List Shape} (among : shapes ⊆ catalog)
    (kinds : List Kind) :
    (Verdict.startsStatement kinds || (shapes.find? (·.accepts kinds)).isSome) =
      Verdict.startsStatement kinds := by
  rw [Bool.or_eq_left_iff_imp]
  intro found
  obtain ⟨shape, first⟩ := Option.isSome_iff_exists.mp found
  have accepted := List.find?_some first
  exact startsStatement_of_accepts (among (List.mem_of_find?_eq_some first)) accepted

end Shape

namespace Verdict

theorem startsStatement_take_two (kinds : List Kind) :
    startsStatement (kinds.take 2) = startsStatement kinds := by
  match kinds with
  | [] | [_] | _ :: _ :: _ => rfl

/-- What starts a statement starts it whatever follows. -/
theorem startsStatement_append {kinds : List Kind} (starts : startsStatement kinds)
    (more : List Kind) : startsStatement (kinds ++ more) := by
  match kinds, more with
  | [], _ => cases starts
  | [_], [] => exact starts
  | [first], second :: _ =>
      have alone : startsAlone first := starts
      change (startsAlone first || startTogether first second) = true
      rw [alone, Bool.true_or]
  | _ :: _ :: _, _ => exact starts

/-- A line is accepted if it starts a statement. -/
theorem valid_ofTokens (tokens : List Token) :
    (ofTokens tokens).valid = startsStatement (tokens.map (·.kind)) := by
  unfold ofTokens Shape.find?
  simp only [Shape.startsStatement_or_find? (List.Subset.refl Shape.catalog)]
  cases startsStatement (tokens.map (·.kind)) <;> rfl

/-- The first two tokens of a line decide whether it is accepted.  The catalog plays no part in it:
a line has at most one shape, and one that has a shape starts a statement. -/
theorem leading_tokens_decide (tokens : List Token) :
    let kinds := tokens.map (·.kind)
    Shape.catalog.countP (·.accepts kinds) ≤ 1 ∧
      (∀ shape ∈ Shape.catalog, shape.accepts kinds → startsStatement kinds) ∧
      (ofTokens tokens).valid = startsStatement kinds ∧
      (∀ shapes ⊆ Shape.catalog, (ofTokens tokens).valid =
        (startsStatement kinds || (shapes.find? (·.accepts kinds)).isSome)) ∧
      (∀ others : List Token, (others.map (·.kind)).take 2 = kinds.take 2 →
        (ofTokens others).valid = (ofTokens tokens).valid) ∧
      ∀ more, (ofTokens tokens).valid → (ofTokens (tokens ++ more)).valid := by
  intro kinds
  refine ⟨Shape.countP_accepts_le_one kinds, fun shape => Shape.startsStatement_of_accepts,
    valid_ofTokens tokens, fun shapes among => ?_, fun others same => ?_, fun more valid => ?_⟩
  · rw [valid_ofTokens, Shape.startsStatement_or_find? among]
  · rw [valid_ofTokens, valid_ofTokens, ← startsStatement_take_two, same, startsStatement_take_two]
  · rw [valid_ofTokens] at valid ⊢
    rw [List.map_append]
    exact startsStatement_append valid _

/-- The head of a `do`, which has a shape, and the same with a second brace, which has none. -/
theorem leading_tokens_decide_do :
    let brace : Token := ⟨.leftBrace, "\x7b", 1, ⟨3, 4⟩⟩
    let head : List Token := [⟨.doWord, "do", 1, ⟨0, 2⟩⟩, brace]
    let shape : Shape := ⟨"do statement", [.doWord, .leftBrace], "malformed do structure"⟩
    let kinds := head.map (·.kind)
    shape ∈ Shape.catalog ∧ shape.accepts kinds ∧ startsStatement kinds ∧
      [shape] ⊆ Shape.catalog ∧
      (ofTokens head).valid =
        (startsStatement kinds || ([shape].find? (·.accepts kinds)).isSome) ∧
      ((head ++ [brace]).map (·.kind)).take 2 = kinds.take 2 ∧
      Shape.find? ((head ++ [brace]).map (·.kind)) = none ∧
      (ofTokens (head ++ [brace])).valid = (ofTokens head).valid ∧
      (ofTokens head).valid ∧ (ofTokens (head ++ [brace])).valid := by
  intro brace head shape kinds
  obtain ⟨_, starts, _, any_shapes, two_tokens, appended⟩ := leading_tokens_decide head
  have listed : shape ∈ Shape.catalog := by decide
  have valid : (ofTokens head).valid := by decide
  have among : [shape] ⊆ Shape.catalog := List.cons_subset.mpr ⟨listed, List.nil_subset _⟩
  exact ⟨listed, by decide, starts shape listed (by decide), among, any_shapes [shape] among,
    rfl, by decide, two_tokens _ rfl, valid, appended [brace] valid⟩

end Verdict
end NovaLint
