import NovaLint.Proofs.Check.Recast

/-!
# Where two programs meet

A program may stand in front of another one.  If its last statement is complete, no construct
reaches over the seam, so each place looks as it does in its own program.  A program whose blocks
are all closed leaves nothing open behind it, and a program that speaks of other names and lines
finds nothing known of them: what the walk knows at the seam is as good as what it knows at the
start.
-/

namespace NovaLint

namespace Site

variable {tokens : List Token} {site other : Site}

/-- The place with more tokens behind it. -/
def ahead (more : List Token) (site : Site) : Site := { site with rest := site.rest ++ more }

@[simp]
theorem kind_ahead (more : List Token) (site : Site) : (site.ahead more).kind = site.kind := rfl

/-- The stream that begins at the place ends in a semicolon. -/
def Sealed (site : Site) : Prop :=
  ∀ last ∈ (site.token :: site.rest).getLast?, last.kind = .semicolon

theorem allAfter_append (previous? : Option Token) (front back : List Token) :
    allAfter previous? (front ++ back) =
      (allAfter previous? front).map (·.ahead back) ++
        allAfter (front.getLast?.or previous?) back := by
  induction front generalizing previous? with
  | nil => rfl
  | cons token rest ih =>
      have last_eq : (token :: rest).getLast?.or previous? = rest.getLast?.or (some token) := by
        rw [List.getLast?_cons]
        cases rest.getLast? <;> rfl
      rw [List.cons_append, allAfter, ih, last_eq]
      rfl

/-- The places of two streams, one behind the other. -/
theorem all_append (front back : List Token) :
    all (front ++ back) = (all front).map (·.ahead back) ++ allAfter front.getLast? back := by
  rw [all, allAfter_append, Option.or_none]
  rfl

theorem sealed_of_mem_allAfter {previous? : Option Token}
    (ends : ∀ last ∈ tokens.getLast?, last.kind = .semicolon)
    (member : site ∈ allAfter previous? tokens) : site.Sealed := by
  induction tokens generalizing previous? with
  | nil => exact absurd member List.not_mem_nil
  | cons token rest ih =>
      rcases List.mem_cons.mp member with rfl | later
      · exact ends
      · refine ih (fun last last_eq => ends last ?_) later
        rw [Option.mem_def] at last_eq ⊢
        rw [List.getLast?_cons, last_eq, Option.getD_some]

namespace Sealed

theorem kind_of_rest_eq_nil (isSealed : site.Sealed) (alone : site.rest = []) :
    site.kind = .semicolon :=
  isSealed site.token (by simp [alone])

theorem kind_of_rest_eq_singleton (isSealed : site.Sealed) {next : Token}
    (alone : site.rest = [next]) : next.kind = .semicolon :=
  isSealed next (by simp [alone])

/-- Only the last place of a sealed stream sees another next token. -/
theorem next?_ahead (isSealed : site.Sealed) (not_last : site.kind ≠ .semicolon)
    (more : List Token) : (site.ahead more).next? = site.next? := by
  have some_left : site.rest ≠ [] := mt isSealed.kind_of_rest_eq_nil not_last
  rw [next?, next?, ahead, List.head?_append_of_ne_nil _ some_left]

theorem nextIs_ahead (isSealed : site.Sealed) (not_last : site.kind ≠ .semicolon)
    (more : List Token) (kind : Kind) : (site.ahead more).nextIs kind = site.nextIs kind := by
  rw [nextIs, isSealed.next?_ahead not_last, nextIs]

theorem declaration?_ahead (isSealed : site.Sealed) (more : List Token) :
    (site.ahead more).declaration? = site.declaration? := by
  by_cases last : site.kind = .semicolon
  · rw [declaration?, declaration?, kind_ahead, last]
    rfl
  · rw [declaration?, declaration?, kind_ahead, isSealed.next?_ahead last]

theorem assignedValue?_ahead (isSealed : site.Sealed) (more : List Token) :
    (site.ahead more).assignedValue? = site.assignedValue? := by
  unfold assignedValue?
  rw [kind_ahead]
  by_cases isName : site.kind = .identifier
  · rw [isSealed.nextIs_ahead (by simp [isName])]
    by_cases assigns : site.nextIs .assign
    · have two_left : 1 < site.rest.length := by
        match rest_eq : site.rest with
        | [] => simp [nextIs, next?, rest_eq] at assigns
        | [next] =>
            have ends := isSealed.kind_of_rest_eq_singleton rest_eq
            simp [nextIs, next?, rest_eq, ends] at assigns
        | _ :: _ :: _ => simp
      rw [if_pos ⟨isName, assigns⟩, if_pos ⟨isName, assigns⟩, ahead,
        List.getElem?_append_left two_left]
    · rw [if_neg fun both => assigns both.2, if_neg fun both => assigns both.2]
  · rw [if_neg fun both => isName both.1, if_neg fun both => isName both.1]

theorem operands?_ahead (isSealed : site.Sealed) (more : List Token) :
    (site.ahead more).operands? = site.operands? := by
  unfold operands?
  rw [kind_ahead]
  by_cases operates : site.kind.isArithmetic
  · have not_last : site.kind ≠ .semicolon := fun last => absurd (last ▸ operates) (by decide)
    rw [isSealed.next?_ahead not_last]
    rfl
  · rw [if_neg operates, if_neg operates]

theorem returnedValue?_ahead (isSealed : site.Sealed) (more : List Token) :
    (site.ahead more).returnedValue? = site.returnedValue? := by
  unfold returnedValue?
  rw [kind_ahead]
  by_cases returns : site.kind = .returnWord
  · rw [isSealed.next?_ahead (by simp [returns])]
  · rw [if_neg returns, if_neg returns]

/-- A semicolon is no return type, so no header reaches over the seam. -/
theorem header?_ahead (isSealed : site.Sealed) (more : List Token) :
    (site.ahead more).header? = site.header? := by
  unfold header?
  rw [kind_ahead, ahead]
  by_cases isFunction : site.kind = .functionWord
  · match rest_eq : site.rest with
    | [] => exact absurd (isSealed.kind_of_rest_eq_nil rest_eq) (by simp [isFunction])
    | [next] =>
        have ends := isSealed.kind_of_rest_eq_singleton rest_eq
        cases more <;> simp [isFunction, ends, ValueType.ofTypeName?]
    | _ :: _ :: _ => simp [isFunction]
  · simp [isFunction]

theorem occurrence?_ahead (isSealed : site.Sealed) (more : List Token)
    (lastClosed? : Option Control) :
    (site.ahead more).occurrence? lastClosed? = site.occurrence? lastClosed? := by
  unfold occurrence?
  rw [kind_ahead]
  split
  · next elseWord => rw [isSealed.nextIs_ahead (by simp [elseWord])]
  all_goals rfl

end Sealed

theorem takeWhile_append_of_forall_not {α : Type} {items more : List α} {keep : α → Bool}
    (stops : ∀ item ∈ more, ¬ keep item) :
    (items ++ more).takeWhile keep = items.takeWhile keep := by
  induction items with
  | nil =>
      cases more with
      | nil => rfl
      | cons item more => exact List.takeWhile_cons_of_neg (stops item List.mem_cons_self)
  | cons item items ih => rw [List.cons_append, List.takeWhile_cons, List.takeWhile_cons, ih]

/-- The tokens on the line of a place are those of its own stream, if the lines behind are
others. -/
theorem restOfLine_ahead {more : List Token}
    (apart : ∀ token ∈ more, site.token.line ≠ token.line) :
    (site.ahead more).restOfLine = site.restOfLine := by
  rw [restOfLine, restOfLine, ahead, List.drop_append]
  refine takeWhile_append_of_forall_not fun token member same => ?_
  exact apart token (List.mem_of_mem_drop member) (by simpa using Eq.symm (of_decide_eq_true same))

/-- A place looks the same in front of another stream. -/
theorem similar_ahead (within : site.Within tokens) (isSealed : site.Sealed) {more : List Token}
    (apart : ∀ token ∈ more, site.token.line ≠ token.line) :
    site.Similar .same tokens (site.ahead more) :=
  have same := similar_same within
  { toWithin := within
    token_eq := rfl
    declaration_eq := (isSealed.declaration?_ahead more).trans same.declaration_eq
    value_eq := (isSealed.assignedValue?_ahead more).trans same.value_eq
    returned_eq := (isSealed.returnedValue?_ahead more).trans same.returned_eq
    header_eq := (isSealed.header?_ahead more).trans same.header_eq
    operands_eq := by
      rw [isSealed.operands?_ahead]
      exact same.operands_eq
    opening_eq := fun needed => isSealed.nextIs_ahead (fun last => by
      simp [needsCondition, last] at needed) more .leftParen
    closing_eq := fun _ => by rw [restOfLine_ahead apart]
    separators_eq := fun _ => by rw [separators, restOfLine_ahead apart, separators]
    occurrence_eq := fun lastClosed? => isSealed.occurrence?_ahead more lastClosed? }

/-- The first place of a stream looks the same behind the end of a statement. -/
theorem similar_behind {token : Token} {rest : List Token} {previous? : Option Token}
    (within : Within tokens ⟨none, token, rest⟩)
    (ends : ∀ last ∈ previous?, last.kind = .semicolon) :
    Similar .same tokens ⟨none, token, rest⟩ ⟨previous?, token, rest⟩ :=
  have same := similar_same within
  have previousIs_eq : ∀ kind, kind ≠ .semicolon →
      previousIs ⟨previous?, token, rest⟩ kind = false := fun kind other => by
    cases previous? with
    | none => rfl
    | some last => simp [previousIs, ends last rfl, other.symm]
  { toWithin := within
    token_eq := rfl
    declaration_eq := same.declaration_eq
    value_eq := same.value_eq
    returned_eq := same.returned_eq
    header_eq := same.header_eq
    operands_eq := .inr ⟨fun _ nothing => absurd nothing (Option.not_mem_none _),
      fun last before => by
        rw [ends last before]
        exact ⟨by decide, rfl⟩⟩
    opening_eq := fun _ => rfl
    closing_eq := fun _ => rfl
    separators_eq := fun _ => rfl
    occurrence_eq := fun lastClosed? => by
      unfold occurrence?
      rw [previousIs_eq .elseWord (by decide), previousIs_eq .rightBrace (by decide)]
      rfl }

/-- The places of a stream look the same in front of another one. -/
theorem forall₂_similar_ahead {front back : List Token}
    (ends : ∀ last ∈ front.getLast?, last.kind = .semicolon)
    (apart : ∀ token ∈ front, ∀ other ∈ back, token.line ≠ other.line) :
    List.Forall₂ (Similar .same front) (all front) ((all front).map (·.ahead back)) := by
  rw [List.forall₂_map_right_iff, List.forall₂_same]
  intro site member
  have within := within_of_mem_all member
  exact similar_ahead within (sealed_of_mem_allAfter ends member)
    (apart site.token within.token_mem)

/-- The places of a stream look the same behind the end of a statement. -/
theorem forall₂_similar_behind {previous? : Option Token}
    (ends : ∀ last ∈ previous?, last.kind = .semicolon) (back : List Token) :
    List.Forall₂ (Similar .same back) (all back) (allAfter previous? back) := by
  cases back with
  | nil => exact .nil
  | cons token rest =>
      have within : ∀ site ∈ all (token :: rest), site.Within (token :: rest) :=
        fun _ => within_of_mem_all
      obtain ⟨within_first, within_later⟩ := List.forall_mem_cons.mp within
      refine .cons (similar_behind within_first ends) (List.forall₂_same.mpr ?_)
      exact fun site member => similar_same (within_later site member)

end Site

/-- All that is declared or assigned at a place belongs to a stream. -/
structure Site.Concerns (tokens : List Token) (site : Site) : Prop where
  token_mem : site.token ∈ tokens
  declared_mem : ∀ name type, site.declaration? = some (name, type) → name ∈ tokens

theorem Site.Similar.concerns {tokens : List Token} {site other : Site}
    (similar : site.Similar .same tokens other) : other.Concerns tokens where
  token_mem := by
    rw [similar.token_eq]
    exact similar.token_mem
  declared_mem name type declares := by
    rw [similar.declaration_eq, Option.map_eq_some_iff] at declares
    obtain ⟨⟨_, _⟩, declares, same⟩ := declares
    obtain ⟨rfl, -⟩ := Prod.mk.inj same
    exact similar.rest_mem _ (of_declaration? declares).1

theorem Site.concerns_of_forall₂ {tokens : List Token} {sites others : List Site}
    (similar : List.Forall₂ (Site.Similar .same tokens) sites others) :
    ∀ other ∈ others, other.Concerns tokens := by
  induction similar with
  | nil => exact fun _ member => absurd member List.not_mem_nil
  | cons here _ ih => exact List.forall_mem_cons.mpr ⟨here.concerns, ih⟩

namespace Walk

variable {tokens : List Token} {name : String}

theorem lookup?_symbolsBehind_of_concerns {site : Site} (concerns : site.Concerns tokens)
    (absent : name ∉ (Names.occurrences tokens).map (·.text)) (walk : Walk) :
    (walk.symbolsBehind site).lookup? name = walk.symbols.lookup? name := by
  have apart : ∀ token ∈ tokens, token.kind = .identifier → name ≠ token.text := by
    rintro token member isName rfl
    exact absent (Names.text_mem_occurrences member isName)
  rcases symbolsBehind_cases walk site with
    ⟨declared, type, _, declares, _, _, behind⟩ | ⟨type, value, _, assigns, _, behind⟩ |
    ⟨_, _, behind⟩
  · have isName := (Site.of_declaration? declares).2
    rw [behind, SymbolTable.lookup?_declare,
      if_neg (apart declared (concerns.declared_mem _ _ declares) isName)]
  · simp only [assignment?, Option.bind_eq_bind, Option.bind_eq_some_iff] at assigns
    obtain ⟨_, stores, _⟩ := assigns
    rw [behind, SymbolTable.lookup?_assign,
      if_neg (apart site.token concerns.token_mem (Site.of_assignedValue? stores).2)]
  · rw [behind]

/-- What is known of a name is not changed by places that do not speak of it. -/
theorem lookup?_run_of_concerns {sites : List Site}
    (concerns : ∀ site ∈ sites, site.Concerns tokens)
    (absent : name ∉ (Names.occurrences tokens).map (·.text)) (walk : Walk) :
    (walk.run sites).symbols.lookup? name = walk.symbols.lookup? name := by
  induction sites generalizing walk with
  | nil => rfl
  | cons site later ih =>
      obtain ⟨concerns_here, concerns_later⟩ := List.forall_mem_cons.mp concerns
      rw [run_cons, ih concerns_later]
      exact lookup?_symbolsBehind_of_concerns concerns_here absent walk

/-- The keys of findings that are not to be repeated. -/
def reported (walk : Walk) : List (String × Nat) := walk.clashes ++ walk.refused

theorem line_of_mem_reported_step {walk : Walk} {site : Site} {key : String × Nat}
    (member : key ∈ (walk.step site).reported) :
    key ∈ walk.reported ∨ key.2 = site.token.line := by
  have here : Walk.key site = key → key.2 = site.token.line := fun same => same ▸ rfl
  simp only [reported, step, List.mem_append] at member ⊢
  rcases member with clashed | refused
  · split at clashed
    · rcases List.mem_cons.mp clashed with same | before
      · exact .inr (here same.symm)
      · exact .inl (.inl before)
    · exact .inl (.inl clashed)
  · split at refused
    · rcases List.mem_cons.mp refused with same | before
      · exact .inr (here same.symm)
      · exact .inl (.inr before)
    · exact .inl (.inr refused)

/-- What was reported was reported before or on the line of one of the places. -/
theorem line_of_mem_reported_run {walk : Walk} {sites : List Site} {key : String × Nat}
    (member : key ∈ (walk.run sites).reported) :
    key ∈ walk.reported ∨ ∃ site ∈ sites, key.2 = site.token.line := by
  induction sites generalizing walk with
  | nil => exact .inl member
  | cons site later ih =>
      rcases ih member with before | ⟨other, other_mem, line_eq⟩
      · exact (line_of_mem_reported_step before).imp id fun line_eq =>
          ⟨site, List.mem_cons_self, line_eq⟩
      · exact .inr ⟨other, List.mem_cons_of_mem site other_mem, line_eq⟩

end Walk

namespace Control.Tally

theorem run_append (tally : Tally) (front back : List Site) :
    tally.run (front ++ back) = (tally.run front).run back :=
  List.foldl_append

/-- Only a closing brace takes from the open structures. -/
theorem openBlocks_behind_ne_nil {tally : Tally} {site : Site}
    (not_closing : site.kind ≠ .rightBrace) (some_open : tally.openBlocks ≠ []) :
    (tally.behind site).openBlocks ≠ [] := by
  rw [behind, if_neg not_closing]
  split
  · exact List.cons_ne_nil _ _
  · exact some_open
  · exact some_open

theorem openBlocks_behind_functionWord {site : Site} (tally : Tally)
    (isFunction : site.kind = .functionWord) :
    (tally.behind site).openBlocks = .functionBlock :: tally.openBlocks := by
  have occurs : site.occurrence? tally.lastClosed? = some (.opens .functionBlock) := by
    rw [Site.occurrence?, isFunction]
    rfl
  rw [behind_of_opens tally occurs, openBlocks_enter]

/-- What was closed last plays no part in a stream that does not stand behind a closing brace. -/
theorem openBlocks_run_allAfter (tokens : List Token) {previous? : Option Token}
    {tally other : Tally} (same : other.openBlocks = tally.openBlocks)
    (agree : other.lastClosed? = tally.lastClosed? ∨
      ∀ last ∈ previous?, last.kind ≠ .rightBrace) :
    (other.run (Site.allAfter previous? tokens)).openBlocks =
      (tally.run (Site.allAfter previous? tokens)).openBlocks := by
  induction tokens generalizing previous? tally other with
  | nil => exact same
  | cons token rest ih =>
      let site : Site := ⟨previous?, token, rest⟩
      rw [Site.allAfter, run_cons, run_cons]
      by_cases closing : site.kind = .rightBrace
      · rw [behind_of_rightBrace other closing, behind_of_rightBrace tally closing]
        exact ih (by simp [same]) (.inl (by simp [same]))
      · -- What was closed last is read behind a closing brace only, which has just set it.
        have occurs_eq : site.occurrence? other.lastClosed? =
            site.occurrence? tally.lastClosed? := by
          rcases agree with closed_eq | not_behind
          · rw [closed_eq]
          · have not_behind : site.previousIs .rightBrace = false := by
              cases previous? with
              | none => rfl
              | some last => simp [site, Site.previousIs, not_behind last rfl]
            unfold Site.occurrence?
            simp only [not_behind, Bool.false_eq_true, false_and, if_false]
        refine ih ?_ (.inr fun last last_eq => Option.some.inj last_eq ▸ closing)
        change (other.behind site).openBlocks = (tally.behind site).openBlocks
        rw [behind, behind, if_neg closing, if_neg closing, occurs_eq]
        cases site.occurrence? tally.lastClosed? with
        | none => exact same
        | some occurrence => cases occurrence <;> simp [same]

end Control.Tally
end NovaLint
