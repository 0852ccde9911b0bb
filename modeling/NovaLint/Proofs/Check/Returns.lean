import NovaLint.Proofs.Check.Assignments
import NovaLint.Proofs.Check.Composition

/-!
# Functions and what they return

A function lasts from its header to the closing brace that leaves no brace open.  The walk keeps one
function only, the last whose header it has read, and forgets it when the depth of braces is back
where the header stood.  As long as functions begin outside all braces this is the function around
the place, however deeply blocks are nested in its body.
-/

namespace NovaLint

/-- Number of braces that are open before a place of a stream. -/
def depthBefore (tokens : List Token) (place : Nat) : Nat :=
  (Bracket.brace.balance (tokens.take place)).opened -
    (Bracket.brace.balance (tokens.take place)).closed

/-- The name and the return type of the function whose header begins at a place of a stream. -/
def headerAt? (tokens : List Token) (place : Nat) : Option (String × ValueType) := do
  let keyword ← tokens[place]?
  let typeName ← tokens[place + 1]?
  let name ← tokens[place + 2]?
  let returns ← ValueType.ofTypeName? typeName.kind
  if keyword.kind = .functionWord ∧ name.kind = .identifier then some (name.text, returns) else none

/-- A closing brace stands at a place of a stream and leaves no brace open. -/
def ClosesAll (tokens : List Token) (place : Nat) : Prop :=
  tokens[place]?.any (·.kind == .rightBrace) ∧ depthBefore tokens (place + 1) = 0

instance (tokens : List Token) : DecidablePred (ClosesAll tokens) :=
  fun _ => inferInstanceAs (Decidable (_ ∧ _))

/-- No brace between two places leaves no brace open, so a function that begins at the first place
has not ended at the second one. -/
def LastsUpTo (tokens : List Token) (place header : Nat) : Prop :=
  ∀ between < place, header < between → ¬ ClosesAll tokens between

instance (tokens : List Token) (place : Nat) : DecidablePred (LastsUpTo tokens place) :=
  fun _ => inferInstanceAs (Decidable (∀ _ < _, _))

/-- The function around a place: of the headers before the place, the last one whose function has
not ended. -/
def functionBefore? (tokens : List Token) (place : Nat) : Option (String × ValueType) :=
  ((List.range place).filterMap fun header =>
    if LastsUpTo tokens place header then headerAt? tokens header else none).getLast?

/-- What is wrong with the value that is returned at a place, if its type is not the one that the
function around the place returns. -/
def returnFindingAt? (tokens : List Token) (place : Nat) : Option Finding := do
  let keyword ← tokens[place]?
  let value ← tokens[place + 1]?
  let (name, expected) ← functionBefore? tokens place
  let given := valueTypeBefore tokens place value
  if keyword.kind = .returnWord ∧ given ≠ .unknown ∧ ¬ expected.accepts given then
    some ((Cause.incompatibleReturn name expected given).onLine keyword.line)
  else none

/-- What is wrong with the value that is returned at a place, if it is held against a function. -/
def returnFindingAgainst (tokens : List Token) (place : Nat) (function : String × ValueType) :
    Option Finding := do
  let keyword ← tokens[place]?
  let value ← tokens[place + 1]?
  let given := valueTypeBefore tokens place value
  if keyword.kind = .returnWord ∧ given ≠ .unknown ∧ ¬ function.2.accepts given then
    some ((Cause.incompatibleReturn function.1 function.2 given).onLine keyword.line)
  else none

theorem returnFindingAt?_eq (tokens : List Token) (place : Nat) :
    returnFindingAt? tokens place =
      (functionBefore? tokens place).bind (returnFindingAgainst tokens place) := by
  rw [returnFindingAt?]
  cases functionBefore? tokens place with
  | none => cases tokens[place]? <;> cases tokens[place + 1]? <;> rfl
  | some function => rfl

/-- The place alone tells which function begins there. -/
theorem headerAt?_eq (tokens : List Token) (place : Nat) :
    headerAt? tokens place = (Site.all tokens)[place]?.bind Site.header? := by
  rw [Site.all, Site.getElem?_allAfter, headerAt?]
  have next : tokens[place + 1]? = (tokens.drop (place + 1))[0]? := by rw [List.getElem?_drop]
  have second : tokens[place + 2]? = (tokens.drop (place + 1))[1]? := by rw [List.getElem?_drop]
  rw [next, second]
  cases tokens[place]? with
  | none => rfl
  | some keyword =>
      rw [Option.map_some, Option.bind_some, Site.header?]
      rcases tokens.drop (place + 1) with _ | ⟨typeName, _ | ⟨name, behind⟩⟩
      · simp
      · simp
      · cases Decidable.em (keyword.kind = .functionWord) with
        | inl begins => cases typed : ValueType.ofTypeName? typeName.kind <;>
            simp [Site.kind, typed, begins]
        | inr other => cases typed : ValueType.ofTypeName? typeName.kind <;>
            simp [Site.kind, typed, other]

/-- A function that begins at a place is the function behind it.  Otherwise the function before the
place lasts on, unless a brace at the place closes all. -/
theorem functionBefore?_succ (tokens : List Token) (place : Nat) :
    functionBefore? tokens (place + 1) =
      (headerAt? tokens place).or
        (if ClosesAll tokens place then none else functionBefore? tokens place) := by
  have here : LastsUpTo tokens (place + 1) place := by
    intro between within behind
    omega
  rw [functionBefore?, filterMap_range_succ, if_pos here, List.getLast?_append]
  congr 1
  · cases headerAt? tokens place <;> rfl
  · split
    · next closes =>
        -- A header further ahead is behind a brace that closes all, which is the one at the place.
        have ended : (List.range place).filterMap (fun header =>
            if LastsUpTo tokens (place + 1) header then headerAt? tokens header
            else none) = [] := by
          apply List.filterMap_eq_nil_iff.mpr
          intro header before
          apply if_neg
          intro lasts
          exact lasts place (Nat.lt_succ_self place) (List.mem_range.mp before) closes
        rw [ended]
        rfl
    · next lasts_on =>
        have same : ∀ header ∈ List.range place,
            (if LastsUpTo tokens (place + 1) header then headerAt? tokens header else none) =
              if LastsUpTo tokens place header then headerAt? tokens header else none := by
          intro header before
          congr 1
          apply propext
          constructor
          · intro lasts between within behind
            exact lasts between (Nat.lt_succ_of_lt within) behind
          · intro lasts between within behind
            rcases Nat.lt_succ_iff_lt_or_eq.mp within with earlier | rfl
            · exact lasts between earlier behind
            · exact lasts_on
        rw [functionBefore?, List.filterMap_congr same]

/-- A header begins a function, and of the other tokens only a closing brace can end one. -/
theorem Scope.function?_step (scope : Scope) (site : Site) :
    (scope.step site).function? =
      (site.header?.map fun header => ⟨header.1, header.2, scope.depth⟩).or
        (if site.kind = .rightBrace then scope.leave.function? else scope.function?) := by
  cases begins : site.header? with
  | some header =>
      have isFunction := Site.of_header? begins
      rw [step, isFunction]
      simp [begins]
  | none =>
      rw [Option.map_none, Option.none_or, step]
      split
      · next opening => simp [opening, enter]
      · next closing => rw [if_pos closing]
      · next not_opening not_closing => rw [begins, if_neg not_closing]

namespace Report

variable {initial : Char} {tokens : List Token}

theorem FunctionsOutside.depth_eq (outside : FunctionsOutside tokens) (initial : Char)
    {count : Nat} (within : count ≤ tokens.length) :
    (walkAfter initial tokens count).scope.depth = depthBefore tokens count := by
  have counted := (outside.follows initial within).depth_eq
  rw [depthBefore]
  omega

/-- As long as functions begin outside all braces, the walk knows the function around each place. -/
theorem FunctionsOutside.function?_eq (outside : FunctionsOutside tokens) (initial : Char)
    {count : Nat} (within : count ≤ tokens.length) :
    (walkAfter initial tokens count).scope.function? =
      (functionBefore? tokens count).map fun header => ⟨header.1, header.2, 0⟩ := by
  induction count with
  | zero => rfl
  | succ place ih =>
      have known := ih (Nat.le_of_succ_le within)
      have depth_here := outside.depth_eq initial (Nat.le_of_succ_le within)
      have depth_behind := outside.depth_eq initial within
      obtain ⟨site, found⟩ : ∃ site, (Site.all tokens)[place]? = some site :=
        ⟨_, List.getElem?_eq_getElem ((Site.length_all tokens).symm ▸ within)⟩
      have token_at := Site.tokenAt_of_all found
      rw [walkAfter_succ, found, Option.elim_some, Walk.scope_step] at depth_behind ⊢
      rw [Scope.function?_step, functionBefore?_succ, headerAt?_eq, found, Option.bind_some,
        Option.map_or]
      congr 1
      · cases begins : site.header? with
        | none => rfl
        | some header =>
            have begins_outside : (walkAfter initial tokens place).scope.depth = 0 := by
              have balanced := outside.functions place within
                ((List.getElem?_eq_some_iff.mp token_at).2 ▸ Site.of_header? begins)
              rw [depth_here, depthBefore, balanced, Nat.sub_self]
            rw [begins_outside]
      · cases Decidable.em (site.kind = .rightBrace) with
        | inr not_closing =>
            have lasts_on : ¬ ClosesAll tokens place := by
              rw [ClosesAll, token_at, Option.any_some, beq_iff_eq]
              exact fun closes => not_closing closes.1
            rw [if_neg not_closing, if_neg lasts_on, known]
        | inl closing =>
            -- The depth behind the brace is where the function stands, so it ends there or not.
            have closes_iff : ClosesAll tokens place ↔
                (walkAfter initial tokens place).scope.depth - 1 = 0 := by
              rw [Scope.step, closing] at depth_behind
              rw [ClosesAll, token_at, Option.any_some, beq_iff_eq, ← depth_behind]
              exact and_iff_right closing
            rw [if_pos closing, Scope.leave, known]
            split
            · next closes =>
                rw [closes_iff.mp closes]
                cases functionBefore? tokens place <;> rfl
            · next lasts_on =>
                have still_open := mt closes_iff.mpr lasts_on
                cases functionBefore? tokens place with
                | none => rfl
                | some header =>
                    rw [Option.map_some, Option.filter_some, if_pos]
                    rw [bne_iff_ne]
                    exact Ne.symm still_open

/-- What a function returns has a type. -/
theorem type_ne_unknown_of_headerAt? {place : Nat} {name : String} {returns : ValueType}
    (begins : headerAt? tokens place = some (name, returns)) : returns ≠ .unknown := by
  simp only [headerAt?, Option.bind_eq_bind, Option.bind_eq_some_iff] at begins
  obtain ⟨_, _, _, _, _, _, type, typed, begins⟩ := begins
  split at begins
  · obtain ⟨-, rfl⟩ := Prod.mk.inj (Option.some.inj begins)
    exact ValueType.ofTypeName?_ne_unknown typed
  · cases begins

theorem type_ne_unknown_of_functionBefore? {place : Nat} {name : String} {returns : ValueType}
    (around : functionBefore? tokens place = some (name, returns)) : returns ≠ .unknown := by
  obtain ⟨header, _, begins⟩ := List.mem_filterMap.mp (List.mem_of_getLast? around)
  split at begins
  · exact type_ne_unknown_of_headerAt? begins
  · cases begins

/-- A returned value is held against the function that the walk knows. -/
theorem returnFindings_eq {initial : Char} {place : Nat} {site : Site}
    (found : (Site.all tokens)[place]? = some site)
    (typed : ∀ function ∈ (walkAfter initial tokens place).scope.function?,
      function.returns ≠ .unknown) :
    (walkAfter initial tokens place).returnFindings site =
      ((walkAfter initial tokens place).scope.function?.bind fun function =>
        returnFindingAgainst tokens place (function.name, function.returns)).toList := by
  have types : ∀ token, (walkAfter initial tokens place).symbols.typeOfToken token =
      valueTypeBefore tokens place token := typeOfToken_symbolsAfter initial tokens place
  rw [Site.all, Site.getElem?_allAfter] at found
  obtain ⟨keyword, here, rfl⟩ := Option.map_eq_some_iff.mp found
  rw [Walk.returnFindings, Site.returnedValue?, Site.next?, List.head?_drop, Site.kind]
  cases known : (walkAfter initial tokens place).scope.function? with
  | none => rfl
  | some function =>
      have returns_known := typed function known
      rw [Option.bind_some, returnFindingAgainst, here, Option.bind_eq_bind, Option.bind_some]
      cases tokens[place + 1]? with
      | none => simp
      | some value =>
          cases Decidable.em (keyword.kind = .returnWord) with
          | inl returns =>
              simp only [returns, if_true, types, ValueType.clashes_iff, returns_known, ne_eq,
                not_false_eq_true, true_and, Option.bind_some]
              split <;> rfl
          | inr other => simp [other]

theorem returnFindings_walkAfter (outside : FunctionsOutside tokens) (initial : Char) {place : Nat}
    {site : Site} (found : (Site.all tokens)[place]? = some site) :
    (walkAfter initial tokens place).returnFindings site =
      (returnFindingAt? tokens place).toList := by
  have within : place ≤ tokens.length :=
    Nat.le_of_lt (List.getElem?_eq_some_iff.mp (Site.tokenAt_of_all found)).1
  have function_eq := outside.function?_eq initial within
  rw [returnFindings_eq found, function_eq, returnFindingAt?_eq, Option.bind_map]
  · rfl
  · intro function known
    rw [function_eq] at known
    obtain ⟨header, around, rfl⟩ := Option.map_eq_some_iff.mp known
    exact type_ne_unknown_of_functionBefore? around

/-- Two functions that return values of the wrong type, one of them behind a nested block, and a
value that is returned outside. -/
def twoFunctions : String :=
  "function int _f() \x7b \x7b \x7d return 'c'; \x7d\nreturn true;\n" ++
    "function char _g() \x7b return 2; \x7d"

end Report
end NovaLint
