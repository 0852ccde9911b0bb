import NovaLint.Proofs.Check.Headers
import NovaLint.Proofs.Check.Returns
import NovaLint.Proofs.Control.Nesting

/-!
# Functions within functions

The walk keeps one function only: the last whose header it has read, as long as no closing brace has
brought the depth of braces back to where that header stood.  A function that is defined within the
body of another one takes its place, and behind the brace that ends it no function is left.  So the
rest of the outer body is held against nothing, or against a header in the inner body that never got
a body of its own.
-/

namespace NovaLint

/-- The number of open braces behind one more token.  A brace that closes nothing is passed over. -/
def braceStep (depth : Nat) (token : Token) : Nat :=
  match token.kind with
  | .leftBrace => depth + 1
  | .rightBrace => depth - 1
  | _ => depth

/-- The number of open braces behind some tokens. -/
def openBraces (tokens : List Token) : Nat := tokens.foldl braceStep 0

/-- No brace closes what is not open, and in the end none is open. -/
structure WellBraced (tokens : List Token) : Prop where
  braces_le : ∀ count ≤ tokens.length,
    (Bracket.brace.balance (tokens.take count)).closed ≤
      (Bracket.brace.balance (tokens.take count)).opened
  braces_eq : (Bracket.brace.balance tokens).opened = (Bracket.brace.balance tokens).closed

theorem openBraces_concat (passed : List Token) (token : Token) :
    openBraces (passed ++ [token]) = braceStep (openBraces passed) token := by
  rw [openBraces, List.foldl_append, ← openBraces]
  rfl

/-- Where no brace closes what was opened before, the open braces are counted. -/
theorem openBraces_append {part : List Token} (front : List Token)
    (braces_le : ∀ count ≤ part.length, (Bracket.brace.balance (part.take count)).closed ≤
      (Bracket.brace.balance (part.take count)).opened) :
    openBraces (front ++ part) + (Bracket.brace.balance part).closed =
      openBraces front + (Bracket.brace.balance part).opened := by
  induction part using List.reverseRecOn with
  | nil => rw [List.append_nil]; rfl
  | append_singleton part last ih =>
      have counted := ih fun count within => by
        have before := braces_le count (by rw [List.length_append]; omega)
        rwa [List.take_append_of_le_length within] at before
      have whole := braces_le (part ++ [last]).length le_rfl
      have opened_eq : (Bracket.brace.balance (part ++ [last])).opened =
          (Bracket.brace.balance part).opened + if last.kind = .leftBrace then 1 else 0 :=
        Bracket.opened_concat part ⟨none, last, []⟩
      have closed_eq : (Bracket.brace.balance (part ++ [last])).closed =
          (Bracket.brace.balance part).closed + if last.kind = .rightBrace then 1 else 0 :=
        Bracket.closed_concat part ⟨none, last, []⟩
      rw [List.take_length] at whole
      rw [← List.append_assoc, openBraces_concat, braceStep]
      split
      · next opening =>
          rw [opening] at opened_eq closed_eq
          simp only [if_true, reduceCtorEq, if_false] at opened_eq closed_eq
          omega
      · next closing =>
          rw [closing] at opened_eq closed_eq
          simp only [if_true, reduceCtorEq, if_false] at opened_eq closed_eq
          omega
      · next not_opening not_closing =>
          rw [if_neg not_opening] at opened_eq
          rw [if_neg not_closing] at closed_eq
          omega

theorem WellBraced.openBraces_eq_zero {tokens : List Token} (wellBraced : WellBraced tokens) :
    openBraces tokens = 0 := by
  have counted := openBraces_append [] wellBraced.braces_le
  rw [List.nil_append, wellBraced.braces_eq] at counted
  exact Nat.add_right_cancel counted

/-- Inside of well-braced tokens as many braces more are open as if nothing stood before. -/
theorem WellBraced.openBraces_append_take {part : List Token} (wellBraced : WellBraced part)
    (front : List Token) {count : Nat} (within : count ≤ part.length) :
    openBraces (front ++ part.take count) = openBraces front + openBraces (part.take count) := by
  have braces_le : ∀ shorter ≤ (part.take count).length,
      (Bracket.brace.balance ((part.take count).take shorter)).closed ≤
        (Bracket.brace.balance ((part.take count).take shorter)).opened := by
    intro shorter shorter_within
    rw [List.length_take_of_le within] at shorter_within
    rw [List.take_take, min_eq_left shorter_within]
    exact wellBraced.braces_le shorter (shorter_within.trans within)
  have behind_front := openBraces_append front braces_le
  have alone := openBraces_append [] braces_le
  rw [List.nil_append, show openBraces [] = 0 from rfl] at alone
  omega

/-- A closing brace stands at the second place and brings the depth back to where the header at the
first place stands. -/
def EndsAt (tokens : List Token) (header place : Nat) : Prop :=
  tokens[place]?.any (·.kind == .rightBrace) ∧
    openBraces (tokens.take (place + 1)) = openBraces (tokens.take header)

instance (tokens : List Token) (header place : Nat) : Decidable (EndsAt tokens header place) :=
  inferInstanceAs (Decidable (_ ∧ _))

theorem endsAt_iff {tokens : List Token} {place : Nat} {token : Token}
    (found : tokens[place]? = some token) (header : Nat) :
    EndsAt tokens header place ↔ token.kind = .rightBrace ∧
      openBraces (tokens.take (place + 1)) = openBraces (tokens.take header) := by
  rw [EndsAt, found, Option.any_some, beq_iff_eq]

/-- The function that begins at the header has ended before the place. -/
def HasEnded (tokens : List Token) (header place : Nat) : Prop :=
  ∃ between < place, header < between ∧ EndsAt tokens header between

instance (tokens : List Token) (header place : Nat) : Decidable (HasEnded tokens header place) :=
  inferInstanceAs (Decidable (∃ _ < _, _))

/-- The last header before a place: where it stands, and the name and the return type of its
function. -/
def lastHeader? (tokens : List Token) (place : Nat) : Option (Nat × String × ValueType) :=
  ((List.range place).filterMap fun header => (headerAt? tokens header).map (header, ·)).getLast?

/-- The last header before a place, if its function has not ended. -/
def keptHeader? (tokens : List Token) (place : Nat) : Option (Nat × String × ValueType) :=
  (lastHeader? tokens place).filter fun last => ¬ HasEnded tokens last.1 place

/-- The function that is kept at a place: its name and its return type. -/
def keptFunction? (tokens : List Token) (place : Nat) : Option (String × ValueType) :=
  (keptHeader? tokens place).map (·.2)

theorem lastHeader?_succ (tokens : List Token) (place : Nat) :
    lastHeader? tokens (place + 1) =
      ((headerAt? tokens place).map (place, ·)).or (lastHeader? tokens place) := by
  rw [lastHeader?, filterMap_range_succ, List.getLast?_append, ← lastHeader?]
  cases headerAt? tokens place <;> rfl

theorem of_lastHeader? {tokens : List Token} {place : Nat} {last : Nat × String × ValueType}
    (found : lastHeader? tokens place = some last) :
    last.1 < place ∧ headerAt? tokens last.1 = some last.2 := by
  obtain ⟨header, before, mapped⟩ := List.mem_filterMap.mp (List.mem_of_getLast? found)
  obtain ⟨function, begins, rfl⟩ := Option.map_eq_some_iff.mp mapped
  exact ⟨List.mem_range.mp before, begins⟩

theorem kind_of_headerAt? {tokens : List Token} {place : Nat} {function : String × ValueType}
    (begins : headerAt? tokens place = some function) :
    ∃ keyword, tokens[place]? = some keyword ∧ keyword.kind = .functionWord := by
  rw [headerAt?_eq] at begins
  obtain ⟨site, found, begins⟩ := Option.bind_eq_some_iff.mp begins
  exact ⟨site.token, Site.tokenAt_of_all found, Site.of_header? begins⟩

theorem hasEnded_succ (tokens : List Token) {header place : Nat} (before : header < place) :
    HasEnded tokens header (place + 1) ↔
      HasEnded tokens header place ∨ EndsAt tokens header place := by
  constructor
  · rintro ⟨between, within, behind, ends⟩
    rcases Nat.lt_succ_iff_lt_or_eq.mp within with earlier | rfl
    · exact .inl ⟨between, earlier, behind, ends⟩
    · exact .inr ends
  · rintro (⟨between, within, behind, ends⟩ | ends)
    · exact ⟨between, Nat.lt_succ_of_lt within, behind, ends⟩
    · exact ⟨place, Nat.lt_succ_self place, before, ends⟩

/-- A header at a place is kept behind it.  Otherwise the header before the place is kept on, unless
its function ends at the place. -/
theorem keptHeader?_succ (tokens : List Token) (place : Nat) :
    keptHeader? tokens (place + 1) =
      ((headerAt? tokens place).map (place, ·)).or
        ((keptHeader? tokens place).filter fun last => ¬ EndsAt tokens last.1 place) := by
  rw [keptHeader?, lastHeader?_succ, keptHeader?]
  cases headerAt? tokens place with
  | some function =>
      have lasts : ¬ HasEnded tokens place (place + 1) := by
        rintro ⟨between, within, behind, _⟩
        omega
      simp [lasts]
  | none =>
      rw [Option.map_none, Option.none_or, Option.none_or, Option.filter_filter]
      cases known : lastHeader? tokens place with
      | none => rfl
      | some last =>
          have ended_iff := hasEnded_succ tokens (of_lastHeader? known).1
          simp only [Option.filter_some, ended_iff, not_or, Bool.decide_and]

theorem Scope.depth_step (scope : Scope) (site : Site) :
    (scope.step site).depth = braceStep scope.depth site.token := by
  rw [step, braceStep, ← Site.kind]
  rcases site.header? with _ | ⟨name, returns⟩ <;> cases site.kind <;> rfl

namespace Report

variable (initial : Char) (tokens : List Token)

theorem depth_walkAfter (count : Nat) :
    (walkAfter initial tokens count).scope.depth = openBraces (tokens.take count) := by
  induction count with
  | zero => rfl
  | succ place ih =>
      rw [walkAfter_succ, Site.all, Site.getElem?_allAfter, List.take_add_one]
      cases tokens[place]? with
      | none => rw [Option.map_none, Option.elim_none, ih, Option.toList_none, List.append_nil]
      | some token =>
          rw [Option.map_some, Option.elim_some, Walk.scope_step, Scope.depth_step, ih,
            Option.toList_some, openBraces_concat]

/-- The walk keeps the function of the last header together with the depth at which the header
stands, until a closing brace leads back to this depth. -/
theorem function?_walkAfter (count : Nat) :
    (walkAfter initial tokens count).scope.function? =
      (keptHeader? tokens count).map fun last =>
        ⟨last.2.1, last.2.2, openBraces (tokens.take last.1)⟩ := by
  induction count with
  | zero => rfl
  | succ place ih =>
      have depth_here := depth_walkAfter initial tokens place
      have depth_behind := depth_walkAfter initial tokens (place + 1)
      rw [keptHeader?_succ, headerAt?_eq, Option.map_or]
      rw [walkAfter_succ] at depth_behind ⊢
      cases found : (Site.all tokens)[place]? with
      | none =>
          have beyond : tokens[place]? = none := by
            rwa [Site.all, Site.getElem?_allAfter, Option.map_eq_none_iff] at found
          rw [Option.elim_none, ih]
          cases keptHeader? tokens place <;> simp [EndsAt, beyond]
      | some site =>
          have token_at := Site.tokenAt_of_all found
          rw [found] at depth_behind
          rw [Option.elim_some, Walk.scope_step] at depth_behind ⊢
          rw [Scope.function?_step, Option.bind_some]
          congr 1
          · simp only [Option.map_map, depth_here]
            rfl
          · cases Decidable.em (site.kind = .rightBrace) with
            | inr not_closing =>
                have goes_on : ∀ header, ¬ EndsAt tokens header place := fun header ends =>
                  not_closing ((endsAt_iff token_at header).mp ends).1
                rw [if_neg not_closing, ih]
                cases keptHeader? tokens place <;> simp [goes_on]
            | inl closing =>
                -- The depth behind the brace is that of the header, so the function ends, or not.
                have depth_closed : (walkAfter initial tokens place).scope.depth - 1 =
                    openBraces (tokens.take (place + 1)) := by
                  rw [← depth_behind, Scope.depth_step, braceStep, ← Site.kind, closing]
                have ends_iff : ∀ header, EndsAt tokens header place ↔
                    openBraces (tokens.take header) = openBraces (tokens.take (place + 1)) := by
                  intro header
                  rw [endsAt_iff token_at, eq_comm (b := openBraces (tokens.take (place + 1)))]
                  exact and_iff_right closing
                rw [if_pos closing, Scope.leave, ih, depth_closed]
                cases keptHeader? tokens place with
                | none => rfl
                | some last =>
                    rw [Option.map_some, Option.filter_some, Option.filter_some]
                    simp only [ends_iff, bne_iff_ne, decide_eq_true_eq]
                    split <;> rfl

end Report

theorem type_ne_unknown_of_keptFunction? {tokens : List Token} {place : Nat}
    {function : String × ValueType} (kept : keptFunction? tokens place = some function) :
    function.2 ≠ .unknown := by
  obtain ⟨last, found, rfl⟩ := Option.map_eq_some_iff.mp kept
  exact Report.type_ne_unknown_of_headerAt? (of_lastHeader? (Option.mem_filter_iff.mp found).1).2

namespace Report

variable (initial : Char) (tokens : List Token)

/-- What is reported of the value that is returned at a place. -/
def returnsAt (place : Nat) : List Finding :=
  (walkFindingsAt initial tokens place).filter (·.code == .incompatibleReturn)

theorem findingsOf_incompatibleReturn :
    (ofTokens initial tokens).findingsOf .incompatibleReturn =
      (List.range tokens.length).flatMap (returnsAt initial tokens) :=
  findingsOf_walkFindingsAt (by decide) initial tokens

theorem keptFunction?_eq (place : Nat) :
    keptFunction? tokens place = (walkAfter initial tokens place).scope.function?.map
      fun function => (function.name, function.returns) := by
  rw [function?_walkAfter, Option.map_map]
  rfl

theorem returnFindings_of_kept {place : Nat} {site : Site}
    (found : (Site.all tokens)[place]? = some site) :
    (walkAfter initial tokens place).returnFindings site =
      ((keptFunction? tokens place).bind (returnFindingAgainst tokens place)).toList := by
  have kept_eq := keptFunction?_eq initial tokens place
  rw [returnFindings_eq found, kept_eq, Option.bind_map]
  · rfl
  · intro function known
    rw [Option.mem_def.mp known, Option.map_some] at kept_eq
    exact type_ne_unknown_of_keptFunction? kept_eq

/-- A returned value is held against the function that is kept there. -/
theorem returnsAt_eq (place : Nat) :
    returnsAt initial tokens place =
      ((keptFunction? tokens place).bind (returnFindingAgainst tokens place)).toList := by
  rw [returnsAt, walkFindingsAt]
  cases found : (Site.all tokens)[place]? with
  | none =>
      rw [Site.all, Site.getElem?_allAfter, Option.map_eq_none_iff] at found
      cases keptFunction? tokens place <;> simp [returnFindingAgainst, found]
  | some site =>
      rw [Option.elim_some, Walk.filter_findingsAt, returnFindings_of_kept initial tokens found]
      simp

end Report

/-! ## Where two streams meet -/

/-- No declaration and no header that begins before the tokens reaches over their front. -/
def StandsApart (tokens : List Token) : Prop :=
  ∀ first ∈ tokens.head?, first.kind ≠ .identifier ∧ ValueType.ofTypeName? first.kind = none

section Seam

variable {front back : List Token}

theorem getElem?_length_add (front back : List Token) (place : Nat) :
    (front ++ back)[front.length + place]? = back[place]? := by
  rw [List.getElem?_append_right (Nat.le_add_right ..), Nat.add_sub_cancel_left]

theorem headerAt?_append_right (front back : List Token) (place : Nat) :
    headerAt? (front ++ back) (front.length + place) = headerAt? back place := by
  simp only [headerAt?, Nat.add_assoc, getElem?_length_add]

theorem declarationAt?_append_right (front back : List Token) (place : Nat) :
    declarationAt? (front ++ back) (front.length + place) = declarationAt? back place := by
  simp only [declarationAt?, Nat.add_assoc, getElem?_length_add]

theorem declarationAt?_append_left (apart : StandsApart back) {place : Nat}
    (within : place < front.length) :
    declarationAt? (front ++ back) place = declarationAt? front place := by
  rw [declarationAt?, declarationAt?, List.getElem?_append_left within]
  rcases Nat.lt_or_eq_of_le (Nat.succ_le_of_lt within) with next_within | last
  · rw [List.getElem?_append_left next_within]
  · have missing : front[place + 1]? = none := List.getElem?_eq_none last.ge
    rw [List.getElem?_append_right last.ge, missing, ← last, Nat.sub_self,
      ← List.head?_eq_getElem?]
    cases first : back.head? with
    | none => rfl
    | some token => simp [(apart token first).1]

theorem headerAt?_append_left (apart : StandsApart back) {place : Nat}
    (within : place < front.length) :
    headerAt? (front ++ back) place = headerAt? front place := by
  rw [headerAt?, headerAt?, List.getElem?_append_left within]
  rcases Nat.lt_trichotomy (place + 2) front.length with all_within | name_behind | type_behind
  · rw [List.getElem?_append_left all_within,
      List.getElem?_append_left (show place + 1 < front.length by omega)]
  · have missing : front[place + 2]? = none := List.getElem?_eq_none name_behind.ge
    rw [List.getElem?_append_right name_behind.ge, missing, name_behind, Nat.sub_self,
      ← List.head?_eq_getElem?]
    cases first : back.head? with
    | none => simp
    | some token => simp [(apart token first).1]
  · have last : place + 1 = front.length := by omega
    have missing : front[place + 1]? = none := List.getElem?_eq_none last.ge
    rw [List.getElem?_append_right last.ge, missing, last, Nat.sub_self, ← List.head?_eq_getElem?]
    cases first : back.head? with
    | none => simp
    | some token => simp [(apart token first).2]

theorem declarationsBefore_append (apart : StandsApart back) :
    declarationsBefore (front ++ back) front.length = declarations front := by
  apply List.filterMap_congr
  intro place within
  exact declarationAt?_append_left apart (List.mem_range.mp within)

theorem declarations_append (apart : StandsApart back) :
    declarations (front ++ back) = declarations front ++ declarations back := by
  rw [declarations, declarationsBefore, List.length_append, List.range_add, List.filterMap_append,
    List.filterMap_map]
  congr 1
  · exact declarationsBefore_append apart
  · apply List.filterMap_congr
    intro place _
    exact declarationAt?_append_right front back place

theorem lastHeader?_append_left (apart : StandsApart back) :
    lastHeader? (front ++ back) front.length = lastHeader? front front.length := by
  rw [lastHeader?, lastHeader?]
  congr 1
  apply List.filterMap_congr
  intro place within
  rw [headerAt?_append_left apart (List.mem_range.mp within)]

theorem lastHeader?_append (apart : StandsApart back) :
    lastHeader? (front ++ back) (front.length + back.length) =
      ((lastHeader? back back.length).map fun last => (front.length + last.1, last.2)).or
        (lastHeader? front front.length) := by
  have headers_behind : ((List.range back.length).map (front.length + ·)).filterMap
      (fun header => (headerAt? (front ++ back) header).map (header, ·)) =
        ((List.range back.length).filterMap fun header =>
          (headerAt? back header).map (header, ·)).map
            fun last => (front.length + last.1, last.2) := by
    rw [List.filterMap_map, List.map_filterMap]
    apply List.filterMap_congr
    intro place _
    simp only [Function.comp_apply, headerAt?_append_right, Option.map_map]
    rfl
  rw [lastHeader?, List.range_add, List.filterMap_append, headers_behind, List.getLast?_append,
    List.getLast?_map, ← lastHeader?, ← lastHeader?, lastHeader?_append_left apart]

/-- What has ended before the seam is told without what stands behind it. -/
theorem hasEnded_append_left {header : Nat} (within : header ≤ front.length) :
    HasEnded (front ++ back) header front.length ↔ HasEnded front header front.length := by
  apply exists_congr
  intro between
  apply and_congr_right
  intro before
  rw [EndsAt, EndsAt, List.getElem?_append_left before,
    List.take_append_of_le_length (Nat.succ_le_of_lt before),
    List.take_append_of_le_length within]

theorem keptFunction?_append_left (apart : StandsApart back) :
    keptFunction? (front ++ back) front.length = keptFunction? front front.length := by
  rw [keptFunction?, keptHeader?, lastHeader?_append_left apart, keptFunction?, keptHeader?]
  cases known : lastHeader? front front.length with
  | none => rfl
  | some last =>
      have within := (of_lastHeader? known).1.le
      simp only [Option.filter_some, hasEnded_append_left within]

theorem endsAt_append_right (wellBraced : WellBraced back) (front : List Token)
    {header place : Nat} (before : header ≤ back.length) (within : place < back.length) :
    EndsAt (front ++ back) (front.length + header) (front.length + place) ↔
      EndsAt back header place := by
  rw [EndsAt, EndsAt, getElem?_length_add, Nat.add_assoc, List.take_length_add_append,
    List.take_length_add_append, wellBraced.openBraces_append_take front within,
    wellBraced.openBraces_append_take front before, Nat.add_left_cancel_iff]

/-- What ends in well-braced tokens ends there whatever stands before them. -/
theorem hasEnded_append_right (wellBraced : WellBraced back) (front : List Token) {header : Nat}
    (within : header ≤ back.length) :
    HasEnded (front ++ back) (front.length + header) (front.length + back.length) ↔
      HasEnded back header back.length := by
  constructor
  · rintro ⟨between, before, behind, ends⟩
    obtain ⟨place, rfl⟩ := Nat.exists_eq_add_of_le (show front.length ≤ between by omega)
    have place_within : place < back.length := by omega
    exact ⟨place, place_within, by omega,
      (endsAt_append_right wellBraced front within place_within).mp ends⟩
  · rintro ⟨place, before, behind, ends⟩
    exact ⟨front.length + place, by omega, by omega,
      (endsAt_append_right wellBraced front within before).mpr ends⟩

/-- Behind well-braced tokens with a header the function that is kept is one of theirs or none,
whatever function was kept before them. -/
theorem keptFunction?_append_right (apart : StandsApart back) (wellBraced : WellBraced back)
    (front : List Token) (begins : lastHeader? back back.length ≠ none) :
    keptFunction? (front ++ back) (front.length + back.length) =
      keptFunction? back back.length := by
  obtain ⟨last, known⟩ := Option.ne_none_iff_exists'.mp begins
  have within := (of_lastHeader? known).1.le
  rw [keptFunction?, keptHeader?, lastHeader?_append apart, keptFunction?, keptHeader?, known]
  simp only [Option.map_some, Option.some_or, Option.filter_some,
    hasEnded_append_right wellBraced front within]
  split <;> rfl

variable {mid : List Token}

/-- Tokens that speak of other names leave the types of values as they are. -/
theorem valueTypeBefore_between (apart_mid : StandsApart mid) (apart_back : StandsApart back)
    (fresh : ∀ token ∈ Names.occurrences mid, ∀ other ∈ Names.occurrences (front ++ back),
      token.text ≠ other.text)
    {value : Token} (value_mem : value ∈ front ++ back) :
    valueTypeBefore (front ++ mid ++ back) (front ++ mid).length value =
      valueTypeBefore (front ++ back) front.length value := by
  rw [valueTypeBefore, valueTypeBefore]
  split
  · next isName =>
      have undeclared : (declarations mid).find? (·.name == value.text) = none := by
        apply List.find?_eq_none.mpr
        intro declaration member same
        obtain ⟨place, _, declares⟩ := List.mem_filterMap.mp member
        obtain ⟨token, token_mem, name_eq⟩ := List.mem_map.mp (name_mem_occurrences declares)
        exact fresh token token_mem value (Names.mem_occurrences_iff.mpr ⟨value_mem, isName⟩)
          (name_eq.trans (beq_iff_eq.mp same))
      rw [typeBefore, typeBefore, declarationsBefore_append apart_back,
        declarations_append apart_mid, declarationsBefore_append apart_back, List.find?_append,
        undeclared, Option.or_none]
  · rfl

theorem returnFindingAgainst_between (apart_mid : StandsApart mid) (apart_back : StandsApart back)
    (fresh : ∀ token ∈ Names.occurrences mid, ∀ other ∈ Names.occurrences (front ++ back),
      token.text ≠ other.text) :
    returnFindingAgainst (front ++ mid ++ back) (front ++ mid).length =
      returnFindingAgainst (front ++ back) front.length := by
  have first_of (passed : List Token) : (passed ++ back)[passed.length]? = back[0]? :=
    getElem?_length_add passed back 0
  funext function
  rw [returnFindingAgainst, returnFindingAgainst, first_of, first_of, getElem?_length_add,
    getElem?_length_add]
  apply Option.bind_congr
  intro keyword _
  apply Option.bind_congr
  intro value second
  have value_mem : value ∈ front ++ back := List.mem_append_right _ (List.mem_of_getElem? second)
  rw [valueTypeBefore_between apart_mid apart_back fresh value_mem]

end Seam

/-- A whole definition of a function without parameters. -/
structure FunctionDefinition where
  /-- The keyword. -/
  keyword : TokenOf .functionWord
  /-- The name of the return type. -/
  typeName : Token
  /-- The return type. -/
  returns : ValueType
  /-- The name stands for the type. -/
  typed : ValueType.ofTypeName? typeName.kind = some returns
  /-- The name of the function. -/
  name : TokenOf .identifier
  /-- The opening parenthesis. -/
  leftParen : TokenOf .leftParen
  /-- The closing parenthesis. -/
  rightParen : TokenOf .rightParen
  /-- The brace that opens the body. -/
  left : TokenOf .leftBrace
  /-- The body. -/
  body : List Token
  /-- The brace that closes the body. -/
  right : TokenOf .rightBrace
  /-- The body closes all that it opens and nothing else. -/
  wellBraced : WellBraced body

namespace FunctionDefinition

variable (definition : FunctionDefinition)

/-- What stands before the body. -/
def head : List Token :=
  [definition.keyword.val, definition.typeName, definition.name.val, definition.leftParen.val,
    definition.rightParen.val, definition.left.val]

/-- The tokens of the definition. -/
def tokens : List Token := definition.head ++ (definition.body ++ [definition.right.val])

/-- The function that is kept behind the definition. -/
def leaves? : Option (String × ValueType) :=
  keptFunction? definition.tokens definition.tokens.length

theorem standsApart : StandsApart definition.tokens := by
  intro first at_front
  obtain rfl : definition.keyword.val = first := Option.some.inj at_front
  rw [definition.keyword.property]
  exact ⟨by decide, rfl⟩

theorem bracket_typeName : Bracket.openedBy? definition.typeName.kind = none ∧
    Bracket.closedBy? definition.typeName.kind = none := by
  have typed := definition.typed
  revert typed
  cases definition.typeName.kind <;> simp [ValueType.ofTypeName?, Bracket.openedBy?,
    Bracket.closedBy?]

theorem opened_head : (Bracket.brace.balance definition.head).opened = 1 := by
  simp only [Bracket.balance, head, List.countP_cons, List.countP_nil,
    definition.bracket_typeName.1, definition.keyword.property, definition.name.property,
    definition.leftParen.property, definition.rightParen.property, definition.left.property]
  rfl

theorem closed_head : (Bracket.brace.balance definition.head).closed = 0 := by
  simp only [Bracket.balance, head, List.countP_cons, List.countP_nil,
    definition.bracket_typeName.2, definition.keyword.property, definition.name.property,
    definition.leftParen.property, definition.rightParen.property, definition.left.property]
  rfl

theorem balance_right :
    Bracket.brace.balance [definition.right.val] = ⟨.brace, 0, 1⟩ := by
  simp only [Bracket.balance, List.countP_singleton, definition.right.property]
  rfl

/-- The body closes at most one brace that was opened before it. -/
theorem closed_take_le (count : Nat) :
    (Bracket.brace.balance ((definition.body ++ [definition.right.val]).take count)).closed ≤
      (Bracket.brace.balance ((definition.body ++ [definition.right.val]).take count)).opened +
        1 := by
  rcases Nat.lt_or_ge definition.body.length count with beyond | within
  · rw [List.take_of_length_le (by rw [List.length_append]; exact beyond), Bracket.balance_append,
      balance_right]
    simp only [Bracket.Balance.add, definition.wellBraced.braces_eq]
    omega
  · rw [List.take_append_of_le_length within]
    exact Nat.le_succ_of_le (definition.wellBraced.braces_le count within)

theorem wellBraced_tokens : WellBraced definition.tokens := by
  have opened_head := definition.opened_head
  have closed_head := definition.closed_head
  constructor
  · intro count _
    rcases Nat.lt_or_ge definition.head.length count with beyond | within
    · have rest_le := definition.closed_take_le (count - definition.head.length)
      rw [tokens, List.take_append, List.take_of_length_le beyond.le, Bracket.balance_append]
      simp only [Bracket.Balance.add]
      omega
    · have closed_le : (Bracket.brace.balance (definition.head.take count)).closed ≤
          (Bracket.brace.balance definition.head).closed :=
        (List.take_sublist count definition.head).countP_le
      rw [tokens, List.take_append_of_le_length within]
      omega
  · rw [tokens, Bracket.balance_append, Bracket.balance_append, balance_right]
    simp only [Bracket.Balance.add, definition.wellBraced.braces_eq]
    omega

theorem headerAt?_zero :
    headerAt? definition.tokens 0 = some (definition.name.val.text, definition.returns) := by
  simp [headerAt?, tokens, head, definition.typed, definition.keyword.property,
    definition.name.property]

theorem lastHeader?_ne_none :
    lastHeader? definition.tokens definition.tokens.length ≠ none := by
  intro missing
  have no_header := List.getLast?_eq_none_iff.mp missing
  rw [List.filterMap_eq_nil_iff] at no_header
  have first := no_header 0 (List.mem_range.mpr (Nat.succ_pos _))
  rw [headerAt?_zero] at first
  cases first

/-- What is kept behind the definition is a function of the definition. -/
theorem name_mem_of_leaves? {function : String × ValueType}
    (left_open : definition.leaves? = some function) :
    function.1 ∈ (Names.occurrences definition.tokens).map (·.text) := by
  obtain ⟨last, found, rfl⟩ := Option.map_eq_some_iff.mp left_open
  have begins := (of_lastHeader? (Option.mem_filter_iff.mp found).1).2
  simp only [headerAt?, Option.bind_eq_bind, Option.bind_eq_some_iff] at begins
  obtain ⟨_, _, _, _, name, here, _, _, begins⟩ := begins
  split at begins
  · next kinds =>
      rw [← Option.some.inj begins]
      exact List.mem_map_of_mem
        (Names.mem_occurrences_iff.mpr ⟨List.mem_of_getElem? here, kinds.2⟩)
  · cases begins

/-- The definition ends in the brace that closes its body. -/
theorem hasEnded_tokens : HasEnded definition.tokens 0 definition.tokens.length := by
  have ends_in : definition.tokens.getLast? = some definition.right.val := by
    rw [tokens, ← List.append_assoc, List.getLast?_concat]
  have last_pos : 0 < definition.tokens.length - 1 := by
    simp only [tokens, head, List.length_append, List.length_cons]
    omega
  rw [List.getLast?_eq_getElem?] at ends_in
  refine ⟨definition.tokens.length - 1, by omega, last_pos,
    (endsAt_iff ends_in 0).mpr ⟨definition.right.property, ?_⟩⟩
  rw [Nat.sub_add_cancel (by omega), List.take_length,
    definition.wellBraced_tokens.openBraces_eq_zero]
  rfl

/-- Where no function begins in the body, none is kept behind the definition. -/
theorem leaves?_eq_none (no_function : ∀ token ∈ definition.body, token.kind ≠ .functionWord) :
    definition.leaves? = none := by
  have typeName_kind : definition.typeName.kind ≠ .functionWord := by
    intro isFunction
    have typed := definition.typed
    rw [isFunction] at typed
    cases typed
  have none_behind : ∀ token ∈ definition.tokens.tail, token.kind ≠ .functionWord := by
    simpa [tokens, head, typeName_kind, definition.name.property, definition.leftParen.property,
      definition.rightParen.property, definition.left.property, definition.right.property,
      or_imp, forall_and] using no_function
  obtain ⟨⟨header, function⟩, known⟩ := Option.ne_none_iff_exists'.mp definition.lastHeader?_ne_none
  have begins := kind_of_headerAt? (of_lastHeader? known).2
  have first : header = 0 := by
    cases header with
    | zero => rfl
    | succ place =>
        obtain ⟨keyword, here, isFunction⟩ := begins
        rw [← List.getElem?_tail] at here
        exact absurd isFunction (none_behind keyword (List.mem_of_getElem? here))
  subst first
  rw [leaves?, keptFunction?, keptHeader?, known]
  simp [definition.hasEnded_tokens]

/-- Whatever is kept before the definition, behind it is kept what the definition leaves. -/
theorem keptFunction?_behind (front : List Token) :
    keptFunction? (front ++ definition.tokens) (front ++ definition.tokens).length =
      definition.leaves? := by
  rw [List.length_append]
  exact keptFunction?_append_right definition.standsApart definition.wellBraced_tokens front
    definition.lastHeader?_ne_none

end FunctionDefinition

/-- A place is directly in the body of the function that begins at a header: the function has not
ended, and one brace more is open than at the header. -/
structure DirectlyIn (tokens : List Token) (header place : Nat) : Prop where
  lasts : ¬ HasEnded tokens header place
  depth_eq : openBraces (tokens.take place) = openBraces (tokens.take header) + 1

theorem DirectlyIn.keptFunction?_eq {tokens : List Token} {header place : Nat}
    {function : String × ValueType} (inside : DirectlyIn tokens header place)
    (last : lastHeader? tokens place = some (header, function)) :
    keptFunction? tokens place = some function := by
  rw [keptFunction?, keptHeader?, last, Option.filter_some, if_pos (decide_eq_true inside.lasts)]
  rfl

theorem standsApart_return (keyword : TokenOf .returnWord) (later : List Token) :
    StandsApart (keyword.val :: later) := by
  intro first at_front
  obtain rfl := Option.some.inj at_front
  rw [keyword.property]
  exact ⟨by decide, rfl⟩

namespace Report

/-- A definition that is put before a returned value takes the place of the function around it.
Without the definition the value is held against the function of the last header, if that has not
ended: a function directly around it is noticed.  Behind the definition the value is held against
what the definition leaves.  This is nothing where the body begins no function, and never a function
around the definition, so the value is reported no more. -/
theorem returns_behind_definition (initial : Char) (front later : List Token)
    (keyword : TokenOf .returnWord) (definition : FunctionDefinition)
    (fresh : ∀ token ∈ Names.occurrences definition.tokens,
      ∀ other ∈ Names.occurrences (front ++ keyword.val :: later), token.text ≠ other.text) :
    let outer := front ++ keyword.val :: later
    let nested := front ++ definition.tokens ++ keyword.val :: later
    let judged := returnFindingAgainst outer front.length
    (∀ tokens, (ofTokens initial tokens).findingsOf .incompatibleReturn =
      (List.range tokens.length).flatMap (returnsAt initial tokens)) ∧
    returnsAt initial outer front.length =
      ((keptFunction? front front.length).bind judged).toList ∧
    (∀ header function, lastHeader? front front.length = some (header, function) →
      DirectlyIn front header front.length →
      returnsAt initial outer front.length = (judged function).toList) ∧
    returnsAt initial nested (front ++ definition.tokens).length =
      (definition.leaves?.bind judged).toList ∧
    (∀ function, definition.leaves? = some function →
      function.1 ∈ (Names.occurrences definition.tokens).map (·.text)) ∧
    ((∀ token ∈ definition.body, token.kind ≠ .functionWord) →
      returnsAt initial nested (front ++ definition.tokens).length = []) := by
  intro outer nested judged
  have apart := standsApart_return keyword later
  have before : returnsAt initial outer front.length =
      ((keptFunction? front front.length).bind judged).toList := by
    rw [returnsAt_eq, keptFunction?_append_left apart]
  have behind : returnsAt initial nested (front ++ definition.tokens).length =
      (definition.leaves?.bind judged).toList := by
    rw [returnsAt_eq, keptFunction?_append_left apart, definition.keptFunction?_behind,
      returnFindingAgainst_between definition.standsApart apart fresh]
  refine ⟨findingsOf_incompatibleReturn initial, before, ?_, behind,
    fun function => definition.name_mem_of_leaves?, ?_⟩
  · intro header function last inside
    rw [before, inside.keptFunction?_eq last, Option.bind_some]
  · intro no_function
    rw [behind, definition.leaves?_eq_none no_function]
    rfl

/-- A function with another one in its body, and a value of the wrong type behind that. -/
def nestedFunctions : String :=
  "function int _f() \x7b\nfunction int _g() \x7b\n\x7d\nreturn \"x\";\n\x7d"

/-- The inner one of these functions. -/
def innerFunction : FunctionDefinition where
  keyword := ⟨⟨.functionWord, "function", 2, ⟨20, 28⟩⟩, rfl⟩
  typeName := ⟨.intType, "int", 2, ⟨29, 32⟩⟩
  returns := .integer
  typed := rfl
  name := ⟨⟨.identifier, "_g", 2, ⟨33, 35⟩⟩, rfl⟩
  leftParen := ⟨⟨.leftParen, "(", 2, ⟨35, 36⟩⟩, rfl⟩
  rightParen := ⟨⟨.rightParen, ")", 2, ⟨36, 37⟩⟩, rfl⟩
  left := ⟨⟨.leftBrace, "\x7b", 2, ⟨38, 39⟩⟩, rfl⟩
  body := []
  right := ⟨⟨.rightBrace, "\x7d", 3, ⟨40, 41⟩⟩, rfl⟩
  wellBraced := ⟨by decide, rfl⟩

/-- The keyword behind it. -/
def innerReturn : TokenOf .returnWord := ⟨⟨.returnWord, "return", 4, ⟨42, 48⟩⟩, rfl⟩

/-- A header that never gets a body is kept behind the function in which it stands. -/
example :
    { innerFunction with
      body := tokenize "function string _h;"
      wellBraced := ⟨by decide +kernel, by decide +kernel⟩ : FunctionDefinition }.leaves? =
      some ("_h", .string) := by
  decide +kernel

/-- The function is around the returned value with and without the inner one, and the value is
reported only without it. -/
theorem returns_behind_inner_function :
    let front := (tokenize nestedFunctions).take 6
    let later := (tokenize nestedFunctions).drop 14
    (∀ token ∈ Names.occurrences innerFunction.tokens,
      ∀ other ∈ Names.occurrences (front ++ innerReturn.val :: later), token.text ≠ other.text) ∧
    returnsAt '_' (front ++ innerReturn.val :: later) front.length =
      [(Cause.incompatibleReturn "_f" .integer .string).onLine 4] ∧
    returnsAt '_' (front ++ innerFunction.tokens ++ innerReturn.val :: later)
      (front ++ innerFunction.tokens).length = [] := by
  intro front later
  have fresh : ∀ token ∈ Names.occurrences innerFunction.tokens,
      ∀ other ∈ Names.occurrences (front ++ innerReturn.val :: later),
        token.text ≠ other.text := by decide +kernel
  obtain ⟨_, before, _, _, _, behind⟩ :=
    returns_behind_definition '_' front later innerReturn innerFunction fresh
  exact ⟨fresh, before.trans (by decide +kernel), behind (by decide)⟩

/-- The function around a returned value is not taken up again behind a definition in its body. -/
theorem not_taken_up_behind_definition :
    ¬ ∀ (initial : Char) (front later : List Token) (keyword : TokenOf .returnWord)
      (definition : FunctionDefinition) (header : Nat) (function : String × ValueType),
      WellBraced (front ++ keyword.val :: later) →
      header < front.length →
      headerAt? (front ++ keyword.val :: later) header = some function →
      DirectlyIn (front ++ keyword.val :: later) header front.length →
      Apart definition.tokens (front ++ keyword.val :: later) →
      (returnsAt initial (front ++ definition.tokens ++ keyword.val :: later)
          (front ++ definition.tokens).length = [] ↔
        returnsAt initial (front ++ keyword.val :: later) front.length = []) := by
  intro unchanged
  have same := unchanged '_' ((tokenize nestedFunctions).take 6)
    ((tokenize nestedFunctions).drop 14) innerReturn innerFunction 0 ("_f", .integer)
    ⟨by decide +kernel, by decide +kernel⟩ (by decide +kernel) (by decide +kernel)
    ⟨by decide +kernel, by decide +kernel⟩ ⟨by decide +kernel, by decide +kernel⟩
  exact absurd same (by decide +kernel)

end Report
end NovaLint
