import NovaLint.Proofs.Check.Codes
import NovaLint.Proofs.Check.Table
import Mathlib.Data.List.Induction

/-!
# Names at first sight

A keyword with a condition brings the names of the condition into sight before the names themselves
are reached.  It runs ahead over the next tokens and leaves out none of their names, so what is seen
first is seen in the order of the text.  A name that is seen again changes nothing: the table and
the findings on names are the same as if every name had been read once, at its own place.
-/

namespace NovaLint

section FirstOccurrences

variable {α β : Type} [BEq α] [LawfulBEq α] [BEq β] [LawfulBEq β]

/-- A list of the members of another, each once and in the order in which they first occur. -/
structure FirstOccurrences (whole listed : List α) : Prop where
  /-- The members are the same. -/
  mem_iff : ∀ member, member ∈ listed ↔ member ∈ whole
  /-- What occurs first is listed first, and nothing is listed twice. -/
  ordered : listed.Pairwise fun earlier later => whole.idxOf earlier < whole.idxOf later

theorem eraseDups_concat (whole : List α) (last : α) :
    (whole ++ [last]).eraseDups =
      if last ∈ whole then whole.eraseDups else whole.eraseDups ++ [last] := by
  rw [List.eraseDups_append]
  by_cases seen : last ∈ whole <;> simp [List.removeAll, seen, List.eraseDups_cons]

theorem FirstOccurrences.concat_of_mem {whole listed : List α} {last : α}
    (listing : FirstOccurrences whole listed) (seen : last ∈ whole) :
    FirstOccurrences (whole ++ [last]) listed where
  mem_iff member := by
    rw [listing.mem_iff, List.mem_append, List.mem_singleton]
    exact ⟨.inl, fun found => found.elim id fun same => same ▸ seen⟩
  ordered := by
    refine listing.ordered.imp_of_mem fun {earlier later} here there before => ?_
    rw [List.idxOf_append, List.idxOf_append, if_pos ((listing.mem_iff earlier).mp here),
      if_pos ((listing.mem_iff later).mp there)]
    exact before

theorem FirstOccurrences.concat_of_not_mem {whole listed : List α} {last : α}
    (listing : FirstOccurrences whole listed) (new : last ∉ whole) :
    FirstOccurrences (whole ++ [last]) (listed ++ [last]) where
  mem_iff member := by
    rw [List.mem_append, List.mem_append, listing.mem_iff]
  ordered := by
    refine List.pairwise_append.mpr ⟨?_, List.pairwise_singleton .., ?_⟩
    · refine listing.ordered.imp_of_mem fun {earlier later} here there before => ?_
      rw [List.idxOf_append, List.idxOf_append, if_pos ((listing.mem_iff earlier).mp here),
        if_pos ((listing.mem_iff later).mp there)]
      exact before
    · intro earlier here later there
      obtain rfl := List.mem_singleton.mp there
      have before := (listing.mem_iff earlier).mp here
      rw [List.idxOf_append, List.idxOf_append, if_pos before, if_neg new]
      exact Nat.lt_add_left _ (List.idxOf_lt_length_of_mem before)

omit [LawfulBEq α] in
theorem firstOccurrences_nil : FirstOccurrences ([] : List α) [] :=
  ⟨fun _ => Iff.rfl, List.Pairwise.nil⟩

theorem firstOccurrences_eraseDups (whole : List α) : FirstOccurrences whole whole.eraseDups := by
  induction whole using List.reverseRecOn with
  | nil => exact firstOccurrences_nil
  | append_singleton whole last ih =>
      rw [eraseDups_concat]
      split
      · next seen => exact ih.concat_of_mem seen
      · next new => exact ih.concat_of_not_mem new

/-- The members of a list that are the first ones with their key, in order. -/
structure FirstPerKey {γ : Type} (key : γ → β) (whole firsts : List γ) : Prop where
  /-- Each key is listed once, in the order of first occurrence. -/
  keys : FirstOccurrences (whole.map key) (firsts.map key)
  /-- What is listed for a key is the first member that has it. -/
  first : ∀ first ∈ firsts, whole.find? (key · == key first) = some first

theorem FirstPerKey.concat {γ : Type} {key : γ → β} {whole firsts : List γ}
    (listing : FirstPerKey key whole firsts) (last : γ) :
    FirstPerKey key (whole ++ [last])
      (if key last ∈ whole.map key then firsts else firsts ++ [last]) := by
  have still_first : ∀ first ∈ firsts,
      (whole ++ [last]).find? (key · == key first) = some first := by
    intro first member
    rw [List.find?_append, listing.first first member, Option.some_or]
  split
  · next seen =>
      refine ⟨?_, still_first⟩
      rw [List.map_append]
      exact listing.keys.concat_of_mem seen
  · next new =>
      refine ⟨?_, fun first member => ?_⟩
      · rw [List.map_append, List.map_append]
        exact listing.keys.concat_of_not_mem new
      · rcases List.mem_append.mp member with known | added
        · exact still_first first known
        · obtain rfl := List.mem_singleton.mp added
          have not_before : whole.find? (key · == key first) = none := by
            refine List.find?_eq_none.mpr fun other among same => new ?_
            rw [← beq_iff_eq.mp same]
            exact List.mem_map_of_mem among
          rw [List.find?_append, not_before, Option.none_or]
          simp

theorem eraseDups_filter (whole : List α) (keep : α → Bool) :
    (whole.filter keep).eraseDups = whole.eraseDups.filter keep := by
  induction whole using List.reverseRecOn with
  | nil => rfl
  | append_singleton whole last ih =>
      rw [List.filter_append, eraseDups_concat]
      by_cases kept : keep last = true
      · rw [List.filter_cons_of_pos kept, List.filter_nil, eraseDups_concat, ih]
        by_cases seen : last ∈ whole
        · rw [if_pos seen, if_pos (List.mem_filter.mpr ⟨seen, kept⟩)]
        · rw [if_neg seen, if_neg fun found => seen (List.mem_filter.mp found).1,
            List.filter_append, List.filter_cons_of_pos kept, List.filter_nil]
      · rw [List.filter_cons_of_neg kept, List.filter_nil, List.append_nil, ih]
        split
        · rfl
        · rw [List.filter_append, List.filter_cons_of_neg kept, List.filter_nil, List.append_nil]

theorem eraseDups_map_eraseDups (whole : List α) (image : α → β) :
    (whole.eraseDups.map image).eraseDups = (whole.map image).eraseDups := by
  induction whole using List.reverseRecOn with
  | nil => rfl
  | append_singleton whole last ih =>
      rw [List.map_append, List.map_singleton, eraseDups_concat, eraseDups_concat, ← ih]
      by_cases seen : last ∈ whole
      · rw [if_pos seen, if_pos (List.mem_map_of_mem seen)]
      · have same : image last ∈ whole.eraseDups.map image ↔ image last ∈ whole.map image := by
          simp only [List.mem_map, List.mem_eraseDups]
        rw [if_neg seen, List.map_append, List.map_singleton, eraseDups_concat]
        simp only [same]

end FirstOccurrences

/-! ## Looking ahead -/

namespace Names

/-- The names of a stream, in order. -/
def occurrences (tokens : List Token) : List Token := tokens.filter (·.kind == .identifier)

theorem occurrences_append (front back : List Token) :
    occurrences (front ++ back) = occurrences front ++ occurrences back :=
  List.filter_append ..

theorem mem_occurrences_iff {tokens : List Token} {token : Token} :
    token ∈ occurrences tokens ↔ token ∈ tokens ∧ token.kind = .identifier := by
  rw [occurrences, List.mem_filter, beq_iff_eq]

theorem text_mem_occurrences {tokens : List Token} {token : Token} (member : token ∈ tokens)
    (isName : token.kind = .identifier) : token.text ∈ (occurrences tokens).map (·.text) :=
  List.mem_map_of_mem (mem_occurrences_iff.mpr ⟨member, isName⟩)

theorem occurrences_cons_of_ne {token : Token} (other : token.kind ≠ .identifier)
    (rest : List Token) : occurrences (token :: rest) = occurrences rest :=
  List.filter_cons_of_neg (by simpa using other)

end Names

namespace Site

open Names

/-- The names between parentheses are those of a front part of the tokens. -/
theorem occurrences_parenthesized (tokens : List Token) :
    ∃ front back, tokens = front ++ back ∧
      occurrences (parenthesized tokens) = occurrences front := by
  cases tokens with
  | nil => exact ⟨[], [], rfl, rfl⟩
  | cons first inner =>
      by_cases opens : first.kind = .leftParen
      · refine ⟨first :: inner.takeWhile (·.kind != .rightParen),
          inner.dropWhile (·.kind != .rightParen), ?_, ?_⟩
        · rw [List.cons_append, List.takeWhile_append_dropWhile]
        · rw [parenthesized, if_pos opens, occurrences_cons_of_ne (by simp [opens])]
      · refine ⟨[], first :: inner, rfl, ?_⟩
        rw [parenthesized, if_neg opens]

/-- A place brings into sight its own name and the names of the tokens right behind it, up to some
token. -/
theorem sightings_eq (site : Site) :
    ∃ front back, site.rest = front ++ back ∧
      site.sightings = occurrences (site.token :: front) := by
  have ahead : ∃ front back, site.rest = front ++ back ∧
      occurrences site.condition = occurrences front := by
    unfold condition
    split
    · exact occurrences_parenthesized site.rest
    · exact occurrences_parenthesized site.rest
    · exact occurrences_parenthesized site.rest
    · split
      · next elseIf =>
          cases rest_eq : site.rest with
          | nil => simp [nextIs, next?, rest_eq] at elseIf
          | cons ifWord inner =>
              have not_name : ifWord.kind ≠ .identifier := by
                simp_all [nextIs, next?]
              obtain ⟨front, back, split, same⟩ := occurrences_parenthesized inner
              refine ⟨ifWord :: front, back, by rw [split, List.cons_append], ?_⟩
              rw [occurrences_cons_of_ne not_name]
              exact same
      · exact ⟨[], site.rest, rfl, rfl⟩
    · exact ⟨[], site.rest, rfl, rfl⟩
  obtain ⟨front, back, split, same⟩ := ahead
  refine ⟨front, back, split, ?_⟩
  change occurrences ([site.token] ++ site.condition) = occurrences ([site.token] ++ front)
  rw [occurrences_append, occurrences_append, same]

/-- Seeing names ahead of their places does not change what is seen first. -/
theorem eraseDups_sightings (previous? : Option Token) (tokens : List Token) :
    ((allAfter previous? tokens).flatMap sightings).eraseDups = (occurrences tokens).eraseDups := by
  induction tokens generalizing previous? with
  | nil => rfl
  | cons token rest ih =>
      obtain ⟨front, back, rest_eq, sighted⟩ := sightings_eq ⟨previous?, token, rest⟩
      obtain rfl : rest = front ++ back := rest_eq
      change _ = occurrences (token :: front) at sighted
      -- What is still to come repeats the names of `front` before it brings those of `back`.
      have again : (occurrences front).removeAll (occurrences (token :: front)) = [] := by
        refine List.filter_eq_nil_iff.mpr fun name member => ?_
        have seen : name ∈ occurrences (token :: front) := by
          obtain ⟨among, isName⟩ := mem_occurrences_iff.mp member
          exact mem_occurrences_iff.mpr ⟨List.mem_cons_of_mem token among, isName⟩
        simpa using seen
      have whole : occurrences (token :: (front ++ back)) =
          occurrences (token :: front) ++ occurrences back :=
        occurrences_append (token :: front) back
      calc ((allAfter previous? (token :: (front ++ back))).flatMap sightings).eraseDups
          = (occurrences (token :: front) ++
              (allAfter (some token) (front ++ back)).flatMap sightings).eraseDups := by
            rw [allAfter, List.flatMap_cons, sighted]
        _ = (occurrences (token :: front)).eraseDups ++ ((occurrences (front ++ back)).removeAll
              (occurrences (token :: front))).eraseDups := by
            rw [List.eraseDups_append, List.removeAll, eraseDups_filter, ih, ← eraseDups_filter,
              ← List.removeAll]
        _ = (occurrences (token :: front)).eraseDups ++ ((occurrences back).removeAll
              (occurrences (token :: front))).eraseDups := by
            rw [occurrences_append, List.removeAll, List.filter_append, ← List.removeAll, again,
              List.nil_append, ← List.removeAll]
        _ = (occurrences (token :: (front ++ back))).eraseDups := by
            rw [whole, List.eraseDups_append]

end Site

namespace Names

theorem eraseDups_sightings (tokens : List Token) :
    (sightings tokens).eraseDups = (occurrences tokens).eraseDups :=
  Site.eraseDups_sightings none tokens

theorem table_concat (initial : Char) (sighted : List Token) (last : Token) :
    table initial (sighted ++ [last]) =
      ((table initial sighted).insert (variableOf initial last)).2 := by
  rw [table, List.foldl_append]
  rfl

/-- The table lists the first sightings of all names. -/
theorem exists_firsts (initial : Char) (sighted : List Token) :
    ∃ firsts, (table initial sighted).entries = firsts.map (variableOf initial) ∧
      FirstPerKey (·.text) sighted firsts := by
  induction sighted using List.reverseRecOn with
  | nil => exact ⟨[], rfl, firstOccurrences_nil, by simp⟩
  | append_singleton sighted last ih =>
      obtain ⟨firsts, entries_eq, listing⟩ := ih
      have names_eq : (table initial sighted).names = firsts.map (·.text) := by
        rw [SymbolTable.names, entries_eq, List.map_map]
        rfl
      have taken_iff : (variableOf initial last).name ∈ (table initial sighted).names ↔
          last.text ∈ sighted.map (·.text) := by
        rw [names_eq, listing.keys.mem_iff]
        rfl
      refine ⟨_, ?_, listing.concat last⟩
      rw [table_concat]
      split
      · next seen => rw [SymbolTable.insert_of_mem (taken_iff.mpr seen), entries_eq]
      · next new =>
          rw [SymbolTable.entries_insert_of_not_mem (mt taken_iff.mp new), entries_eq,
            List.map_append, List.map_singleton]

theorem mem_names_table {initial : Char} {sighted : List Token} {name : String} :
    name ∈ (table initial sighted).names ↔ name ∈ sighted.map (·.text) := by
  obtain ⟨firsts, entries_eq, listing⟩ := exists_firsts initial sighted
  rw [← listing.keys.mem_iff, SymbolTable.names, entries_eq, List.map_map]
  rfl

/-- A sighting that is repeated adds nothing to the table. -/
theorem table_eraseDups (initial : Char) (sighted : List Token) :
    table initial sighted.eraseDups = table initial sighted := by
  induction sighted using List.reverseRecOn with
  | nil => rfl
  | append_singleton sighted last ih =>
      rw [eraseDups_concat]
      split
      · next seen =>
          have taken : (variableOf initial last).name ∈ (table initial sighted).names :=
            mem_names_table.mpr (List.mem_map_of_mem seen)
          rw [ih, table_concat, SymbolTable.insert_of_mem taken]
      · rw [table_concat, table_concat, ih]

/-- A sighting that is repeated is not reported again. -/
theorem findings_eraseDups (initial : Char) (sighted : List Token) :
    findings initial sighted.eraseDups = findings initial sighted := by
  simp only [findings]
  rw [← eraseDups_filter, eraseDups_map_eraseDups]

theorem table_sightings (initial : Char) (tokens : List Token) :
    table initial (sightings tokens) = table initial (occurrences tokens) := by
  rw [← table_eraseDups, eraseDups_sightings, table_eraseDups]

theorem findings_sightings (initial : Char) (tokens : List Token) :
    findings initial (sightings tokens) = findings initial (occurrences tokens) := by
  rw [← findings_eraseDups, eraseDups_sightings, findings_eraseDups]

/-- The first occurrences of the names of a stream, in order. -/
structure FirstsOf (tokens firsts : List Token) : Prop where
  /-- Each name is listed once, and in the order of first occurrence. -/
  texts : FirstOccurrences ((occurrences tokens).map (·.text)) (firsts.map (·.text))
  /-- What is listed for a name is its first occurrence. -/
  first : ∀ first ∈ firsts,
    tokens.find? (fun token => token.kind == .identifier && token.text == first.text) = some first

/-- The table of a stream lists the first occurrences of its names. -/
theorem exists_firstsOf (initial : Char) (tokens : List Token) :
    ∃ firsts, FirstsOf tokens firsts ∧
      (table initial (sightings tokens)).entries = firsts.map (variableOf initial) := by
  obtain ⟨firsts, entries_eq, listing⟩ := exists_firsts initial (occurrences tokens)
  refine ⟨firsts, ⟨listing.keys, fun first member => ?_⟩, by rw [table_sightings, entries_eq]⟩
  rw [← listing.first first member, occurrences, List.find?_filter]
  congr 1
  funext token
  rw [Bool.eq_iff_iff]
  simp

theorem isWellNamed_eq (initial : Char) (name : String) :
    isWellNamed initial name = decide ([initial] <+: name.toList) := by
  rw [Bool.eq_iff_iff, decide_eq_true_iff, isWellNamed]
  cases name.toList with
  | nil => simp
  | cons first rest =>
      rw [List.head?_cons, List.cons_prefix_cons, beq_iff_eq, Option.some_inj, eq_comm]
      simp

end Names

namespace Report

open Names

theorem firstSight_symbols (initial : Char) (tokens : List Token) :
    (ofTokens initial tokens).symbols.map (·.firstSight) =
      (table initial (sightings tokens)).entries.map (·.firstSight) :=
  Walk.firstSight_run ..

/-- Reading ahead in conditions leaves no trace.  The report lists each name once, in the order and
with the line of its first occurrence, and reports each ill-formed name once for each of its
lines. -/
theorem names_by_first_occurrence (initial : Char) (tokens : List Token) :
    Names.table initial (sightings tokens) = Names.table initial (occurrences tokens) ∧
    Names.findings initial (sightings tokens) = Names.findings initial (occurrences tokens) ∧
    (∃ firsts, FirstsOf tokens firsts ∧
      ((ofTokens initial tokens).symbols.map fun entry =>
          (entry.name, entry.line, entry.wellNamed)) =
        firsts.map fun first =>
          (first.text, first.line, decide ([initial] <+: first.text.toList))) ∧
    ∃ places : List (String × Nat),
      FirstOccurrences
        (((occurrences tokens).filter fun name => ¬ [initial] <+: name.text.toList).map
          fun name => (name.text, name.line)) places ∧
      (ofTokens initial tokens).findingsOf .invalidName =
        places.map fun (name, line) => (Cause.invalidName name initial).onLine line := by
  refine ⟨table_sightings initial tokens, findings_sightings initial tokens, ?_, ?_⟩
  · obtain ⟨firsts, firstsOf, entries_eq⟩ := exists_firstsOf initial tokens
    refine ⟨firsts, firstsOf, ?_⟩
    have sights := firstSight_symbols initial tokens
    rw [entries_eq] at sights
    have triples := congrArg
      (List.map fun entry : Variable => (entry.name, entry.line, entry.wellNamed)) sights
    simp only [List.map_map] at triples
    refine triples.trans (List.map_congr_left fun first _ => ?_)
    rw [← isWellNamed_eq]
    rfl
  · refine ⟨_, firstOccurrences_eraseDups _, ?_⟩
    rw [findingsOf_invalidName, findings_sightings]
    simp only [Names.findings, isWellNamed_eq, decide_not]

end Report
end NovaLint
