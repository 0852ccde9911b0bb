import NovaLint.Proofs.Check.FirstSight
import NovaLint.Proofs.Check.Places
import Mathlib.Data.List.Basic

/-!
# Declarations

A type name that is directly followed by a name declares it, wherever the two stand.  The first
declaration of a name fixes its type for the rest of the program.  Each later one is reported where
it stands, and a name without any is reported where it first occurs.

All names are in the table before the first token is checked, so no declaration is overlooked: at
each place the declared names of the table are those declared at the places before.
-/

namespace NovaLint

/-- A type name and the name right behind it. -/
structure Declaration where
  /-- The name. -/
  name : String
  /-- The type that it is given. -/
  type : ValueType
  /-- Line of the type name. -/
  line : Nat
deriving DecidableEq

/-- The declaration that begins at a place of a stream. -/
def declarationAt? (tokens : List Token) (place : Nat) : Option Declaration := do
  let typeName ← tokens[place]?
  let type ← ValueType.ofTypeName? typeName.kind
  let name ← tokens[place + 1]?
  if name.kind = .identifier then some ⟨name.text, type, typeName.line⟩ else none

/-- The declarations that begin at one of the first places of a stream, in order. -/
def declarationsBefore (tokens : List Token) (count : Nat) : List Declaration :=
  (List.range count).filterMap (declarationAt? tokens)

/-- The declarations of a stream, in order. -/
def declarations (tokens : List Token) : List Declaration :=
  declarationsBefore tokens tokens.length

/-- The declarations of names that were declared before, in order. -/
def repeatedDeclarations (tokens : List Token) : List Declaration :=
  (List.range tokens.length).filterMap fun place =>
    (declarationAt? tokens place).filter fun declaration =>
      (declarationsBefore tokens place).any (·.name == declaration.name)

/-- The type that a name has at a place: that of its first declaration before. -/
def typeBefore (tokens : List Token) (place : Nat) (name : String) : ValueType :=
  (((declarationsBefore tokens place).find? (·.name == name)).map (·.type)).getD .unknown

/-- The type of the value that a token stands for at a place. -/
def valueTypeBefore (tokens : List Token) (place : Nat) (token : Token) : ValueType :=
  if token.kind = .identifier then typeBefore tokens place token.text else .ofLiteral token.kind

theorem declarationsBefore_succ (tokens : List Token) (count : Nat) :
    declarationsBefore tokens (count + 1) =
      declarationsBefore tokens count ++ (declarationAt? tokens count).toList :=
  filterMap_range_succ ..

theorem prefix_declarationsBefore (tokens : List Token) {place count : Nat}
    (later : place ≤ count) :
    declarationsBefore tokens place <+: declarationsBefore tokens count := by
  induction later with
  | refl => exact List.prefix_rfl
  | step _ ih =>
      rw [declarationsBefore_succ]
      exact ih.trans (List.prefix_append _ _)

/-- The place alone tells what is declared there. -/
theorem declarationAt?_eq (tokens : List Token) (place : Nat) :
    declarationAt? tokens place =
      (Site.all tokens)[place]?.bind fun site =>
        site.declaration?.map fun (name, type) => ⟨name.text, type, site.token.line⟩ := by
  rw [Site.all, Site.getElem?_allAfter]
  cases here : tokens[place]? with
  | none => simp [declarationAt?, here]
  | some token =>
      simp only [declarationAt?, here, Site.declaration?, Site.kind, Site.next?, List.head?_drop,
        Option.bind_eq_bind, Option.bind_some, Option.map_some]
      cases ValueType.ofTypeName? token.kind with
      | none => rfl
      | some type =>
          cases tokens[place + 1]? with
          | none => rfl
          | some name => by_cases isName : name.kind = .identifier <;> simp [isName]

theorem name_mem_occurrences {tokens : List Token} {place : Nat} {declaration : Declaration}
    (declares : declarationAt? tokens place = some declaration) :
    declaration.name ∈ (Names.occurrences tokens).map (·.text) := by
  unfold declarationAt? at declares
  simp only [Option.bind_eq_bind, Option.bind_eq_some_iff] at declares
  obtain ⟨typeName, _, type, _, name, behind, declares⟩ := declares
  split at declares
  · next isName =>
      obtain rfl := Option.some.inj declares
      exact Names.text_mem_occurrences (List.mem_of_getElem? behind) isName
  · cases declares

theorem lt_length_of_declarationAt? {tokens : List Token} {place : Nat} {declaration : Declaration}
    (declares : declarationAt? tokens place = some declaration) : place < tokens.length := by
  unfold declarationAt? at declares
  obtain ⟨typeName, here, _⟩ := Option.bind_eq_some_iff.mp declares
  exact (List.getElem?_eq_some_iff.mp here).1

/-- The first declaration of a name stays the first one. -/
theorem find?_declarationsBefore {tokens : List Token} {place count : Nat}
    {declaration : Declaration} (declares : declarationAt? tokens place = some declaration)
    (first : ∀ earlier ∈ declarationsBefore tokens place, earlier.name ≠ declaration.name)
    (later : place < count) :
    (declarationsBefore tokens count).find? (·.name == declaration.name) = some declaration := by
  have none_before :
      (declarationsBefore tokens place).find? (·.name == declaration.name) = none := by
    refine List.find?_eq_none.mpr fun earlier member same => ?_
    exact first earlier member (beq_iff_eq.mp same)
  have here : (declarationsBefore tokens (place + 1)).find? (·.name == declaration.name) =
      some declaration := by
    rw [declarationsBefore_succ, List.find?_append, none_before, declares]
    simp
  exact (prefix_declarationsBefore tokens later).find?_eq_some here

/-- A variable without a declaration has no type and no value, and one with a declaration has a
type. -/
structure Variable.Sound (entry : Variable) : Prop where
  /-- The type is known from the declaration and from nothing else. -/
  type_eq_unknown_iff : entry.type = .unknown ↔ entry.declared = false
  /-- Only declared variables store values. -/
  value?_eq_none : entry.declared = false → entry.value? = none

namespace SymbolTable

/-- The type that a name was declared with, if it was declared. -/
def declared? (table : SymbolTable) (name : String) : Option ValueType :=
  (table.lookup? name).bind fun entry => if entry.declared then some entry.type else none

/-- All variables are sound. -/
def Sound (table : SymbolTable) : Prop :=
  ∀ name entry, table.lookup? name = some entry → entry.Sound

theorem declared?_isSome {table : SymbolTable} {name : String} {entry : Variable}
    (found : table.lookup? name = some entry) :
    (table.declared? name).isSome = entry.declared := by
  rw [declared?, found, Option.bind_some]
  cases entry.declared <;> rfl

end SymbolTable

theorem ValueType.ofTypeName?_ne_unknown {kind : Kind} {type : ValueType}
    (found : ofTypeName? kind = some type) : type ≠ .unknown := by
  rintro rfl
  cases kind <;> simp [ofTypeName?] at found

theorem Site.declaration?_type_ne_unknown {site : Site} {name : Token} {type : ValueType}
    (declares : site.declaration? = some (name, type)) : type ≠ .unknown := by
  simp only [declaration?, Option.bind_eq_bind, Option.bind_eq_some_iff] at declares
  obtain ⟨named, found, _, _, declares⟩ := declares
  split at declares
  · obtain ⟨-, rfl⟩ := Prod.mk.inj (Option.some.inj declares)
    exact ValueType.ofTypeName?_ne_unknown found
  · cases declares

namespace Walk

/-- A place adds its declaration to what is known, unless the name was declared before. -/
theorem declared?_symbolsBehind {walk : Walk} {name : String} (known : name ∈ walk.symbols.names)
    (site : Site) :
    (walk.symbolsBehind site).declared? name = (walk.symbols.declared? name).or
      ((site.declaration?.filter (·.1.text == name)).map (·.2)) := by
  rcases symbolsBehind_cases walk site with
    ⟨other, type, entry, declares, found, undeclared, behind⟩ |
    ⟨_, value, no_declaration, assigns, _, behind⟩ | ⟨declared, _, behind⟩
  · rw [behind, declares, SymbolTable.declared?, SymbolTable.lookup?_declare]
    by_cases same : other.text = name
    · subst same
      simp [SymbolTable.declared?, found, undeclared, Option.filter_some]
    · simp [SymbolTable.declared?, same, Ne.symm same, Option.filter_some]
  · rw [behind, no_declaration, SymbolTable.declared?, SymbolTable.lookup?_assign]
    split
    · simp only [SymbolTable.declared?, Option.bind_map, Function.comp_def, Option.filter_none,
        Option.map_none, Option.or_none]
    · simp [SymbolTable.declared?]
  · rw [behind]
    obtain ⟨entry, found⟩ := SymbolTable.mem_names_iff.mp known
    cases declares : site.declaration? with
    | none => simp
    | some declaration =>
        obtain ⟨other, type⟩ := declaration
        by_cases same : other.text = name
        · subst same
          have before := declared other type entry declares found
          simp [SymbolTable.declared?, found, before]
        · simp [same, Option.filter_some]

theorem declared_of_assignment? {walk : Walk} {site : Site} {assigned : ValueType × Token}
    {entry : Variable} (assigns : walk.assignment? site = some assigned)
    (found : walk.symbols.lookup? site.token.text = some entry) : entry.declared = true := by
  simp only [assignment?, Option.bind_eq_bind, Option.bind_eq_some_iff, found] at assigns
  obtain ⟨_, _, target, same, declared⟩ := assigns
  obtain rfl := Option.some.inj same
  split at declared
  · assumption
  · cases declared

theorem sound_symbolsBehind {walk : Walk} (sound : walk.symbols.Sound) (site : Site) :
    (walk.symbolsBehind site).Sound := by
  intro name entry found
  rcases symbolsBehind_cases walk site with
    ⟨other, type, _, declares, _, _, behind⟩ | ⟨_, value, _, assigns, _, behind⟩ | ⟨_, _, behind⟩
  · rw [behind, SymbolTable.lookup?_declare] at found
    split at found
    · obtain ⟨before, _, rfl⟩ := Option.map_eq_some_iff.mp found
      exact ⟨by simp [Site.declaration?_type_ne_unknown declares], by simp⟩
    · exact sound name entry found
  · rw [behind, SymbolTable.lookup?_assign] at found
    split at found
    · next same =>
        obtain ⟨before, stored, rfl⟩ := Option.map_eq_some_iff.mp found
        have declared : before.declared = true :=
          declared_of_assignment? assigns (same ▸ stored)
        exact ⟨(sound name before stored).type_eq_unknown_iff, by simp [declared]⟩
    · exact sound name entry found
  · rw [behind] at found
    exact sound name entry found

theorem sound_run {walk : Walk} (sound : walk.symbols.Sound) (sites : List Site) :
    (walk.run sites).symbols.Sound := by
  induction sites generalizing walk with
  | nil => exact sound
  | cons site later ih => exact ih (sound_symbolsBehind sound site)

theorem names_run (walk : Walk) (sites : List Site) :
    (walk.run sites).symbols.names = walk.symbols.names := by
  have sights := congrArg (List.map Variable.name) (firstSight_run walk sites)
  rw [List.map_map, List.map_map] at sights
  exact sights

end Walk

namespace Report

open Names

variable (initial : Char) (tokens : List Token)

/-- The variables behind a number of tokens of a program. -/
def symbolsAfter (count : Nat) : SymbolTable := (walkAfter initial tokens count).symbols

theorem symbols_ofTokens :
    (ofTokens initial tokens).symbols = (symbolsAfter initial tokens tokens.length).entries := by
  rw [symbolsAfter, walkAfter_length]
  rfl

theorem lookup?_ofTokens (name : String) :
    (ofTokens initial tokens).lookup? name =
      (symbolsAfter initial tokens tokens.length).lookup? name := by
  rw [lookup?, symbols_ofTokens, SymbolTable.lookup?_eq_find?]

/-- The names of the program, and no others, are in the table from the start. -/
theorem mem_names_symbolsAfter {name : String} {count : Nat} :
    name ∈ (symbolsAfter initial tokens count).names ↔
      name ∈ (occurrences tokens).map (·.text) := by
  rw [symbolsAfter, walkAfter, Walk.names_run, ← mem_names_table, ← table_sightings]
  rfl

theorem exists_lookup?_symbolsAfter {name : String}
    (occurs : name ∈ (occurrences tokens).map (·.text)) (count : Nat) :
    ∃ entry, (symbolsAfter initial tokens count).lookup? name = some entry :=
  SymbolTable.mem_names_iff.mp ((mem_names_symbolsAfter initial tokens).mpr occurs)

theorem sighted_of_lookup?_table {name : String} {entry : Variable}
    (found : (Names.table initial (sightings tokens)).lookup? name = some entry) :
    ∃ first, entry = variableOf initial first := by
  obtain ⟨firsts, _, entries_eq⟩ := exists_firstsOf initial tokens
  have member := SymbolTable.mem_of_lookup? found
  rw [entries_eq] at member
  obtain ⟨first, _, rfl⟩ := List.mem_map.mp member
  exact ⟨first, rfl⟩

theorem sound_symbolsAfter (count : Nat) : (symbolsAfter initial tokens count).Sound := by
  refine Walk.sound_run (fun name entry found => ?_) _
  obtain ⟨first, rfl⟩ := sighted_of_lookup?_table initial tokens found
  exact ⟨by simp [variableOf, Variable.sighted], fun _ => rfl⟩

/-- At each place the declared names are those of the declarations before, with the type of the
first one. -/
theorem declared?_symbolsAfter {name : String} (occurs : name ∈ (occurrences tokens).map (·.text))
    (count : Nat) :
    (symbolsAfter initial tokens count).declared? name =
      ((declarationsBefore tokens count).find? (·.name == name)).map (·.type) := by
  induction count with
  | zero =>
      change (Names.table initial (sightings tokens)).declared? name = none
      rw [SymbolTable.declared?, Option.bind_eq_none_iff]
      intro entry found
      obtain ⟨first, rfl⟩ := sighted_of_lookup?_table initial tokens found
      rfl
  | succ count ih =>
      rw [symbolsAfter, walkAfter_succ, declarationsBefore_succ, declarationAt?_eq]
      cases (Site.all tokens)[count]? with
      | none =>
          rw [Option.bind_none, Option.toList_none, List.append_nil, ← ih]
          rfl
      | some site =>
          have known : name ∈ (walkAfter initial tokens count).symbols.names :=
            (mem_names_symbolsAfter initial tokens).mpr occurs
          rw [Option.elim_some, Option.bind_some, Walk.step, Walk.declared?_symbolsBehind known,
            ← symbolsAfter, ih, List.find?_append, Option.map_or]
          congr 1
          cases site.declaration? with
          | none => rfl
          | some declaration =>
              by_cases same : declaration.1.text = name <;> simp [same, Option.filter_some]

/-- A variable is declared as soon as there is a declaration before. -/
theorem declared_eq_any {name : String} (occurs : name ∈ (occurrences tokens).map (·.text))
    {count : Nat} {entry : Variable}
    (found : (symbolsAfter initial tokens count).lookup? name = some entry) :
    entry.declared = (declarationsBefore tokens count).any (·.name == name) := by
  rw [← SymbolTable.declared?_isSome found, declared?_symbolsAfter initial tokens occurs,
    Option.isSome_map, List.isSome_find?]

/-- The type of a variable is that of the first declaration before. -/
theorem type_eq_of_find? {name : String} (occurs : name ∈ (occurrences tokens).map (·.text))
    {count : Nat} {entry : Variable} {declaration : Declaration}
    (found : (symbolsAfter initial tokens count).lookup? name = some entry)
    (first : (declarationsBefore tokens count).find? (·.name == name) = some declaration) :
    entry.type = declaration.type := by
  have declared := declared?_symbolsAfter initial tokens occurs count
  rw [first, SymbolTable.declared?, found, Option.bind_some, Option.map_some] at declared
  split at declared
  · exact Option.some.inj declared
  · cases declared

/-- The table knows the types that names have at a place. -/
theorem typeOf_symbolsAfter (place : Nat) (name : String) :
    (symbolsAfter initial tokens place).typeOf name = typeBefore tokens place name := by
  rw [SymbolTable.typeOf, typeBefore]
  cases found : (symbolsAfter initial tokens place).lookup? name with
  | none =>
      have no_declaration : (declarationsBefore tokens place).find? (·.name == name) = none := by
        refine List.find?_eq_none.mpr fun declaration member same => ?_
        obtain ⟨before, _, declares⟩ := List.mem_filterMap.mp member
        have occurs := name_mem_occurrences declares
        rw [beq_iff_eq.mp same] at occurs
        obtain ⟨entry, known⟩ := exists_lookup?_symbolsAfter initial tokens occurs place
        exact Option.some_ne_none entry (known.symm.trans found)
      rw [no_declaration]
      rfl
  | some entry =>
      have occurs : name ∈ (occurrences tokens).map (·.text) :=
        (mem_names_symbolsAfter initial tokens).mp (SymbolTable.mem_names_iff.mpr ⟨entry, found⟩)
      have sound := sound_symbolsAfter initial tokens place name entry found
      rw [← declared?_symbolsAfter initial tokens occurs, SymbolTable.declared?, found]
      cases declared : entry.declared with
      | true => simp [declared]
      | false => simp [declared, sound.type_eq_unknown_iff.mpr declared]

theorem typeOfToken_symbolsAfter (place : Nat) (token : Token) :
    (symbolsAfter initial tokens place).typeOfToken token = valueTypeBefore tokens place token := by
  rw [SymbolTable.typeOfToken, valueTypeBefore, typeOf_symbolsAfter]

/-- A declaration is reported where it stands, if its name was declared before. -/
theorem redeclarations_walkAfter {place : Nat} {site : Site}
    (found : (Site.all tokens)[place]? = some site) :
    (walkAfter initial tokens place).redeclarations site =
      ((declarationAt? tokens place).filter fun declaration =>
        (declarationsBefore tokens place).any (·.name == declaration.name)).toList.map
          fun declaration => (Cause.redeclaration declaration.name).onLine declaration.line := by
  have here := declarationAt?_eq tokens place
  rw [found, Option.bind_some] at here
  unfold Walk.redeclarations
  cases declares : site.declaration? with
  | none => simp [here, declares]
  | some declaration =>
      obtain ⟨name, type⟩ := declaration
      rw [declares, Option.map_some] at here
      have occurs := name_mem_occurrences here
      obtain ⟨entry, known⟩ := exists_lookup?_symbolsAfter initial tokens occurs place
      have before := declared_eq_any initial tokens occurs known
      change (walkAfter initial tokens place).symbols.lookup? name.text = some entry at known
      change entry.declared = (declarationsBefore tokens place).any (·.name == name.text) at before
      rw [here, Option.filter_some, ← before]
      simp only [known]
      cases entry.declared <;> rfl

theorem findingsOf_redeclaration :
    (ofTokens initial tokens).findingsOf .redeclaration =
      (repeatedDeclarations tokens).map fun declaration =>
        (Cause.redeclaration declaration.name).onLine declaration.line := by
  rw [findingsOf_walk (by decide), repeatedDeclarations, List.map_filterMap,
    List.filterMap_eq_flatMap_toList]
  refine List.flatMap_congr fun place _ => ?_
  cases found : (Site.all tokens)[place]? with
  | none => simp [declarationAt?_eq, found]
  | some site =>
      rw [Option.elim_some, Walk.filter_findingsAt, redeclarations_walkAfter initial tokens found,
        Option.toList_map]
      simp

/-- What is never declared is reported at its first occurrence, in the order of these. -/
theorem exists_findingsOf_undeclaredUse :
    ∃ firsts, FirstsOf tokens firsts ∧
      (ofTokens initial tokens).findingsOf .undeclaredUse =
        (firsts.filter fun first => !(declarations tokens).any (·.name == first.text)).map
          fun first => (Cause.undeclaredUse first.text).onLine first.line := by
  obtain ⟨firsts, firstsOf, entries_eq⟩ := exists_firstsOf initial tokens
  refine ⟨firsts, firstsOf, ?_⟩
  have sights := firstSight_symbols initial tokens
  rw [entries_eq] at sights
  have places := congrArg (List.map fun entry : Variable => (entry.name, entry.line)) sights
  simp only [List.map_map] at places
  change (ofTokens initial tokens).symbols.map (fun entry => (entry.name, entry.line)) =
    firsts.map (fun first => (first.text, first.line)) at places
  have undeclared_iff : ∀ entry ∈ (ofTokens initial tokens).symbols,
      (!entry.declared) = !(declarations tokens).any (·.name == entry.name) := by
    intro entry member
    rw [symbols_ofTokens] at member
    have occurs : entry.name ∈ (occurrences tokens).map (·.text) :=
      (mem_names_symbolsAfter initial tokens).mp (List.mem_map_of_mem member)
    rw [declarations, declared_eq_any initial tokens occurs (SymbolTable.lookup?_of_mem member)]
  let wanted (place : String × Nat) : Bool := !(declarations tokens).any (·.name == place.1)
  let report (place : String × Nat) : Finding := (Cause.undeclaredUse place.1).onLine place.2
  calc (ofTokens initial tokens).findingsOf .undeclaredUse
      = ((ofTokens initial tokens).symbols.filter fun entry => !entry.declared).map
          fun entry => report (entry.name, entry.line) := findingsOf_undeclaredUse ..
    _ = ((((ofTokens initial tokens).symbols.map fun entry => (entry.name, entry.line)).filter
          wanted).map report) := by
        rw [List.filter_congr undeclared_iff, List.filter_map, List.map_map]
        rfl
    _ = _ := by
        rw [places, List.filter_map, List.map_map]
        rfl

/-- A use before the first of two declarations, whose types differ, and a name without any. -/
def declaredTwice : List Token :=
  [⟨.identifier, "_x", 1, ⟨0, 2⟩⟩, ⟨.intType, "int", 2, ⟨3, 6⟩⟩, ⟨.identifier, "_x", 2, ⟨7, 9⟩⟩,
    ⟨.stringType, "string", 3, ⟨10, 16⟩⟩, ⟨.identifier, "_x", 3, ⟨17, 19⟩⟩,
    ⟨.identifier, "_y", 4, ⟨20, 22⟩⟩]

end Report
end NovaLint
