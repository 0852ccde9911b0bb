import NovaLint.Check.Walk
import Mathlib.Data.List.Nodup

/-!
# Variables and what changes them

The index of a table leads to the one variable of a name.  Declaring a variable or storing a value
changes the variable of that name and no other, and keeps what was known of it when it was first
seen.  On the way through a program nothing else happens to the variables: a place declares a name
for the first time, or it stores a value that does not clash, or it leaves all variables as they
are.
-/

namespace NovaLint

/-- What was known of a variable when its name was first seen. -/
def Variable.firstSight (entry : Variable) : Variable :=
  .sighted entry.name entry.line entry.wellNamed

namespace SymbolTable

variable {table : SymbolTable} {name : String} {entry : Variable}

theorem index?_eq_some_iff {place : Nat} :
    table.index? name = some place ↔ table.names[place]? = some name := by
  rw [index?, table.inStep, names, List.getElem?_map]

theorem index?_eq_none_iff : table.index? name = none ↔ name ∉ table.names := by
  rw [Option.eq_none_iff_forall_ne_some, List.mem_iff_getElem?, not_exists]
  simp only [ne_eq, index?_eq_some_iff]

/-- No two variables have the same name: the index would have to lead to both. -/
theorem distinct (table : SymbolTable) : (table.entries.map (·.name)).Nodup := by
  change table.names.Nodup
  rw [List.nodup_iff_getElem?_ne_getElem?]
  intro earlier later before within same
  have at_later : table.index? table.names[later] = some later :=
    index?_eq_some_iff.mpr (List.getElem?_eq_getElem within)
  have at_earlier : table.index? table.names[later] = some earlier :=
    index?_eq_some_iff.mpr (same.trans (List.getElem?_eq_getElem within))
  exact absurd (Option.some.inj (at_earlier.symm.trans at_later)) (Nat.ne_of_lt before)

theorem index?_eq_idxOf? (table : SymbolTable) (name : String) :
    table.index? name = table.names.idxOf? name := by
  refine Option.ext fun place => ?_
  rw [index?_eq_some_iff, List.idxOf?_eq_some_iff, List.getElem?_eq_some_iff]
  constructor
  · rintro ⟨within, here⟩
    refine ⟨within, here, fun earlier before same => Nat.ne_of_lt before ?_⟩
    exact table.distinct.getElem_inj_iff.mp (same.trans here.symm)
  · rintro ⟨within, here, _⟩
    exact ⟨within, here⟩

theorem lookup?_eq_find? (table : SymbolTable) (name : String) :
    table.lookup? name = table.entries.find? (·.name == name) := by
  rw [lookup?, index?_eq_idxOf?, names, List.idxOf?, List.findIdx?_map]
  exact List.find?_eq_bind_findIdx?_getElem?.symm

theorem mem_of_lookup? (found : table.lookup? name = some entry) : entry ∈ table.entries := by
  rw [lookup?_eq_find?] at found
  exact List.mem_of_find?_eq_some found

theorem name_of_lookup? (found : table.lookup? name = some entry) : entry.name = name := by
  rw [lookup?_eq_find?] at found
  simpa using List.find?_some found

/-- A variable of the table is the one that is found under its name. -/
theorem lookup?_of_mem (member : entry ∈ table.entries) :
    table.lookup? entry.name = some entry := by
  obtain ⟨front, back, split⟩ := List.append_of_mem member
  have distinct := table.distinct
  rw [split, List.map_append, List.nodup_append] at distinct
  have before : front.find? (·.name == entry.name) = none := by
    refine List.find?_eq_none.mpr fun other among same => ?_
    exact distinct.2.2 _ (List.mem_map_of_mem among) _ List.mem_cons_self (beq_iff_eq.mp same)
  rw [lookup?_eq_find?, split, List.find?_append, before, Option.none_or]
  simp

theorem lookup?_eq_some_iff :
    table.lookup? name = some entry ↔ entry ∈ table.entries ∧ entry.name = name := by
  constructor
  · intro found
    exact ⟨mem_of_lookup? found, name_of_lookup? found⟩
  · rintro ⟨member, rfl⟩
    exact lookup?_of_mem member

theorem mem_names_iff : name ∈ table.names ↔ ∃ entry, table.lookup? name = some entry := by
  simp only [lookup?_eq_some_iff]
  exact List.mem_map

theorem insert_of_mem (taken : entry.name ∈ table.names) :
    table.insert entry = (false, table) := by
  rw [insert, dif_neg (mt index?_eq_none_iff.mp (not_not_intro taken))]

theorem entries_insert_of_not_mem (free : entry.name ∉ table.names) :
    (table.insert entry).2.entries = table.entries ++ [entry] := by
  rw [insert, dif_pos (index?_eq_none_iff.mpr free)]

theorem added_insert (table : SymbolTable) (entry : Variable) :
    (table.insert entry).1 = decide (entry.name ∉ table.names) := by
  simp only [← index?_eq_none_iff]
  by_cases free : table.index? entry.name = none <;> simp [insert, free]

/-- A variable is found under its name once it was added, unless another one was there. -/
theorem lookup?_insert (table : SymbolTable) (entry : Variable) (name : String) :
    (table.insert entry).2.lookup? name =
      (table.lookup? name).or (if entry.name = name then some entry else none) := by
  by_cases taken : entry.name ∈ table.names
  · rw [insert_of_mem taken]
    by_cases same : entry.name = name
    · obtain ⟨before, found⟩ := mem_names_iff.mp taken
      rw [← same, found, Option.some_or]
    · rw [if_neg same, Option.or_none]
  · rw [lookup?_eq_find?, lookup?_eq_find?, entries_insert_of_not_mem taken, List.find?_append]
    congr 1
    simp [List.find?_singleton]

/-- The variables of one name are changed, which is one at most. -/
theorem entries_modify (table : SymbolTable) (name : String) (change : Variable → Variable) :
    (table.modify name change).entries =
      table.entries.map fun entry => if entry.name = name then entry.update change else entry := by
  unfold modify
  split
  · next place found =>
      refine List.ext_getElem? fun behind => ?_
      rw [List.getElem?_modify, List.getElem?_map]
      cases at_behind : table.entries[behind]? with
      | none => rfl
      | some entry =>
          have here_iff : place = behind ↔ entry.name = name :=
            calc
              place = behind ↔ table.index? name = some behind := by rw [found, Option.some_inj]
              _ ↔ table.names[behind]? = some name := index?_eq_some_iff
              _ ↔ entry.name = name := by
                rw [names, List.getElem?_map, at_behind, Option.map_some, Option.some_inj]
          simp only [Option.map_eq_map, Option.map_some, here_iff]
  · next absent =>
      refine ((List.map_congr_left fun entry member => if_neg fun same => ?_).trans
        (List.map_id table.entries)).symm
      exact index?_eq_none_iff.mp absent (same ▸ List.mem_map_of_mem member)

theorem index_modify (table : SymbolTable) (name : String) (change : Variable → Variable) :
    (table.modify name change).index = table.index := by
  unfold modify
  split <;> rfl

/-- What a change keeps of each variable, it keeps of all of them. -/
theorem map_modify {α : Type} (table : SymbolTable) (name : String) {view : Variable → α}
    {change : Variable → Variable}
    (kept : ∀ entry : Variable, view (entry.update change) = view entry) :
    (table.modify name change).entries.map view = table.entries.map view := by
  rw [entries_modify, List.map_map]
  refine List.map_congr_left fun entry _ => ?_
  by_cases changed : entry.name = name <;> simp [changed, kept]

theorem names_modify (table : SymbolTable) (name : String) (change : Variable → Variable) :
    (table.modify name change).names = table.names :=
  map_modify table name fun entry => entry.name_update change

theorem lookup?_modify (table : SymbolTable) (name other : String) (change : Variable → Variable) :
    (table.modify name change).lookup? other =
      if other = name then (table.lookup? other).map (·.update change)
      else table.lookup? other := by
  have same_name : ((fun entry : Variable => entry.name == other) ∘ fun entry =>
      if entry.name = name then entry.update change else entry) = (·.name == other) := by
    funext entry
    by_cases changed : entry.name = name <;> simp [changed]
  rw [lookup?_eq_find?, entries_modify, List.find?_map, same_name, ← lookup?_eq_find?]
  cases found : table.lookup? other with
  | none => simp
  | some entry =>
      rw [Option.map_some, Option.map_some, name_of_lookup? found]
      split <;> rfl

theorem lookup?_declare (table : SymbolTable) (name other : String) (type : ValueType) :
    (table.declare name type).lookup? other =
      if other = name then
        (table.lookup? other).map fun entry => { entry with declared := true, type }
      else table.lookup? other :=
  lookup?_modify ..

theorem lookup?_assign (table : SymbolTable) (name other value : String) :
    (table.assign name value).lookup? other =
      if other = name then
        (table.lookup? other).map fun entry => { entry with value? := some value }
      else table.lookup? other :=
  lookup?_modify ..

theorem firstSight_declare (table : SymbolTable) (name : String) (type : ValueType) :
    (table.declare name type).entries.map (·.firstSight) = table.entries.map (·.firstSight) :=
  map_modify table name fun _ => rfl

theorem firstSight_assign (table : SymbolTable) (name value : String) :
    (table.assign name value).entries.map (·.firstSight) = table.entries.map (·.firstSight) :=
  map_modify table name fun _ => rfl

end SymbolTable

namespace Walk

/-- No place both declares a name and assigns a value. -/
theorem assignment?_of_declaration? (walk : Walk) {site : Site} {declared : Token × ValueType}
    (declares : site.declaration? = some declared) : walk.assignment? site = none := by
  have no_name : site.kind ≠ .identifier := by
    intro name
    rw [Site.declaration?, name] at declares
    cases declares
  rw [assignment?, Site.assignedValue?, if_neg fun both => no_name both.1]
  rfl

/-- All that a place can do to the variables. -/
theorem symbolsBehind_cases (walk : Walk) (site : Site) :
    (∃ name type entry, site.declaration? = some (name, type) ∧
      walk.symbols.lookup? name.text = some entry ∧ entry.declared = false ∧
      walk.symbolsBehind site = walk.symbols.declare name.text type) ∨
    (∃ type value, site.declaration? = none ∧ walk.assignment? site = some (type, value) ∧
      walk.clash? site = none ∧
      walk.symbolsBehind site = walk.symbols.assign site.token.text value.text) ∨
    ((∀ name type entry, site.declaration? = some (name, type) →
        walk.symbols.lookup? name.text = some entry → entry.declared = true) ∧
      (walk.assignment? site ≠ none → walk.clash? site ≠ none) ∧
      walk.symbolsBehind site = walk.symbols) := by
  cases declares : site.declaration? with
  | some declared =>
      have no_value := assignment?_of_declaration? walk declares
      obtain ⟨name, type⟩ := declared
      cases found : walk.symbols.lookup? name.text with
      | none => exact .inr (.inr ⟨by grind, by simp [no_value], by simp [symbolsBehind, *]⟩)
      | some entry =>
          cases before : entry.declared with
          | false => exact .inl ⟨name, type, entry, rfl, found, before, by simp [symbolsBehind, *]⟩
          | true => exact .inr (.inr ⟨by grind, by simp [no_value], by simp [symbolsBehind, *]⟩)
  | none =>
      cases assigns : walk.assignment? site with
      | none => exact .inr (.inr ⟨by simp, by simp, by simp [symbolsBehind, *]⟩)
      | some assigned =>
          obtain ⟨type, value⟩ := assigned
          cases clashes : walk.clash? site with
          | none => exact .inr (.inl ⟨type, value, rfl, rfl, rfl, by simp [symbolsBehind, *]⟩)
          | some types => exact .inr (.inr ⟨by simp, by simp, by simp [symbolsBehind, *]⟩)

theorem firstSight_symbolsBehind (walk : Walk) (site : Site) :
    (walk.symbolsBehind site).entries.map (·.firstSight) =
      walk.symbols.entries.map (·.firstSight) := by
  rcases symbolsBehind_cases walk site with
    ⟨name, type, _, _, _, _, declares⟩ | ⟨_, value, _, _, _, assigns⟩ | ⟨_, _, same⟩
  · rw [declares, SymbolTable.firstSight_declare]
  · rw [assigns, SymbolTable.firstSight_assign]
  · rw [same]

/-- What was known at first sight is never changed on the way. -/
theorem firstSight_run (walk : Walk) (sites : List Site) :
    (walk.run sites).symbols.entries.map (·.firstSight) =
      walk.symbols.entries.map (·.firstSight) := by
  induction sites generalizing walk with
  | nil => rfl
  | cons site later ih => exact (ih (walk.step site)).trans (firstSight_symbolsBehind walk site)

end Walk
end NovaLint
