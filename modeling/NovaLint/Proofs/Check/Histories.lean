import NovaLint.Proofs.Check.FirstSight

/-!
# Histories of symbol tables

A table comes about by operations: variables are offered to it, names are looked up, and what is
known of a name is changed.  Its contents can be told from the operations alone.  A name keeps the
first variable that was offered under it, with all changes to the name since; the names stand in the
order in which they were first offered; and the index leads to each of them.
-/

namespace NovaLint
namespace SymbolTable

/-- What may be done to a table or asked of it. -/
inductive Operation where
  /-- Offer a variable. -/
  | insert (entry : Variable)
  /-- Ask for the variable of a name. -/
  | lookup (name : String)
  /-- Ask for the type of a name. -/
  | typeOf (name : String)
  /-- Change what is known of a name, but not the name. -/
  | modify (name : String) (change : Variable → Variable)
      (same : ∀ entry, (change entry).name = entry.name)

/-- What a table answers to an operation. -/
inductive Answer where
  /-- Whether the variable was added. -/
  | added (new : Bool)
  /-- The variable of the name, if it has one. -/
  | found (kept? : Option Variable)
  /-- The type of the name. -/
  | type (type : ValueType)
deriving DecidableEq, Repr

/-- The answer to an operation and the table behind it.  A change is answered by the variable as it
is then. -/
def perform (table : SymbolTable) : Operation → Answer × SymbolTable
  | .insert entry =>
    let (new, behind) := table.insert entry
    (.added new, behind)
  | .lookup name => (.found (table.lookup? name), table)
  | .typeOf name => (.type (table.typeOf name), table)
  | .modify name change _ =>
    let behind := table.modify name change
    (.found (behind.lookup? name), behind)

/-- The table behind a history that began with the empty table. -/
def after (history : List Operation) : SymbolTable :=
  history.foldl (fun table operation => (table.perform operation).2) .empty

/-- The names under which variables were offered, in order. -/
def offered (history : List Operation) : List String :=
  history.filterMap fun
    | .insert entry => some entry.name
    | _ => none

/-- The variable of a name with all changes to the name. -/
def revised (name : String) : List Operation → Variable → Variable
  | [], entry => entry
  | .modify other change _ :: later, entry =>
    revised name later (if other = name then change entry else entry)
  | _ :: later, entry => revised name later entry

/-- The first variable that was offered under a name, with all changes to the name since. -/
def kept? (name : String) : List Operation → Option Variable
  | [] => none
  | .insert entry :: later =>
    if entry.name = name then some (revised name later entry) else kept? name later
  | _ :: later => kept? name later

/-- The answer that an operation gets behind a history. -/
def Operation.answer (history : List Operation) : Operation → Answer
  | .insert entry => .added (entry.name ∉ offered history)
  | .lookup name => .found (kept? name history)
  | .typeOf name => .type (((kept? name history).map (·.type)).getD .unknown)
  | .modify name change _ => .found ((kept? name history).map change)

/-- What an operation makes of a table. -/
def Operation.Makes (before behind : SymbolTable) : Operation → Prop
  | .insert entry =>
    if entry.name ∈ before.names then behind = before
    else behind.entries = before.entries ++ [entry]
  | .lookup _ | .typeOf _ => behind = before
  | .modify name change _ =>
    behind.index = before.index ∧
      behind.entries = before.entries.map fun entry =>
        if entry.name = name then change entry else entry

/-- A table holds what its history tells. -/
structure Holds (table : SymbolTable) (history : List Operation) : Prop where
  /-- The index leads from a name to a place exactly if the variable there has the name. -/
  index_iff : ∀ name place,
    table.index.lookup name = some place ↔ table.entries[place]?.map (·.name) = some name
  /-- No two variables have the same name. -/
  distinct : table.names.Nodup
  /-- The names stand in the order in which they were first offered. -/
  order : FirstOccurrences (offered history) table.names
  /-- Each variable is the first that was offered under its name, with all changes since. -/
  kept : ∀ entry ∈ table.entries, kept? entry.name history = some entry

section

variable (name : String) (history : List Operation) (entry : Variable)

theorem offered_concat (operation : Operation) :
    offered (history ++ [operation]) = offered history ++ offered [operation] :=
  List.filterMap_append

theorem revised_append (later : List Operation) :
    revised name (history ++ later) entry = revised name later (revised name history entry) := by
  induction history generalizing entry with
  | nil => rfl
  | cons operation history ih => cases operation <;> exact ih _

/-- What was first offered stays, and is changed with what follows. -/
theorem kept?_append (later : List Operation) :
    kept? name (history ++ later) =
      ((kept? name history).map (revised name later)).or (kept? name later) := by
  induction history with
  | nil => rfl
  | cons operation history ih =>
      cases operation with
      | insert entry =>
          rw [List.cons_append, kept?, kept?]
          split
          · rw [revised_append, Option.map_some, Option.some_or]
          · exact ih
      | lookup | typeOf | modify => exact ih

end

theorem after_concat (history : List Operation) (operation : Operation) :
    after (history ++ [operation]) = ((after history).perform operation).2 :=
  List.foldl_concat ..

/-- An operation changes what is found under a name as it changes what is kept for it. -/
theorem lookup?_perform (table : SymbolTable) (operation : Operation) (name : String) :
    (table.perform operation).2.lookup? name =
      ((table.lookup? name).map (revised name [operation])).or (kept? name [operation]) := by
  -- Only a change revises what is found, and only an offer keeps something new.
  cases operation with
  | insert entry =>
      change _ = ((table.lookup? name).map id).or (if entry.name = name then some entry else none)
      rw [Option.map_id, id_eq]
      exact lookup?_insert ..
  | lookup | typeOf =>
      change _ = ((table.lookup? name).map id).or none
      rw [Option.map_id, id_eq, Option.or_none]
      rfl
  | modify other change same =>
      change (table.modify other change).lookup? name =
        ((table.lookup? name).map fun entry => if other = name then change entry else entry).or none
      rw [lookup?_modify, Option.or_none]
      by_cases here : name = other
      · rw [if_pos here]
        refine Option.map_congr fun entry _ => ?_
        rw [if_pos here.symm, Variable.update_of_name_eq (same entry)]
      · simp [here, Ne.symm here]

/-- A name that is offered comes behind the others, unless it is among them. -/
theorem firstOccurrences_names_perform {whole : List String} {table : SymbolTable}
    (order : FirstOccurrences whole table.names) (operation : Operation) :
    FirstOccurrences (whole ++ offered [operation]) (table.perform operation).2.names := by
  cases operation with
  | insert entry =>
      change FirstOccurrences (whole ++ [entry.name]) (table.insert entry).2.names
      by_cases taken : entry.name ∈ table.names
      · rw [insert_of_mem taken]
        exact order.concat_of_mem ((order.mem_iff _).mp taken)
      · rw [names, entries_insert_of_not_mem taken, List.map_append]
        exact order.concat_of_not_mem (mt (order.mem_iff _).mpr taken)
  | lookup | typeOf => exact (List.append_nil whole).symm ▸ order
  | modify other change same =>
      change FirstOccurrences (whole ++ []) (table.modify other change).names
      rw [List.append_nil, names_modify]
      exact order

theorem makes_perform (table : SymbolTable) (operation : Operation) :
    operation.Makes table (table.perform operation).2 := by
  cases operation with
  | insert entry =>
      rw [Operation.Makes]
      split
      · next taken => exact congrArg Prod.snd (insert_of_mem taken)
      · next free => exact entries_insert_of_not_mem free
  | lookup | typeOf => rfl
  | modify name change same =>
      refine ⟨index_modify .., (entries_modify ..).trans (List.map_congr_left fun entry _ => ?_)⟩
      rw [Variable.update_of_name_eq (same entry)]

/-- A look-up finds what was first offered under the name, as it has become since. -/
theorem lookup?_after (name : String) (history : List Operation) :
    (after history).lookup? name = kept? name history := by
  induction history using List.reverseRecOn with
  | nil => rfl
  | append_singleton history operation ih => rw [after_concat, lookup?_perform, kept?_append, ih]

/-- The names are those that were offered, in the order of the first offers. -/
theorem firstOccurrences_names_after (history : List Operation) :
    FirstOccurrences (offered history) (after history).names := by
  induction history using List.reverseRecOn with
  | nil => exact firstOccurrences_nil
  | append_singleton history operation ih =>
      rw [after_concat, offered_concat]
      exact firstOccurrences_names_perform ih operation

theorem answer_after (history : List Operation) (operation : Operation) :
    ((after history).perform operation).1 = operation.answer history := by
  cases operation with
  | insert entry =>
      change Answer.added ((after history).insert entry).1 = _
      rw [added_insert, Operation.answer]
      simp only [(firstOccurrences_names_after history).mem_iff]
  | lookup name => exact congrArg Answer.found (lookup?_after name history)
  | typeOf name =>
      change Answer.type ((after history).typeOf name) = _
      rw [typeOf, lookup?_after, Operation.answer]
  | modify name change same =>
      change Answer.found (((after history).modify name change).lookup? name) = _
      rw [lookup?_modify, if_pos rfl, lookup?_after, Operation.answer]
      congr 1
      exact Option.map_congr fun entry _ => Variable.update_of_name_eq (same entry)

/-- A table holds what its history tells, each operation gets the answer that the history calls for,
and it makes of the table what it is meant to make. -/
theorem told_by_history (history : List Operation) :
    (after history).Holds history ∧
      ∀ operation, ((after history).perform operation).1 = operation.answer history ∧
        operation.Makes (after history) (after (history ++ [operation])) := by
  refine ⟨⟨(after history).inStep, (after history).distinct,
    firstOccurrences_names_after history, fun entry member => ?_⟩, fun operation =>
    ⟨answer_after history operation, ?_⟩⟩
  · rw [← lookup?_after]
    exact lookup?_of_mem member
  · rw [after_concat]
    exact makes_perform ..

/-- A variable that is offered again, behind a declaration, is left as it was declared. -/
example :
    (after
        [.insert (.sighted "_a" 1 true), .insert (.sighted "_b" 1 true),
          .modify "_a" (fun entry => { entry with declared := true, type := .float }) fun _ => rfl,
          .insert (.sighted "_a" 5 true)]).entries =
      [⟨"_a", .float, none, 1, true, true⟩, .sighted "_b" 1 true] := by decide

end SymbolTable
end NovaLint
