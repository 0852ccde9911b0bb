import NovaLint.CommandLine.FileTree

/-!
# Writing a file

A path that can be followed leads through directories only, so the places above its target are there
already.  Writing the file at its target makes no directory and changes no other file, and the path
leads to the new content.  If the file cannot be written nothing changes at all.
-/

namespace NovaLint

namespace Place

variable {place other above : Place}

theorem isOnWayTo_iff :
    place.isOnWayTo other ↔ place.origin = other.origin ∧ place.names <+: other.names := by
  rw [isOnWayTo, Bool.and_eq_true, beq_iff_eq, List.isPrefixOf_iff_prefix]

theorem eq_of_isOnWayTo_origin (on_way : above.isOnWayTo place) (at_origin : place.names = []) :
    above = place := by
  obtain ⟨same_origin, front⟩ := isOnWayTo_iff.mp on_way
  rw [at_origin, List.prefix_nil] at front
  cases above
  cases place
  simp_all

/-- The way to a name in a directory leads through the directory. -/
theorem eq_or_isOnWayTo_of_child {name : String} (on_way : above.isOnWayTo (place.child name)) :
    above = place.child name ∨ above.isOnWayTo place := by
  obtain ⟨same_origin, front⟩ := isOnWayTo_iff.mp on_way
  rcases List.prefix_concat_iff.mp front with whole | front
  · left
    cases above
    simp_all [child]
  · exact .inr (isOnWayTo_iff.mpr ⟨same_origin, front⟩)

/-- What is on the way to a directory is on the way to all that it holds. -/
theorem isOnWayTo_of_parent (on_way : above.isOnWayTo place.parent)
    (proper : above ≠ place.parent) : above.isOnWayTo place ∧ above ≠ place := by
  obtain ⟨origin, names⟩ := place
  cases names with
  | nil =>
      cases origin <;> exact absurd (eq_of_isOnWayTo_origin on_way rfl) proper
  | cons name names =>
      have parent_eq : parent ⟨origin, name :: names⟩ = ⟨origin, (name :: names).dropLast⟩ := by
        cases origin <;> rfl
      rw [parent_eq] at on_way
      obtain ⟨same_origin, front⟩ := isOnWayTo_iff.mp on_way
      refine ⟨isOnWayTo_iff.mpr ⟨same_origin, front.trans (List.dropLast_prefix _)⟩, ?_⟩
      rintro rfl
      have shorter := front.length_le
      simp only [List.length_dropLast, List.length_cons, Nat.add_sub_cancel] at shorter
      omega

end Place

namespace FileTree

variable {tree after : FileTree} {place next other : Place}

/-- All places on the way to a place are directories. -/
def Rooted (tree : FileTree) (place : Place) : Prop :=
  ∀ above : Place, above.isOnWayTo place → above ≠ place → tree.node? above = some .directory

theorem rooted_origin (at_origin : place.names = []) : tree.Rooted place :=
  fun _ on_way proper => absurd (Place.eq_of_isOnWayTo_origin on_way at_origin) proper

/-- A step leads on from a directory. -/
theorem step_eq_ok_iff {name : String} :
    tree.step place name = .ok next ↔
      tree.node? place = some .directory ∧ next = place.follow name := by
  rw [step]
  cases tree.node? place with
  | none => simp
  | some node => cases node <;> simp [eq_comm]

theorem Rooted.step {name : String} (rooted : tree.Rooted place)
    (led : tree.step place name = .ok next) : tree.Rooted next := by
  obtain ⟨directory, rfl⟩ := step_eq_ok_iff.mp led
  rw [Place.follow]
  split
  · exact rooted
  · split
    · intro above on_way proper
      obtain ⟨on_way, proper⟩ := Place.isOnWayTo_of_parent on_way proper
      exact rooted above on_way proper
    · intro above on_way proper
      rcases Place.eq_or_isOnWayTo_of_child on_way with rfl | on_way
      · exact absurd rfl proper
      · cases Decidable.em (above = place) with
        | inl same => exact same ▸ directory
        | inr proper => exact rooted above on_way proper

/-- A path that begins with a name makes one step and goes on from there. -/
theorem foldlM_step_cons {name : String} {names : List String} :
    (name :: names).foldlM tree.step place = .ok other ↔
      ∃ next, tree.step place name = .ok next ∧ names.foldlM tree.step next = .ok other := by
  rw [List.foldlM_cons]
  cases tree.step place name with
  | error error => simp [bind, Except.bind]
  | ok next => simp [bind, Except.bind]

theorem Rooted.foldlM {names : List String} (rooted : tree.Rooted place)
    (led : names.foldlM tree.step place = .ok next) : tree.Rooted next := by
  induction names generalizing place with
  | nil => exact Except.ok.inj led ▸ rooted
  | cons name names ih =>
      obtain ⟨middle, first, later⟩ := foldlM_step_cons.mp led
      exact ih (rooted.step first) later

/-- A path that can be followed leads through directories. -/
theorem rooted_of_follow {path : FilePath} (at_origin : path.start.names = [])
    (led : tree.follow path = .ok place) : tree.Rooted place :=
  (rooted_origin at_origin).foldlM led

theorem names_start_ofText (path : String) : (FilePath.ofText path).start.names = [] := by
  rw [FilePath.ofText]
  dsimp only
  split <;> rfl

/-- A path leads to the same place where all directories are still there. -/
theorem follow_of_directories {path : FilePath}
    (kept : ∀ place, tree.node? place = some .directory → after.node? place = some .directory)
    (led : tree.follow path = .ok place) : after.follow path = .ok place := by
  rw [follow] at led ⊢
  generalize path.names = names at led ⊢
  generalize path.start = start at led ⊢
  induction names generalizing start with
  | nil => exact led
  | cons name names ih =>
      obtain ⟨middle, first, later⟩ := foldlM_step_cons.mp led
      obtain ⟨directory, reached⟩ := step_eq_ok_iff.mp first
      exact foldlM_step_cons.mpr ⟨middle, step_eq_ok_iff.mpr ⟨kept start directory, reached⟩,
        ih middle later⟩

theorem lookup_filter_of_ne (entries : List (Place × Node)) (distinct : other ≠ place) :
    (entries.filter fun entry => entry.1 != place).lookup other = entries.lookup other := by
  induction entries with
  | nil => rfl
  | cons entry entries ih =>
      cases Decidable.em (entry.1 = place) with
      | inl same =>
          rw [List.filter_cons_of_neg (by simpa using same), List.lookup_cons, same,
            beq_eq_false_iff_ne.mpr distinct, ih]
      | inr kept =>
          rw [List.filter_cons_of_pos (by simpa using kept), List.lookup_cons, List.lookup_cons, ih]

/-- A place that is listed is on the way of its own directories too. -/
theorem any_isOnWayTo_put {node : Node} :
    (tree.put place node).entries.any (fun entry => other.isOnWayTo entry.1) =
      (other.isOnWayTo place || tree.entries.any fun entry => other.isOnWayTo entry.1) := by
  rw [put, List.any_cons]
  cases aside : other.isOnWayTo place with
  | true => rfl
  | false =>
      rw [Bool.false_or, Bool.false_or, List.any_filter]
      congr 1
      funext entry
      cases Decidable.em (entry.1 = place) with
      | inl same => rw [same, aside, Bool.and_false]
      | inr kept => rw [bne_iff_ne.mpr kept, Bool.true_and]

theorem node?_put_self {node : Node} (below : place.names ≠ []) :
    (tree.put place node).node? place = some node := by
  rw [node?, if_neg (by simpa using below)]
  simp [put]

/-- What is put in a place changes no other place, if all directories above it are there. -/
theorem node?_put_of_ne {node : Node} (rooted : tree.Rooted place) (distinct : other ≠ place) :
    (tree.put place node).node? other = tree.node? other := by
  have lookup_eq : (tree.put place node).entries.lookup other = tree.entries.lookup other := by
    rw [put, List.lookup_cons, beq_eq_false_iff_ne.mpr distinct]
    exact lookup_filter_of_ne tree.entries distinct
  rw [node?, node?, lookup_eq, any_isOnWayTo_put]
  cases on_way : other.isOnWayTo place with
  | false => rfl
  | true =>
      have directory := rooted other on_way distinct
      rw [node?] at directory
      split
      · rfl
      · next below =>
          rw [if_neg below] at directory
          split at directory
          · rfl
          · exact directory.symm

theorem decode_toUTF8 (text : String) : decode text.toUTF8 = .ok text := by
  simp only [decode, String.fromUTF8?, String.toUTF8_eq_toByteArray, dif_pos text.isValidUTF8]
  rfl

/-- A file can be written where a path leads that asks for no directory, if none is there. -/
theorem writeText_eq_ok_iff {path text : String} :
    tree.writeText path text = .ok after ↔
      (FilePath.ofText path).wantsDirectory = false ∧
        ∃ place, tree.follow (.ofText path) = .ok place ∧ tree.node? place ≠ some .directory ∧
          after = tree.put place (.file text.toUTF8) := by
  rw [writeText]
  cases led : tree.follow (.ofText path) with
  | error error => simp [bind, Except.bind]
  | ok place =>
      simp only [bind, Except.bind, Except.ok.injEq, exists_eq_left']
      cases (FilePath.ofText path).wantsDirectory with
      | true => simp
      | false =>
          cases tree.node? place with
          | none => simp [eq_comm]
          | some node => cases node <;> simp [eq_comm]

/-- What became of files when one was to be written, and how that was told. -/
inductive Saved (tree : FileTree) (path text : String) : Except FileError Unit → FileTree → Prop
  /-- The file was not written and nothing has changed. -/
  | failed {error : FileError} (refused : tree.writeText path text = .error error) :
      Saved tree path text (.error error) tree
  /-- The file stands where the path leads, and no other place has changed. -/
  | done {after : FileTree} {place : Place} (written : tree.writeText path text = .ok after)
      (reached : tree.follow (.ofText path) = .ok place)
      (content : after.node? place = some (.file text.toUTF8))
      (readable : after.readText path = .ok text)
      (kept : ∀ other, other ≠ place → after.node? other = tree.node? other) :
      Saved tree path text (.ok ()) after

/-- A file that was written stands where its path leads, and nothing else has changed. -/
theorem saved_of_writeText {path text : String} (written : tree.writeText path text = .ok after) :
    tree.Saved path text (.ok ()) after := by
  obtain ⟨no_directory, place, reached, not_directory, rfl⟩ := writeText_eq_ok_iff.mp written
  have rooted := rooted_of_follow (names_start_ofText path) reached
  have below : place.names ≠ [] := by
    intro at_origin
    apply not_directory
    rw [node?, at_origin]
    rfl
  have content : (tree.put place (.file text.toUTF8)).node? place = some (.file text.toUTF8) :=
    node?_put_self below
  have kept : ∀ other, other ≠ place →
      (tree.put place (.file text.toUTF8)).node? other = tree.node? other :=
    fun other distinct => node?_put_of_ne rooted distinct
  have reached_again : (tree.put place (.file text.toUTF8)).follow (.ofText path) = .ok place := by
    apply follow_of_directories _ reached
    intro other directory
    rw [kept other (by rintro rfl; exact not_directory directory)]
    exact directory
  refine .done written reached content ?_ kept
  rw [readText]
  simp only [reached_again, bind, Except.bind, content, no_directory, Bool.false_eq_true, if_false]
  exact decode_toUTF8 text

end FileTree

end NovaLint
