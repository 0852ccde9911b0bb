import NovaLint.Analysis
import NovaLint.Settings
import NovaLint.Proofs.Check.Assignments

/-!
# Clean programs

A program in which nothing is found declares every name that it uses, and behind its declaration a
name is assigned only literals that fit its type.  A declaration also settles the type of a name
that was used before, but the assignments before it have been passed by then: what they store is
never held against the type.
-/

namespace NovaLint

/-- The literals are the tokens that have a type of their own. -/
theorem ValueType.ofLiteral_ne_unknown_iff {kind : Kind} :
    ofLiteral kind ≠ .unknown ↔ kind.isLiteral := by
  cases kind <;> simp [ofLiteral, Kind.isLiteral]

/-- A literal is assigned to a name at a place of a stream. -/
structure AssignsLiteral (tokens : List Token) (place : Nat) (target value : Token) : Prop where
  /-- The target stands at the place. -/
  targetAt : tokens[place]? = some target
  /-- The target is a name. -/
  isName : target.kind = .identifier
  /-- The assignment sign stands right behind it. -/
  signAt : ∃ sign, tokens[place + 1]? = some sign ∧ sign.kind = .assign
  /-- The value stands right behind the sign. -/
  valueAt : tokens[place + 2]? = some value
  /-- The value is a literal. -/
  literal : value.kind.isLiteral

namespace AssignsLiteral

variable {tokens : List Token} {place : Nat} {target value : Token}

theorem valueTypeBefore_eq (assigns : AssignsLiteral tokens place target value) :
    valueTypeBefore tokens place value = .ofLiteral value.kind := by
  have not_name : value.kind ≠ .identifier := by
    intro name
    have literal := assigns.literal
    rw [name] at literal
    cases literal
  rw [valueTypeBefore, if_neg not_name]

/-- Behind a declaration of its target it is an assignment to a declared name. -/
theorem assignmentAt?_eq (assigns : AssignsLiteral tokens place target value)
    (declared : ∃ declaration ∈ declarationsBefore tokens place, declaration.name = target.text) :
    assignmentAt? tokens place =
      some ⟨target, typeBefore tokens place target.text, value, .ofLiteral value.kind⟩ :=
  assignmentAt?_eq_some_iff.mpr ⟨assigns.targetAt, assigns.isName, assigns.signAt,
    assigns.valueAt, declared, rfl, assigns.valueTypeBefore_eq.symm⟩

theorem occurs (assigns : AssignsLiteral tokens place target value) :
    target.text ∈ (Names.occurrences tokens).map (·.text) :=
  List.mem_map_of_mem (List.mem_filter.mpr
    ⟨List.mem_of_getElem? assigns.targetAt, by simp [assigns.isName]⟩)

end AssignsLiteral

namespace Report

variable {initial : Char} {tokens : List Token}

theorem findingsOf_eq_nil (clean : (ofTokens initial tokens).findings = []) (code : FindingCode) :
    (ofTokens initial tokens).findingsOf code = [] := by
  rw [findingsOf, clean, List.filter_nil]

/-- Without findings every name has a type. -/
theorem type_ne_unknown_of_clean (clean : (ofTokens initial tokens).findings = [])
    {name : String} {entry : Variable}
    (found : (symbolsAfter initial tokens tokens.length).lookup? name = some entry) :
    entry.type ≠ .unknown := by
  have none_undeclared := findingsOf_eq_nil clean .undeclaredUse
  rw [findingsOf_undeclaredUse, undeclared, List.map_eq_nil_iff, List.filter_eq_nil_iff]
    at none_undeclared
  change ∀ entry ∈ (ofTokens initial tokens).symbols, ¬ (!entry.declared) = true at none_undeclared
  rw [symbols_ofTokens] at none_undeclared
  have declared := none_undeclared entry (SymbolTable.mem_of_lookup? found)
  have sound := sound_symbolsAfter initial tokens tokens.length name entry found
  intro unknown
  rw [sound.type_eq_unknown_iff.mp unknown] at declared
  exact declared rfl

/-- Without findings no assignment clashes. -/
theorem not_clashes_of_clean (clean : (ofTokens initial tokens).findings = []) {place : Nat}
    {assignment : Assignment} (assigns : assignmentAt? tokens place = some assignment) :
    ¬ assignment.Clashes := by
  intro clashes
  have nothing := findingsOf_eq_nil clean .incompatibleAssignment
  rw [findingsOf_incompatibleAssignment, List.map_eq_nil_iff] at nothing
  have listing := firstPerKey_newClashes tokens tokens.length
  rw [nothing] at listing
  have within : place < tokens.length :=
    (List.getElem?_eq_some_iff.mp (assignmentAt?_eq_some_iff.mp assigns).1).1
  have among : assignment ∈ clashesBefore tokens tokens.length := by
    refine List.mem_filter.mpr ⟨?_, decide_eq_true clashes⟩
    exact List.mem_filterMap.mpr ⟨place, List.mem_range.mpr within, assigns⟩
  exact absurd ((listing.keys.mem_iff _).mpr (List.mem_map_of_mem among)) List.not_mem_nil

/-- Behind its first declaration a name has the type that the report gives to it. -/
theorem typeBefore_eq_type {place : Nat} {name : String} {entry : Variable}
    (within : place ≤ tokens.length)
    (found : (symbolsAfter initial tokens tokens.length).lookup? name = some entry)
    (declared : ∃ declaration ∈ declarationsBefore tokens place, declaration.name = name) :
    typeBefore tokens place name = entry.type := by
  have occurs : name ∈ (Names.occurrences tokens).map (·.text) :=
    (mem_names_symbolsAfter initial tokens).mp (SymbolTable.mem_names_iff.mpr ⟨entry, found⟩)
  cases first : (declarationsBefore tokens place).find? (·.name == name) with
  | none =>
      obtain ⟨declaration, member, same⟩ := declared
      exact absurd (beq_iff_eq.mpr same) (List.find?_eq_none.mp first declaration member)
  | some declaration =>
      have still_first := (prefix_declarationsBefore tokens within).find?_eq_some first
      rw [typeBefore, first, type_eq_of_find? initial tokens occurs found still_first]
      rfl

end Report

namespace Analysis

theorem findings_eq_nil {initial : Char} {source : String}
    (clean : (ofSource initial source).isClean) :
    (Report.ofTokens initial (tokenize source)).findings = [] := by
  simp only [isClean, Report.hasFindings, Bool.and_eq_true, Bool.not_not] at clean
  exact List.isEmpty_iff.mp clean.2

/-- In a clean program every name that is assigned a literal has a type, and behind a declaration of
the name the literal fits that type. -/
theorem literal_fits_of_clean {initial : Char} {source : String}
    (clean : (ofSource initial source).isClean) {place : Nat} {target value : Token}
    (assigns : AssignsLiteral (ofSource initial source).tokens place target value) :
    ∃ entry, (ofSource initial source).report.lookup? target.text = some entry ∧
      entry.type ≠ .unknown ∧
      ((∃ declaration ∈ declarationsBefore (ofSource initial source).tokens place,
          declaration.name = target.text) →
        entry.type.accepts (.ofLiteral value.kind)) := by
  have no_findings := findings_eq_nil clean
  change AssignsLiteral (tokenize source) place target value at assigns
  obtain ⟨entry, found⟩ := Report.exists_lookup?_symbolsAfter initial (tokenize source)
    assigns.occurs (tokenize source).length
  have type_known := Report.type_ne_unknown_of_clean no_findings found
  refine ⟨entry, (Report.lookup?_ofTokens ..).trans found, type_known, fun declared => ?_⟩
  have within : place ≤ (tokenize source).length :=
    Nat.le_of_lt (List.getElem?_eq_some_iff.mp assigns.targetAt).1
  have fits := Report.not_clashes_of_clean no_findings (assigns.assignmentAt?_eq declared)
  rw [Report.typeBefore_eq_type within found declared] at fits
  by_contra refused
  exact fits ⟨type_known, ValueType.ofLiteral_ne_unknown_iff.mpr assigns.literal, refused⟩

/-- An integer is assigned to a `float` behind its declaration. -/
theorem literal_fits_of_clean_widening :
    (ofSource '_' "float _f;\n_f = 1;").isClean ∧
      AssignsLiteral (ofSource '_' "float _f;\n_f = 1;").tokens 3
        ⟨.identifier, "_f", 2, ⟨10, 12⟩⟩ ⟨.intLiteral, "1", 2, ⟨15, 16⟩⟩ ∧
      ∃ entry, (ofSource '_' "float _f;\n_f = 1;").report.lookup? "_f" = some entry ∧
        entry.type ≠ .unknown ∧ entry.type.accepts .integer := by
  have clean : (ofSource '_' "float _f;\n_f = 1;").isClean := by decide +kernel
  have assigns : AssignsLiteral (ofSource '_' "float _f;\n_f = 1;").tokens 3
      ⟨.identifier, "_f", 2, ⟨10, 12⟩⟩ ⟨.intLiteral, "1", 2, ⟨15, 16⟩⟩ :=
    ⟨by decide +kernel, rfl, ⟨⟨.assign, "=", 2, ⟨13, 14⟩⟩, by decide +kernel, rfl⟩,
      by decide +kernel, rfl⟩
  obtain ⟨entry, found, type_known, fits⟩ := literal_fits_of_clean clean assigns
  exact ⟨clean, assigns, entry, found, type_known,
    fits ⟨⟨"_f", .float, 1⟩, by decide +kernel, rfl⟩⟩

/-- A literal that is assigned before the declaration need not fit. -/
theorem not_literal_fits_before_declaration :
    ¬ ∀ (settings : Settings) (source : String), settings.check = .ok settings →
      (ofSource settings.initial source).isClean → ∀ place target value,
        AssignsLiteral (ofSource settings.initial source).tokens place target value →
          ∃ entry, (ofSource settings.initial source).report.lookup? target.text = some entry ∧
            entry.type.accepts (.ofLiteral value.kind) := by
  intro all_fit
  have assigns : AssignsLiteral (ofSource '_' "_x = 1;\nstring _x;").tokens 0
      ⟨.identifier, "_x", 1, ⟨0, 2⟩⟩ ⟨.intLiteral, "1", 1, ⟨5, 6⟩⟩ :=
    ⟨by decide +kernel, rfl, ⟨⟨.assign, "=", 1, ⟨3, 4⟩⟩, by decide +kernel, rfl⟩,
      by decide +kernel, rfl⟩
  obtain ⟨entry, found, fits⟩ := all_fit ⟨'_', false, false⟩ "_x = 1;\nstring _x;" rfl
    (by decide +kernel) 0 _ _ assigns
  have is_string : (ofSource '_' "_x = 1;\nstring _x;").report.lookup? "_x" =
      some ⟨"_x", .string, none, 1, true, true⟩ := by decide +kernel
  obtain rfl := Option.some.inj (is_string.symm.trans found)
  cases fits

end Analysis

end NovaLint
