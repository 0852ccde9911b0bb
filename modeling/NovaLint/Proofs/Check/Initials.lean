import NovaLint.Settings
import NovaLint.Proofs.Check.CleanPrograms
import NovaLint.Proofs.Token.Reprint

/-!
# Required initials

A user chooses the character that names must start with.  Names are words, so the choice can be met
only by a character that starts words, which is a letter or the underscore: under its own first
character every name can be declared in a clean program.  Under any other character every name of
every program is ill-formed.  The settings refuse blanks and digits, which start no word, and
accept all other characters, whether they start words or not.
-/

namespace NovaLint

open Names

theorem Trivia.clean_of_startsWord {first : Char} (starts : Lexeme.startsWord first)
    (rest : List Char) : Clean (first :: rest) := by
  intro skipped skipped_mem front
  rcases front_of_mem skipped_mem with ⟨c, _, rfl, blank⟩ | ⟨_, rfl⟩
  · obtain ⟨rfl, _⟩ := List.cons_prefix_cons.mp front
    simp only [isBlank, Bool.or_eq_true, beq_iff_eq, or_assoc] at blank
    rcases blank with rfl | rfl | rfl | rfl | rfl <;> exact absurd starts (by decide)
  · obtain ⟨rfl, _⟩ := List.cons_prefix_cons.mp front
    exact absurd starts (by decide)

/-- A word at the front of a text is cut where it ends. -/
theorem Cursor.tokens_word {first : Char} {rest behind : List Char}
    (starts : Lexeme.startsWord first) (continues : ∀ c ∈ rest, Lexeme.continuesWord c)
    (ends : ∀ c ∈ behind.head?, ¬ Lexeme.continuesWord c) (position : Text.Position) :
    (Cursor.mk ((first :: rest) ++ behind) position).tokens =
      ⟨Kind.ofWord (String.ofList (first :: rest)), String.ofList (first :: rest), position.line,
          ⟨position.offset, (position.advance (first :: rest)).offset⟩⟩ ::
        (Cursor.mk behind (position.advance (first :: rest))).tokens := by
  have whole : (rest ++ behind).takeWhile Lexeme.continuesWord = rest := by
    rw [List.takeWhile_append_of_pos continues]
    cases behind with
    | nil => rw [List.takeWhile_nil, List.append_nil]
    | cons c _ => rw [List.takeWhile_cons_of_neg (ends c rfl), List.append_nil]
  have longest := Lexeme.longest_word starts (rest ++ behind)
  rw [whole] at longest
  exact tokens_eq_cons (next?_of_chosen (List.cons_ne_nil first rest)
    (Trivia.clean_of_startsWord starts _) (.found longest) position)

/-- A word of one character is not reserved. -/
theorem Kind.ofWord_singleton (c : Char) : ofWord (String.ofList [c]) = .identifier := by
  have longer : ∀ pair ∈ words, pair.1.length ≠ 1 := by decide
  have free : words.lookup (String.ofList [c]) = none := by
    refine List.lookup_eq_none_iff.mpr fun pair listed => bne_iff_ne.mpr fun same => ?_
    exact longer pair listed (same ▸ String.length_ofList)
  rw [ofWord, free, Option.getD_none]

/-- No blank starts a word: no blank lies among the letters, and none is the underscore. -/
theorem Text.not_startsWord_of_isBlank {c : Char} (blank : isBlank c) :
    ¬ Lexeme.startsWord c := by
  rw [Lexeme.startsWord_iff]
  simp only [Char.le_def, UInt32.le_iff_toNat_le, Char.ext_iff, ← UInt32.toNat_inj]
  simp only [isBlank, inRanges, Char.toNat] at blank
  have letters : 'a'.val.toNat = 0x61 ∧ 'z'.val.toNat = 0x7A ∧ 'A'.val.toNat = 0x41 ∧
      'Z'.val.toNat = 0x5A ∧ '_'.val.toNat = 0x5F := by decide
  grind

/-- A name starts with a character that starts words. -/
theorem startsWord_of_mem_tokenize {source : String} {token : Token}
    (member : token ∈ tokenize source) (isName : token.kind = .identifier) :
    ∃ first rest, token.text.toList = first :: rest ∧ Lexeme.startsWord first := by
  obtain ⟨_, _, _, _, _, _, _, reads⟩ := exists_reads_of_mem_tokenize member
  cases reads.chosen with
  | found longest =>
      have matched := longest.matched
      rw [isName] at matched
      obtain ⟨first, rest, text_eq, starts, _⟩ := Kind.mem_identifier.mp matched
      exact ⟨first, rest, text_eq, starts⟩
  | missing unknown => cases isName.symm.trans unknown

/-- The program that declares a word as the name of an integer. -/
def declarationOf (word : List Char) : String := "int " ++ String.ofList word

theorem tokenize_declarationOf {first : Char} {rest : List Char}
    (starts : Lexeme.startsWord first) (continues : ∀ c ∈ rest, Lexeme.continuesWord c) :
    tokenize (declarationOf (first :: rest)) =
      [⟨.intType, "int", 1, ⟨0, 3⟩⟩,
        ⟨Kind.ofWord (String.ofList (first :: rest)), String.ofList (first :: rest), 1,
          ⟨4, 4 + Text.byteLength (first :: rest)⟩⟩] := by
  have text_eq : (declarationOf (first :: rest)).toList =
      ('i' :: ['n', 't']) ++ ' ' :: ((first :: rest) ++ []) := by simp [declarationOf]
  have behind_blank : (Text.Position.start.advance ('i' :: ['n', 't'])).step ' ' = ⟨4, 1⟩ := by
    decide
  rw [tokenize, Cursor.start, text_eq,
    Cursor.tokens_word (by decide) (List.all_eq_true.mp rfl) (by simp; decide),
    Cursor.tokens_cons_of_isBlank (by decide), behind_blank,
    Cursor.tokens_word starts continues (by simp), Cursor.tokens_eq_nil rfl]
  simp only [Text.Position.advance_offset]
  rfl

/-- A declaration of a well-formed name, and nothing else, is nothing to complain of. -/
theorem Report.ofTokens_declaration {initial : Char} {name : String}
    (wellNamed : isWellNamed initial name) (line : Nat) (span span' : Text.Span) :
    let tokens : List Token := [⟨.intType, "int", line, span⟩, ⟨.identifier, name, line, span'⟩]
    (ofTokens initial tokens).symbols = [⟨name, .integer, none, line, true, true⟩] ∧
      (ofTokens initial tokens).findings = [] := by
  intro tokens
  let table := Names.table initial (sightings tokens)
  let site : Site := ⟨none, ⟨.intType, "int", line, span⟩, [⟨.identifier, name, line, span'⟩]⟩
  have declares : site.declaration? = some (⟨.identifier, name, line, span'⟩, .integer) := rfl
  have entries_eq : table.entries = [.sighted name line true] := by
    rw [← wellNamed]
    rfl
  have found : (Walk.start table).symbols.lookup? name = some (.sighted name line true) := by
    have listed : Variable.sighted name line true ∈ table.entries :=
      entries_eq ▸ List.mem_singleton_self _
    exact SymbolTable.lookup?_of_mem listed
  have symbols_eq : ((Walk.start table).run (Site.all tokens)).symbols.entries =
      [⟨name, .integer, none, line, true, true⟩] := by
    change ((Walk.start table).symbolsBehind site).entries = _
    simp only [Walk.symbolsBehind, declares, found]
    change (table.declare name .integer).entries = _
    rw [SymbolTable.declare, SymbolTable.entries_modify, entries_eq, List.map_singleton]
    exact congrArg (fun entry => [entry]) (if_pos rfl)
  have well_formed : Names.findings initial (sightings tokens) = [] := by
    have no_offender : (sightings tokens).filter (!isWellNamed initial ·.text) = [] :=
      List.filter_cons_of_neg (by simp [wellNamed])
    rw [Names.findings, no_offender]
    rfl
  have quiet : (Walk.start table).findingsAt site = [] := by
    have no_redeclaration : (Walk.start table).redeclarations site = [] := by
      simp only [Walk.redeclarations, declares, found]
      rfl
    rw [Walk.findingsAt, no_redeclaration]
    rfl
  -- The second place is the name itself, with nothing behind it to check.
  have nothing_on_the_way : (Walk.start table).findings (Site.all tokens) = [] := by
    change (Walk.start table).findingsAt site ++ _ = _
    rw [quiet]
    rfl
  refine ⟨symbols_eq, ?_⟩
  change Names.findings initial (sightings tokens) ++ (Walk.start table).findings _ ++
    undeclared ((Walk.start table).run _).symbols ++ _ ++ _ = _
  rw [well_formed, nothing_on_the_way, undeclared, symbols_eq]
  rfl

/-- A name can be declared in a clean program if names must start as it does. -/
theorem Analysis.isClean_declarationOf {first : Char} {rest : List Char}
    (starts : Lexeme.startsWord first) (continues : ∀ c ∈ rest, Lexeme.continuesWord c)
    (free : Kind.ofWord (String.ofList (first :: rest)) = .identifier) :
    (ofSource first (declarationOf (first :: rest))).isClean ∧
      (ofSource first (declarationOf (first :: rest))).report.symbols =
        [⟨String.ofList (first :: rest), .integer, none, 1, true, true⟩] := by
  have tokens_eq := tokenize_declarationOf starts continues
  rw [free] at tokens_eq
  have wellNamed : isWellNamed first (String.ofList (first :: rest)) := by
    rw [isWellNamed, String.toList_ofList, List.head?_cons, beq_self_eq_true]
  obtain ⟨symbols_eq, no_findings⟩ := Report.ofTokens_declaration wellNamed 1 ⟨0, 3⟩
    ⟨4, 4 + Text.byteLength (first :: rest)⟩
  rw [ofSource, tokens_eq]
  refine ⟨?_, symbols_eq⟩
  rw [isClean, Report.hasFindings, no_findings]
  rfl

namespace Report

variable {initial : Char} {tokens : List Token}

/-- An ill-formed name is reported on each of its lines. -/
theorem invalidName_mem_findings {token : Token} (member : token ∈ tokens)
    (isName : token.kind = .identifier) (illFormed : isWellNamed initial token.text = false) :
    (Cause.invalidName token.text initial).onLine token.line ∈
      (ofTokens initial tokens).findings := by
  have offends : token ∈ (occurrences tokens).filter (!isWellNamed initial ·.text) :=
    List.mem_filter.mpr
      ⟨mem_occurrences_iff.mpr ⟨member, isName⟩, by rw [illFormed, Bool.not_false]⟩
  have reported : (Cause.invalidName token.text initial).onLine token.line ∈
      (ofTokens initial tokens).findingsOf .invalidName := by
    rw [findingsOf_invalidName, findings_sightings, Names.findings]
    exact List.mem_map.mpr ⟨(token.text, token.line),
      List.mem_eraseDups.mpr (List.mem_map_of_mem offends), rfl⟩
  exact (List.mem_filter.mp reported).1

/-- What a report lists occurs in the program. -/
theorem exists_name_of_symbols_ne_nil (listed : (ofTokens initial tokens).symbols ≠ []) :
    ∃ token ∈ tokens, token.kind = .identifier := by
  obtain ⟨entry, member⟩ := List.exists_mem_of_ne_nil _ listed
  rw [symbols_ofTokens] at member
  have occurs := (mem_names_symbolsAfter initial tokens).mp (List.mem_map_of_mem member)
  obtain ⟨token, occurrence, _⟩ := List.mem_map.mp occurs
  exact ⟨token, mem_occurrences_iff.mp occurrence⟩

end Report

namespace Settings

/-- Some program with a name is clean. -/
def Serves (settings : Settings) : Prop :=
  ∃ source, (Analysis.ofSource settings.initial source).isClean ∧
    (Analysis.ofSource settings.initial source).report.symbols ≠ []

/-- Every name of every program is reported as ill-formed. -/
def ForbidsNames (settings : Settings) : Prop :=
  ∀ source, ∀ token ∈ (Analysis.ofSource settings.initial source).tokens,
    token.kind = .identifier →
      (Cause.invalidName token.text settings.initial).onLine token.line ∈
        (Analysis.ofSource settings.initial source).report.findings

variable {settings : Settings}

theorem serves_of_startsWord (starts : Lexeme.startsWord settings.initial) : settings.Serves := by
  obtain ⟨clean, symbols_eq⟩ := Analysis.isClean_declarationOf starts (List.forall_mem_nil _)
    (Kind.ofWord_singleton settings.initial)
  refine ⟨declarationOf [settings.initial], clean, ?_⟩
  rw [symbols_eq]
  exact List.cons_ne_nil _ _

/-- A name starts with a character that starts words, and the required one is none. -/
theorem forbidsNames_of_not_startsWord (other : ¬ Lexeme.startsWord settings.initial) :
    settings.ForbidsNames := by
  intro source token member isName
  obtain ⟨first, rest, text_eq, starts⟩ := startsWord_of_mem_tokenize member isName
  refine Report.invalidName_mem_findings member isName ?_
  rw [isWellNamed, text_eq, List.head?_cons, beq_eq_false_iff_ne]
  exact fun same => other (Option.some.inj same ▸ starts)

/-- A clean program has no ill-formed names. -/
theorem not_forbidsNames_of_serves (serves : settings.Serves) : ¬ settings.ForbidsNames := by
  intro forbids
  obtain ⟨source, clean, listed⟩ := serves
  obtain ⟨token, member, isName⟩ := Report.exists_name_of_symbols_ne_nil listed
  have reported := forbids source token member isName
  rw [show (Analysis.ofSource settings.initial source).report.findings = [] from
    Analysis.findings_eq_nil clean] at reported
  exact List.not_mem_nil reported

theorem serves_iff : settings.Serves ↔ Lexeme.startsWord settings.initial := by
  refine ⟨fun serves => ?_, serves_of_startsWord⟩
  by_contra other
  exact not_forbidsNames_of_serves serves (forbidsNames_of_not_startsWord other)

theorem forbidsNames_iff : settings.ForbidsNames ↔ ¬ Lexeme.startsWord settings.initial :=
  ⟨fun forbids starts => not_forbidsNames_of_serves (serves_of_startsWord starts) forbids,
    forbidsNames_of_not_startsWord⟩

theorem check_eq_ok_iff :
    settings.check = .ok settings ↔
      ¬ (Text.isBlank settings.initial ∨ settings.initial.isDigit) := by
  rw [check, refusal?]
  by_cases blank : Text.isBlank settings.initial <;>
    by_cases digit : settings.initial.isDigit <;> simp [blank, digit]

/-- What is refused starts no word. -/
theorem not_startsWord_of_check_ne_ok (refused : settings.check ≠ .ok settings) :
    ¬ Lexeme.startsWord settings.initial := by
  rw [ne_eq, check_eq_ok_iff, not_not] at refused
  rcases refused with blank | digit
  · exact Text.not_startsWord_of_isBlank blank
  · exact Kind.not_startsWord_of_isDigit digit

/-- A program with a name can be clean exactly if names must start with a character that starts
words, and under any other character every name of every program is ill-formed.  Blanks and digits
are refused, and they are such characters. -/
theorem initials_judged (settings : Settings) :
    (settings.Serves ↔ Lexeme.startsWord settings.initial) ∧
      (settings.ForbidsNames ↔ ¬ Lexeme.startsWord settings.initial) ∧
      (settings.check ≠ .ok settings → settings.ForbidsNames) ∧
      (settings.check = .ok settings ↔
        ¬ (Text.isBlank settings.initial ∨ settings.initial.isDigit)) :=
  ⟨serves_iff, forbidsNames_iff,
    fun refused => forbidsNames_of_not_startsWord (not_startsWord_of_check_ne_ok refused),
    check_eq_ok_iff⟩

/-- A dollar sign starts no word and is accepted nevertheless. -/
theorem not_judged_by_words :
    ¬ (∀ settings : Settings, settings.check = .ok settings → settings.Serves) ∧
      ¬ ∀ settings : Settings, settings.check ≠ .ok settings ↔ settings.ForbidsNames := by
  have accepted : (Settings.mk '$' false false).check = .ok ⟨'$', false, false⟩ := rfl
  have forbids : (Settings.mk '$' false false).ForbidsNames :=
    forbidsNames_of_not_startsWord (by decide)
  constructor
  · intro all_serve
    exact not_forbidsNames_of_serves (all_serve _ accepted) forbids
  · intro refused_iff
    exact (refused_iff _).mpr forbids accepted

end Settings
end NovaLint
