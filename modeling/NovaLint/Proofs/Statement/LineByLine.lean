import NovaLint.Proofs.Token.OneLine
import NovaLint.Statement.Verdict

/-!
# Lines stand alone

A line is judged by its own tokens, and these are cut from its own characters.  The entries of the
group of tokens and the verdicts are therefore those of the lines taken one by one, and a change
within one line is felt on no other line, but for the offsets behind it.
-/

namespace NovaLint

namespace TokenLines.Entry

theorem insert_behind {entries : List Entry} {token : Token}
    (before : ∀ entry ∈ entries, entry.line < token.line) :
    insert token entries = entries ++ [⟨token.line, [token]⟩] := by
  induction entries with
  | nil => rfl
  | cons first later ih =>
      obtain ⟨first_before, later_before⟩ := List.forall_mem_cons.mp before
      rw [insert, if_neg (Nat.lt_asymm first_before), if_neg first_before.ne', ih later_before,
        List.cons_append]

theorem insert_last {entries : List Entry} {token : Token} (tokens : List Token)
    (before : ∀ entry ∈ entries, entry.line < token.line) :
    insert token (entries ++ [⟨token.line, tokens⟩]) =
      entries ++ [⟨token.line, tokens ++ [token]⟩] := by
  induction entries with
  | nil => simp [insert]
  | cons first later ih =>
      obtain ⟨first_before, later_before⟩ := List.forall_mem_cons.mp before
      rw [List.cons_append, insert, if_neg (Nat.lt_asymm first_before), if_neg first_before.ne',
        ih later_before, List.cons_append]

/-- Add several tokens, one after the other. -/
def insertAll (tokens : List Token) (entries : List Entry) : List Entry :=
  tokens.foldl (fun entries token => insert token entries) entries

theorem insertAll_append (front back : List Token) (entries : List Entry) :
    insertAll (front ++ back) entries = insertAll back (insertAll front entries) :=
  List.foldl_append

theorem insertAll_last {entries : List Entry} {line : Nat} (tokens : List Token)
    {more : List Token} (before : ∀ entry ∈ entries, entry.line < line)
    (same_line : ∀ token ∈ more, token.line = line) :
    insertAll more (entries ++ [⟨line, tokens⟩]) = entries ++ [⟨line, tokens ++ more⟩] := by
  induction more generalizing tokens with
  | nil => rw [List.append_nil]; rfl
  | cons token more ih =>
      obtain ⟨rfl, more_line⟩ := List.forall_mem_cons.mp same_line
      have first := insert_last tokens before
      have later := ih (tokens ++ [token]) more_line
      rw [List.append_assoc, List.singleton_append] at later
      rw [← later, ← first]
      rfl

/-- The tokens of a line behind all others become its entry. -/
theorem insertAll_line {entries : List Entry} {line : Nat} {tokens : List Token}
    (nonempty : tokens ≠ []) (before : ∀ entry ∈ entries, entry.line < line)
    (same_line : ∀ token ∈ tokens, token.line = line) :
    insertAll tokens entries = entries ++ [⟨line, tokens⟩] := by
  cases tokens with
  | nil => exact absurd rfl nonempty
  | cons token more =>
      obtain ⟨rfl, more_line⟩ := List.forall_mem_cons.mp same_line
      have later := insertAll_last [token] before more_line
      rw [List.singleton_append] at later
      rw [← later, ← insert_behind before]
      rfl

end TokenLines.Entry

theorem TokenLines.entries_foldl_push (group : TokenLines) (tokens : List Token) :
    (tokens.foldl push group).entries = Entry.insertAll tokens group.entries := by
  induction tokens generalizing group with
  | nil => rfl
  | cons token later ih => exact ih (group.push token)

namespace Text.Line

/-- The entry of a line, if it holds a token. -/
def group? (line : Line) : Option TokenLines.Entry :=
  if line.tokens = [] then none else some ⟨line.number, line.tokens⟩

/-- The verdict on a line that is cut and judged by itself, if it holds a token. -/
def verdict? (line : Line) : Option Verdict :=
  let tokens := tokenize (String.ofList line.text)
  if tokens = [] then none else some { Verdict.ofTokens tokens with line := line.number }

theorem tokens_eq_nil_iff {line : Line} :
    line.tokens = [] ↔ tokenize (String.ofList line.text) = [] :=
  List.map_eq_nil_iff

theorem line_of_mem_tokens {line : Line} {token : Token} (member : token ∈ line.tokens) :
    token.line = line.number := by
  obtain ⟨_, _, rfl⟩ := List.mem_map.mp member
  rfl

theorem group?_eq_some_iff {line : Line} {entry : TokenLines.Entry} :
    line.group? = some entry ↔ line.tokens ≠ [] ∧ entry = ⟨line.number, line.tokens⟩ := by
  unfold group?
  split
  · next empty => simp [empty]
  · next nonempty => simp [nonempty, eq_comm]

theorem line_of_group? {line : Line} {entry : TokenLines.Entry} (found : line.group? = some entry) :
    entry.line = line.number := by
  rw [(group?_eq_some_iff.mp found).2]

theorem line_of_verdict? {line : Line} {verdict : Verdict}
    (found : line.verdict? = some verdict) : verdict.line = line.number := by
  unfold verdict? at found
  dsimp only at found
  split at found
  · exact absurd found (by simp)
  · rw [← Option.some.inj found]

/-- A verdict does not depend on where the tokens stand, but for its number. -/
theorem verdict_map_move (tokens : List Token) (line distance number : Nat) :
    { Verdict.ofTokens (tokens.map (·.move line distance)) with line := number } =
      { Verdict.ofTokens tokens with line := number } := by
  have same_kinds : (tokens.map (·.move line distance)).map (·.kind) = tokens.map (·.kind) := by
    rw [List.map_map]
    rfl
  simp only [Verdict.ofTokens, same_kinds]
  split <;> rfl

theorem map_group? (line : Line) :
    line.group?.map (fun entry => { Verdict.ofTokens entry.tokens with line := entry.line }) =
      line.verdict? := by
  by_cases empty : line.tokens = []
  · rw [group?, if_pos empty, verdict?, if_pos (tokens_eq_nil_iff.mp empty)]
    rfl
  · rw [group?, if_neg empty, verdict?, if_neg (mt tokens_eq_nil_iff.mpr empty)]
    exact congrArg some (verdict_map_move _ line.number line.start line.number)

end Text.Line

theorem TokenLines.Entry.insertAll_lines {entries : List Entry} {lines : List Text.Line}
    (ascending : lines.Pairwise fun earlier later => earlier.number < later.number)
    (before : ∀ entry ∈ entries, ∀ line ∈ lines, entry.line < line.number) :
    insertAll (lines.flatMap (·.tokens)) entries = entries ++ lines.filterMap (·.group?) := by
  induction lines generalizing entries with
  | nil => rw [List.filterMap_nil, List.append_nil]; rfl
  | cons line later ih =>
      obtain ⟨line_lt, later_ascending⟩ := List.pairwise_cons.mp ascending
      rw [List.flatMap_cons, insertAll_append]
      by_cases empty : line.tokens = []
      · have nothing : line.group? = none := if_pos empty
        rw [empty, List.filterMap_cons_none nothing]
        exact ih later_ascending fun entry member line' member' =>
          before entry member line' (List.mem_cons_of_mem line member')
      · have found : line.group? = some ⟨line.number, line.tokens⟩ := if_neg empty
        rw [List.filterMap_cons_some found,
          insertAll_line empty (fun entry member => before entry member line List.mem_cons_self)
            fun _ => Text.Line.line_of_mem_tokens,
          ih later_ascending, List.append_assoc, List.singleton_append]
        intro entry member line' member'
        rcases List.mem_append.mp member with old | new
        · exact before entry old line' (List.mem_cons_of_mem line member')
        · rw [List.mem_singleton.mp new]
          exact line_lt line' member'

theorem Text.ascending_contents (text : String) :
    (contents text).Pairwise fun earlier later => earlier.number < later.number := by
  rw [List.pairwise_iff_getElem]
  intro index index' bound bound' index_lt
  rw [number_of_getElem?_contents (List.getElem?_eq_getElem bound),
    number_of_getElem?_contents (List.getElem?_eq_getElem bound')]
  omega

namespace TokenLines

theorem entries_tokenize (source : String) :
    (ofTokens (tokenize source)).entries = (Text.contents source).filterMap (·.group?) := by
  rw [ofTokens, entries_foldl_push, tokenize_eq_flatMap]
  exact Entry.insertAll_lines (Text.ascending_contents source) fun _ member => nomatch member

theorem verdicts_tokenize (source : String) :
    (ofTokens (tokenize source)).verdicts = (Text.contents source).filterMap (·.verdict?) := by
  rw [verdicts, entries_tokenize, List.map_filterMap]
  exact congrArg (List.filterMap · _) (funext Text.Line.map_group?)

end TokenLines

/-- Where lines are numbered one after the other, what is kept of a line is found by its number. -/
theorem find?_filterMap_of_numbered {α : Type} {keep? : Text.Line → Option α} {key : α → Nat}
    (keyed : ∀ line kept, keep? line = some kept → key kept = line.number) {lines : List Text.Line}
    {base : Nat}
    (numbered : ∀ index line, lines[index]? = some line → line.number = base + index)
    (index : Nat) :
    (lines.filterMap keep?).find? (key · == base + index) = lines[index]?.bind keep? := by
  induction lines generalizing base index with
  | nil => rfl
  | cons line later ih =>
      have line_number : line.number = base := numbered 0 line rfl
      have later_numbered : ∀ index line, later[index]? = some line →
          line.number = base + 1 + index := by
        intro index line found
        rw [numbered (index + 1) line found]
        omega
      cases index with
      | zero =>
          rw [List.getElem?_cons_zero, Option.bind_some, Nat.add_zero]
          cases kept_eq : keep? line with
          | some kept =>
              rw [List.filterMap_cons_some kept_eq, List.find?_cons_of_pos]
              rw [keyed line kept kept_eq, line_number]
              exact beq_self_eq_true base
          | none =>
              rw [List.filterMap_cons_none kept_eq, List.find?_eq_none]
              intro kept member same
              obtain ⟨other, other_mem, other_eq⟩ := List.mem_filterMap.mp member
              obtain ⟨place, found⟩ := List.mem_iff_getElem?.mp other_mem
              have other_number := later_numbered place other found
              rw [← keyed other kept other_eq, beq_iff_eq.mp same] at other_number
              omega
      | succ index =>
          have shifted : base + (index + 1) = base + 1 + index := by omega
          rw [List.getElem?_cons_succ, shifted, ← ih later_numbered]
          cases kept_eq : keep? line with
          | none => rw [List.filterMap_cons_none kept_eq]
          | some kept =>
              rw [List.filterMap_cons_some kept_eq, List.find?_cons_of_neg]
              rw [keyed line kept kept_eq, line_number, beq_iff_eq]
              omega

theorem find?_filterMap_contents {α : Type} {keep? : Text.Line → Option α} {key : α → Nat}
    (keyed : ∀ line kept, keep? line = some kept → key kept = line.number) (text : String)
    (index : Nat) :
    ((Text.contents text).filterMap keep?).find? (key · == index + 1) =
      (Text.contents text)[index]?.bind keep? := by
  have numbered : ∀ place line, (Text.contents text)[place]? = some line →
      line.number = 1 + place := by
    intro place line found
    rw [Text.number_of_getElem?_contents found, Nat.add_comm]
  rw [Nat.add_comm index 1]
  exact find?_filterMap_of_numbered keyed numbered index

/-- The kinds and the texts of the tokens of a line, if it holds a token. -/
def outline? (line : List Char) : Option (List (Kind × String)) :=
  let tokens := tokenize (String.ofList line)
  if tokens = [] then none else some (tokens.map fun token => (token.kind, token.text))

namespace TokenLines

/-- The tokens of a line are those of its characters alone, moved behind the earlier lines. -/
theorem get?_tokenize (source : String) (index : Nat) :
    (ofTokens (tokenize source)).get? (index + 1) =
      (source.toList.splitOn '\n')[index]?.bind fun piece =>
        let tokens := tokenize (String.ofList piece)
        let earlier := ((source.toList.splitOn '\n').take index).flatMap (· ++ ['\n'])
        if tokens = [] then none
        else some (tokens.map (·.move (index + 1) (Text.byteLength earlier))) := by
  rw [get?, entries_tokenize, find?_filterMap_contents fun _ _ => Text.Line.line_of_group?,
    Text.getElem?_contents]
  cases (source.toList.splitOn '\n')[index]? with
  | none => rfl
  | some piece =>
      simp only [Option.map_some, Option.bind_some, Text.Line.group?, Text.Line.tokens_eq_nil_iff]
      split
      · rfl
      · rfl

theorem outline_get? (source : String) (index : Nat) :
    ((ofTokens (tokenize source)).get? (index + 1)).map
        (·.map fun token => (token.kind, token.text)) =
      (source.toList.splitOn '\n')[index]?.bind outline? := by
  rw [get?_tokenize]
  cases (source.toList.splitOn '\n')[index]? with
  | none => rfl
  | some piece =>
      simp only [Option.bind_some, outline?]
      split
      · rfl
      · simp only [Option.map_some, List.map_map]
        rfl

theorem find?_verdicts (source : String) (index : Nat) :
    (ofTokens (tokenize source)).verdicts.find? (·.line == index + 1) =
      (source.toList.splitOn '\n')[index]?.bind fun piece =>
        (Text.Line.mk (index + 1) 0 piece).verdict? := by
  rw [verdicts_tokenize, find?_filterMap_contents fun _ _ => Text.Line.line_of_verdict?,
    Text.getElem?_contents]
  cases (source.toList.splitOn '\n')[index]? with
  | none => rfl
  | some piece => rfl

end TokenLines

/-- A text is changed within one line only, which stays one line. -/
structure Text.LineEdit (index : Nat) (source edited : String) : Prop where
  /-- There are as many lines as before. -/
  length_eq : (edited.toList.splitOn '\n').length = (source.toList.splitOn '\n').length
  /-- The other lines are as before. -/
  others : ∀ other ≠ index,
    (edited.toList.splitOn '\n')[other]? = (source.toList.splitOn '\n')[other]?

/-- The group of the tokens of a text and the verdicts on it are made line by line.  So an edit of
one line changes neither the tokens nor the verdict of another. -/
theorem lines_stand_alone (source : String) :
    (TokenLines.ofTokens (tokenize source)).entries =
        (Text.contents source).filterMap (·.group?) ∧
      (TokenLines.ofTokens (tokenize source)).verdicts =
        (Text.contents source).filterMap (·.verdict?) ∧
      (∀ index, (TokenLines.ofTokens (tokenize source)).get? (index + 1) =
        (source.toList.splitOn '\n')[index]?.bind fun piece =>
          let tokens := tokenize (String.ofList piece)
          let earlier := ((source.toList.splitOn '\n').take index).flatMap (· ++ ['\n'])
          if tokens = [] then none
          else some (tokens.map (·.move (index + 1) (Text.byteLength earlier)))) ∧
      ∀ index edited, Text.LineEdit index source edited → ∀ other ≠ index,
        let group := TokenLines.ofTokens (tokenize source)
        let group' := TokenLines.ofTokens (tokenize edited)
        (group'.get? (other + 1)).map (·.map fun token => (token.kind, token.text)) =
            (group.get? (other + 1)).map (·.map fun token => (token.kind, token.text)) ∧
          group'.verdicts.find? (·.line == other + 1) =
            group.verdicts.find? (·.line == other + 1) := by
  refine ⟨TokenLines.entries_tokenize source, TokenLines.verdicts_tokenize source,
    TokenLines.get?_tokenize source, ?_⟩
  intro index edited edit other elsewhere
  have same_line := edit.others other elsewhere
  constructor
  · rw [TokenLines.outline_get?, TokenLines.outline_get?, same_line]
  · rw [TokenLines.find?_verdicts, TokenLines.find?_verdicts, same_line]

/-- An open quote at the end of the second line is replaced by a comment. -/
theorem lines_stand_alone_of_open_quote :
    Text.LineEdit 1 "int _x;\n_x = \"\n_x = 1;" "int _x;\n// done\n_x = 1;" ∧
      ∀ other ≠ 1,
        let group := TokenLines.ofTokens (tokenize "int _x;\n_x = \"\n_x = 1;")
        let group' := TokenLines.ofTokens (tokenize "int _x;\n// done\n_x = 1;")
        (group'.get? (other + 1)).map (·.map fun token => (token.kind, token.text)) =
            (group.get? (other + 1)).map (·.map fun token => (token.kind, token.text)) ∧
          group'.verdicts.find? (·.line == other + 1) =
            group.verdicts.find? (·.line == other + 1) := by
  have edit : Text.LineEdit 1 "int _x;\n_x = \"\n_x = 1;" "int _x;\n// done\n_x = 1;" := by
    have source_length : ("int _x;\n_x = \"\n_x = 1;".toList.splitOn '\n').length = 3 := by
      decide +kernel
    have edited_length : ("int _x;\n// done\n_x = 1;".toList.splitOn '\n').length = 3 := by
      decide +kernel
    refine ⟨edited_length.trans source_length.symm, fun other elsewhere => ?_⟩
    match other with
    | 0 => decide +kernel
    | 1 => exact absurd rfl elsewhere
    | 2 => decide +kernel
    | other + 3 =>
        rw [List.getElem?_eq_none (edited_length ▸ Nat.le_add_left 3 other),
          List.getElem?_eq_none (source_length ▸ Nat.le_add_left 3 other)]
  exact ⟨edit, (lines_stand_alone "int _x;\n_x = \"\n_x = 1;").2.2.2 1 _ edit⟩

end NovaLint
