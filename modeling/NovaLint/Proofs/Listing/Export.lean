import NovaLint.Listing
import NovaLint.Proofs.Statement.LineByLine
import NovaLint.Proofs.Token.Quotes

/-!
# What the export of tokens tells

The export writes every token as it stands, so a string may hold what looks like other tokens with
their tags.  The tokens can be told from it nevertheless.  A text without quotes ends at the first
blank and a character between quotes at its second quote.  A double quote begins a string if some
later quote ends it and is followed by the tag of a string; if the quote opens nothing, no string
follows on its line, and nothing else puts that tag behind a quote.
-/

namespace NovaLint

/-- The tokens of a line with their tags. -/
def Token.exportedLine (tokens : List Token) : String :=
  ", ".intercalate (tokens.map Token.tagged)

/-- Tokens with their tags, a separator before each. -/
def Token.listed (tokens : List Token) : List Char :=
  tokens.flatMap fun token => ", ".toList ++ token.tagged.toList

namespace Token

theorem toList_tagged (token : Token) :
    token.tagged.toList = token.text.toList ++ (" -> ".toList ++ token.kind.code.toList) := by
  rw [tagged, String.toList_append, String.toList_append, List.append_assoc]

@[simp]
theorem listed_cons (token : Token) (later : List Token) :
    listed (token :: later) = ", ".toList ++ (token.tagged.toList ++ listed later) := by
  rw [listed, List.flatMap_cons, List.append_assoc]
  rfl

theorem toList_exportedLine (token : Token) (later : List Token) :
    (exportedLine (token :: later)).toList = token.tagged.toList ++ listed later := by
  rw [exportedLine, String.toList_intercalate, List.map_map]
  induction later generalizing token with
  | nil => simp [listed]
  | cons next later ih =>
      rw [List.map_cons, List.map_cons, List.intercalate_cons_cons, ← List.map_cons, ih next,
        listed_cons, List.append_assoc]
      rfl

theorem not_mem_code {c : Char} (special : c ∈ ['"', '\n']) (kind : Kind) :
    c ∉ kind.code.toList := by
  simp only [List.mem_cons, List.not_mem_nil, or_false] at special
  rcases special with rfl | rfl <;> cases kind <;> decide

/-- No double quote is followed by the tag of a string. -/
def NoStringEnds (text : List Char) : Prop :=
  ∀ front back, text = front ++ '"' :: back → ¬ " -> S".toList <+: back

theorem noStringEnds_nil : NoStringEnds [] := by
  intro front back split
  simp at split

theorem NoStringEnds.append {front back : List Char} (no_quote : '"' ∉ front)
    (behind : NoStringEnds back) : NoStringEnds (front ++ back) := by
  intro before rest split
  rcases List.append_eq_append_iff.mp split with ⟨more, rfl, split'⟩ | ⟨more, rfl, split'⟩
  · exact behind more rest split'
  · cases more with
    | nil => exact behind [] rest split'.symm
    | cons quote more =>
        obtain ⟨rfl, _⟩ := List.cons.inj split'
        simp at no_quote

theorem NoStringEnds.quote {text : List Char} (no_tag : ¬ " -> S".toList <+: text)
    (behind : NoStringEnds text) : NoStringEnds ('"' :: text) := by
  intro front back split
  cases front with
  | nil => exact (List.cons.inj split).2 ▸ no_tag
  | cons _ front => exact behind front back (List.cons.inj split).2

/-- Only strings end in a quote before the tag of a string. -/
theorem noStringEnds_tagged {token : Token} (quoting : token.Quoting)
    (not_string : token.kind ≠ .stringLiteral) {text : List Char} (behind : NoStringEnds text) :
    NoStringEnds (token.tagged.toList ++ text) := by
  have tag_behind : NoStringEnds (" -> ".toList ++ (token.kind.code.toList ++ text)) :=
    .append (by decide) (.append (not_mem_code (by simp) _) behind)
  rw [toList_tagged, List.append_assoc, List.append_assoc]
  cases quoting with
  | bare _ no_quotes =>
      exact .append (fun quote => no_quotes '"' quote (by simp)) tag_behind
  | lone quote is_quote kind_eq text_eq =>
      rw [text_eq]
      by_cases double : quote = '"'
      · subst double
        refine .quote ?_ tag_behind
        rw [kind_eq]
        simp [Kind.code]
      · exact .append (by simpa using Ne.symm double) tag_behind
  | string _ _ kind_eq _ => exact absurd kind_eq not_string
  | char body matched _ text_eq =>
      obtain ⟨escape, c, no_quote, rfl⟩ : ∃ escape c, '"' ∉ escape ∧ body = escape ++ [c] := by
        rcases Pattern.mem_quotable.mp matched with ⟨c, _, rfl⟩ | ⟨c, _, rfl⟩
        · exact ⟨[], c, by simp, rfl⟩
        · exact ⟨['\\'], c, by decide, rfl⟩
      have pieces : '\'' :: (escape ++ [c] ++ ['\'']) = ('\'' :: escape) ++ ([c] ++ ['\'']) := by
        simp
      have end_behind : NoStringEnds
          (['\''] ++ (" -> ".toList ++ (token.kind.code.toList ++ text))) :=
        .append (by decide) tag_behind
      rw [text_eq, pieces, List.append_assoc, List.append_assoc]
      refine .append (by simpa using no_quote) ?_
      by_cases double : c = '"'
      · subst double
        exact .quote (by simp) end_behind
      · exact .append (by simpa using Ne.symm double) end_behind

theorem noStringEnds_listed {tokens : List Token} (quoting : ∀ token ∈ tokens, token.Quoting)
    (no_string : ∀ token ∈ tokens, token.kind ≠ .stringLiteral) : NoStringEnds (listed tokens) := by
  induction tokens with
  | nil => exact noStringEnds_nil
  | cons token later ih =>
      obtain ⟨quoting_token, quoting_later⟩ := List.forall_mem_cons.mp quoting
      obtain ⟨token_not, later_not⟩ := List.forall_mem_cons.mp no_string
      rw [listed_cons]
      exact .append (by decide)
        (noStringEnds_tagged quoting_token token_not (ih quoting_later later_not))

/-- The text of the token at the front of an export. -/
def leadingText : List Char → List Char
  | '"' :: rest =>
    match Lexeme.stringExtra? rest with
    | some extra => if " -> S".toList <+: rest.drop extra then '"' :: rest.take extra else ['"']
    | none => ['"']
  | '\'' :: rest =>
    match Lexeme.charExtra? rest with
    | some extra => '\'' :: rest.take extra
    | none => ['\'']
  | text => text.takeWhile (· != ' ')

theorem leadingText_of_bare {front back : List Char} (nonempty : front ≠ [])
    (no_quotes : ∀ c ∈ front, c ∉ [' ', '"', '\'']) :
    leadingText (front ++ ' ' :: back) = front := by
  obtain ⟨c, rest, rfl⟩ := List.exists_cons_of_ne_nil nonempty
  have no_quote := no_quotes c List.mem_cons_self
  simp only [List.mem_cons, List.not_mem_nil, or_false, not_or] at no_quote
  rw [List.cons_append, leadingText, ← List.cons_append, List.takeWhile_append_of_pos]
  · simp
  · intro d member
    simpa using fun blank : d = ' ' => no_quotes d member (by simp [blank])
  · exact fun _ split => no_quote.2.1 (List.cons.inj split).1
  · exact fun _ split => no_quote.2.2 (List.cons.inj split).1

theorem leadingText_of_lone_quote {text : List Char} (no_end : NoStringEnds text) :
    leadingText ('"' :: text) = ['"'] := by
  rw [leadingText]
  cases found : Lexeme.stringExtra? text with
  | none => rfl
  | some extra =>
      obtain ⟨body, _, ⟨back, split⟩, rfl⟩ := Lexeme.exists_body_of_stringExtra? found
      rw [List.append_assoc] at split
      have dropped : text.drop (body.length + 1) = back := by
        rw [← split, List.drop_append]
        simp
      dsimp only
      rw [dropped, if_neg (no_end body back split.symm)]

theorem leadingText_of_string {body back : List Char}
    (matched : body ∈ (Pattern.quotable '"').many.language) (tag : " -> S".toList <+: back) :
    leadingText ('"' :: (body ++ '"' :: back)) = '"' :: (body ++ ['"']) := by
  rw [leadingText, Lexeme.stringExtra?_append matched]
  have dropped : (body ++ '"' :: back).drop (body.length + 1) = back := by
    rw [List.drop_append]
    simp
  dsimp only
  rw [dropped, if_pos tag, List.take_append]
  simp

theorem leadingText_of_char {body back : List Char}
    (matched : body ∈ (Pattern.quotable '\'').language) :
    leadingText ('\'' :: (body ++ '\'' :: back)) = '\'' :: (body ++ ['\'']) := by
  rw [leadingText, Lexeme.charExtra?_append matched]
  dsimp only
  rw [List.take_append]
  simp

/-- The text of the first token is told by the export. -/
theorem leadingText_tagged {token : Token} {later : List Token}
    (ofLine : OfLine (token :: later)) :
    leadingText (token.tagged.toList ++ listed later) = token.text.toList := by
  rw [toList_tagged, List.append_assoc, List.append_assoc]
  cases ofLine.quoting token List.mem_cons_self with
  | bare nonempty no_quotes => exact leadingText_of_bare nonempty no_quotes
  | lone quote is_quote kind_eq text_eq =>
      simp only [List.mem_cons, List.not_mem_nil, or_false] at is_quote
      rcases is_quote with rfl | rfl
      · have no_string : ∀ next ∈ later, next.kind ≠ .stringLiteral := fun next member =>
          (List.pairwise_cons.mp ofLine.no_string).1 next member kind_eq text_eq
        have quoting : ∀ next ∈ later, next.Quoting := fun next member =>
          ofLine.quoting next (List.mem_cons_of_mem token member)
        have tag_behind : NoStringEnds (token.kind.code.toList ++ listed later) :=
          .append (not_mem_code (by simp) _) (noStringEnds_listed quoting no_string)
        rw [text_eq, List.singleton_append]
        exact leadingText_of_lone_quote (.append (by decide) tag_behind)
      · rw [text_eq]
        rfl
  | string body matched kind_eq text_eq =>
      rw [text_eq, kind_eq, List.cons_append, List.append_assoc]
      exact leadingText_of_string matched (by simp [Kind.code])
  | char body matched _ text_eq =>
      rw [text_eq, List.cons_append, List.append_assoc]
      exact leadingText_of_char matched

/-- The tokens of a line are told by its export. -/
theorem eq_of_listed_eq {tokens others : List Token} (ofLine : OfLine tokens)
    (ofLine' : OfLine others) (same : listed tokens = listed others) :
    tokens.map (fun token => (token.kind, token.text)) =
      others.map fun token => (token.kind, token.text) := by
  induction tokens generalizing others with
  | nil =>
      cases others with
      | nil => rfl
      | cons other later' => simp [listed] at same
  | cons token later ih =>
      cases others with
      | nil => simp [listed] at same
      | cons other later' =>
          rw [listed_cons, listed_cons, List.append_cancel_left_eq] at same
          have text_eq : token.text.toList = other.text.toList := by
            rw [← leadingText_tagged ofLine, same, leadingText_tagged ofLine']
          obtain ⟨_, chosen⟩ := ofLine.chosen token List.mem_cons_self
          obtain ⟨_, chosen'⟩ := ofLine'.chosen other List.mem_cons_self
          rw [← text_eq] at chosen'
          have kind_eq := chosen.kind_unique chosen'
          rw [toList_tagged, toList_tagged, text_eq, kind_eq, List.append_cancel_left_eq] at same
          rw [List.map_cons, List.map_cons, ih ofLine.tail ofLine'.tail same, kind_eq,
            String.toList_inj.mp text_eq]

theorem eq_of_exportedLine_eq {tokens others : List Token} (ofLine : OfLine tokens)
    (ofLine' : OfLine others) (nonempty : tokens ≠ []) (nonempty' : others ≠ [])
    (same : exportedLine tokens = exportedLine others) :
    tokens.map (fun token => (token.kind, token.text)) =
      others.map fun token => (token.kind, token.text) := by
  obtain ⟨token, later, rfl⟩ := List.exists_cons_of_ne_nil nonempty
  obtain ⟨other, later', rfl⟩ := List.exists_cons_of_ne_nil nonempty'
  have same_text := congrArg String.toList same
  rw [toList_exportedLine, toList_exportedLine] at same_text
  exact eq_of_listed_eq ofLine ofLine' (by rw [listed_cons, listed_cons, same_text])

theorem exportedLine_ne_empty {tokens : List Token} (nonempty : tokens ≠ []) :
    (exportedLine tokens).toList ≠ [] := by
  obtain ⟨token, later, rfl⟩ := List.exists_cons_of_ne_nil nonempty
  rw [toList_exportedLine, toList_tagged]
  simp

theorem newline_not_mem_exportedLine {tokens : List Token}
    (one_line : ∀ token ∈ tokens, '\n' ∉ token.text.toList) :
    '\n' ∉ (exportedLine tokens).toList := by
  have not_tagged : ∀ token ∈ tokens, '\n' ∉ token.tagged.toList := by
    intro token member
    have not_code := not_mem_code (c := '\n') (by simp) token.kind
    rw [toList_tagged, List.mem_append, List.mem_append, not_or, not_or]
    exact ⟨one_line token member, by decide, not_code⟩
  cases tokens with
  | nil => simp [exportedLine]
  | cons token later =>
      obtain ⟨not_first, not_later⟩ := List.forall_mem_cons.mp not_tagged
      rw [toList_exportedLine, List.mem_append, not_or]
      refine ⟨not_first, fun newline => ?_⟩
      obtain ⟨next, member, held⟩ := List.mem_flatMap.mp newline
      exact (List.mem_append.mp held).elim (by decide) (not_later next member)

end Token

/-! ## The export of a text -/

namespace TokenLines

/-- The tokens of a text have the form of tokens of lines, line by line. -/
theorem ofLine_of_mem_entries {source : String} {entry : Entry}
    (member : entry ∈ (ofTokens (tokenize source)).entries) :
    Token.OfLine entry.tokens ∧ entry.tokens ≠ [] := by
  rw [entries_tokenize] at member
  obtain ⟨line, line_mem, found⟩ := List.mem_filterMap.mp member
  obtain ⟨nonempty, rfl⟩ := Text.Line.group?_eq_some_iff.mp found
  have one_line := Text.newline_not_mem_of_mem_contents line_mem
  refine ⟨?_, nonempty⟩
  change Token.OfLine line.tokens
  rw [← Cursor.tokens_eq_line one_line ⟨line.start, line.number⟩]
  exact Cursor.ofLine_tokens one_line

theorem splitOn_exported {source : String}
    (nonempty : (ofTokens (tokenize source)).entries ≠ []) :
    (ofTokens (tokenize source)).exported.toList.splitOn '\n' =
      (ofTokens (tokenize source)).entries.map fun entry =>
        (Token.exportedLine entry.tokens).toList := by
  rw [exported, String.toList_intercalate, List.map_map]
  refine List.splitOn_intercalate '\n' ?_ (mt List.map_eq_nil_iff.mp nonempty)
  intro piece member
  obtain ⟨entry, entry_mem, rfl⟩ := List.mem_map.mp member
  exact Token.newline_not_mem_exportedLine (ofLine_of_mem_entries entry_mem).1.one_line

theorem entries_eq_nil_of_exported {source : String}
    (empty : (ofTokens (tokenize source)).exported = "") :
    (ofTokens (tokenize source)).entries = [] := by
  by_contra nonempty
  have split := splitOn_exported nonempty
  rw [empty] at split
  have empty_line : [] ∈ (ofTokens (tokenize source)).entries.map fun entry =>
      (Token.exportedLine entry.tokens).toList := split ▸ List.mem_singleton.mpr rfl
  obtain ⟨entry, member, line_eq⟩ := List.mem_map.mp empty_line
  exact Token.exportedLine_ne_empty (ofLine_of_mem_entries member).2 line_eq

theorem map_entries_eq {source other : String}
    (same : (ofTokens (tokenize source)).exported = (ofTokens (tokenize other)).exported) :
    (ofTokens (tokenize source)).entries.map (Token.exportedLine ·.tokens) =
      (ofTokens (tokenize other)).entries.map (Token.exportedLine ·.tokens) := by
  by_cases empty : (ofTokens (tokenize source)).entries = []
  · have exported_eq : (ofTokens (tokenize source)).exported = "" := by
      rw [exported, empty]
      rfl
    rw [empty, entries_eq_nil_of_exported (same ▸ exported_eq)]
  · have nonempty : (ofTokens (tokenize other)).entries ≠ [] := by
      intro empty'
      refine empty (entries_eq_nil_of_exported ?_)
      rw [same, exported, empty']
      rfl
    have lines_eq := splitOn_exported empty
    rw [same, splitOn_exported nonempty] at lines_eq
    refine List.map_injective_iff.mpr (fun _ _ => String.toList_inj.mp) ?_
    rw [List.map_map, List.map_map]
    exact lines_eq.symm

theorem entries_ne_nil {source : String} (nonempty : tokenize source ≠ []) :
    (ofTokens (tokenize source)).entries ≠ [] := by
  intro empty
  rw [entries_tokenize, List.filterMap_eq_nil_iff] at empty
  rw [tokenize_eq_flatMap] at nonempty
  refine nonempty (List.flatMap_eq_nil_iff.mpr fun line member => ?_)
  have nothing := empty line member
  rwa [Text.Line.group?, ite_eq_left_iff, not_imp_comm, imp_iff_right (by simp)] at nothing

/-- Entries of lines whose exports are equal hold tokens of the same kinds and texts. -/
theorem Entry.outlines_eq {entries others : List Entry}
    (forms : ∀ entry ∈ entries, Token.OfLine entry.tokens ∧ entry.tokens ≠ [])
    (forms' : ∀ entry ∈ others, Token.OfLine entry.tokens ∧ entry.tokens ≠ [])
    (same : entries.map (Token.exportedLine ·.tokens) =
      others.map (Token.exportedLine ·.tokens)) :
    entries.map (·.tokens.map fun token => (token.kind, token.text)) =
      others.map (·.tokens.map fun token => (token.kind, token.text)) := by
  induction entries generalizing others with
  | nil =>
      obtain rfl := List.map_eq_nil_iff.mp same.symm
      rfl
  | cons entry later ih =>
      obtain ⟨other, later', rfl, other_eq, later_eq⟩ := List.map_eq_cons_iff.mp same.symm
      obtain ⟨⟨ofLine, nonempty⟩, later_forms⟩ := List.forall_mem_cons.mp forms
      obtain ⟨⟨ofLine', nonempty'⟩, later_forms'⟩ := List.forall_mem_cons.mp forms'
      rw [List.map_cons, List.map_cons, ih later_forms later_forms' later_eq.symm,
        Token.eq_of_exportedLine_eq ofLine ofLine' nonempty nonempty' other_eq.symm]

theorem exported_eq_intercalate (group : TokenLines) :
    group.exported = "\n".intercalate
      ((group.entries.map (·.tokens.map fun token => (token.kind, token.text))).map fun outline =>
        ", ".intercalate (outline.map fun told => told.2 ++ " -> " ++ told.1.code)) := by
  rw [exported, List.map_map]
  refine congrArg "\n".intercalate (List.map_congr_left fun entry _ => ?_)
  rw [Function.comp_apply, List.map_map]
  rfl

theorem exported_eq_iff {source other : String} :
    (ofTokens (tokenize source)).exported = (ofTokens (tokenize other)).exported ↔
      (ofTokens (tokenize source)).entries.map
          (·.tokens.map fun token => (token.kind, token.text)) =
        (ofTokens (tokenize other)).entries.map
          (·.tokens.map fun token => (token.kind, token.text)) := by
  constructor
  · intro same
    exact Entry.outlines_eq (fun _ => ofLine_of_mem_entries) (fun _ => ofLine_of_mem_entries)
      (map_entries_eq same)
  · intro same
    rw [exported_eq_intercalate, exported_eq_intercalate, same]

end TokenLines

/-- The tokens of one line. -/
def Token.onLine (tokens : List Token) (number : Nat) : List Token :=
  tokens.filter (·.line == number)

theorem Token.onLine_append (front back : List Token) (number : Nat) :
    onLine (front ++ back) number = onLine front number ++ onLine back number :=
  List.filter_append ..

/-- The numbers of the lines of a text that hold a token. -/
def Text.heldLines (source : String) : List Nat :=
  (List.range' 1 (source.toList.splitOn '\n').length).filter fun number =>
    Token.onLine (tokenize source) number ≠ []

namespace Text.Line

theorem onLine_tokens (line : Line) : Token.onLine line.tokens line.number = line.tokens :=
  List.filter_eq_self.mpr fun _ member => beq_iff_eq.mpr (line_of_mem_tokens member)

theorem onLine_tokens_of_ne {line : Line} {number : Nat} (elsewhere : line.number ≠ number) :
    Token.onLine line.tokens number = [] := by
  refine List.filter_eq_nil_iff.mpr fun token member here => ?_
  exact elsewhere ((line_of_mem_tokens member).symm.trans (beq_iff_eq.mp here))

theorem onLine_flatMap_of_ne {lines : List Line} {number : Nat}
    (elsewhere : ∀ line ∈ lines, line.number ≠ number) :
    Token.onLine (lines.flatMap (·.tokens)) number = [] := by
  induction lines with
  | nil => rfl
  | cons line later ih =>
      obtain ⟨line_ne, later_ne⟩ := List.forall_mem_cons.mp elsewhere
      rw [List.flatMap_cons, Token.onLine_append, onLine_tokens_of_ne line_ne, ih later_ne]
      rfl

end Text.Line

/-- The entries of the numbers that are held, each with all tokens of its number. -/
def TokenLines.Entry.ofNumbers (tokens : List Token) (numbers : List Nat) : List Entry :=
  (numbers.filter fun number => Token.onLine tokens number ≠ []).map fun number =>
    ⟨number, Token.onLine tokens number⟩

theorem TokenLines.Entry.ofNumbers_congr {tokens others : List Token} {numbers : List Nat}
    (same : ∀ number ∈ numbers, Token.onLine tokens number = Token.onLine others number) :
    ofNumbers tokens numbers = ofNumbers others numbers := by
  have same_held := List.filter_congr fun number member =>
    congrArg (fun here => decide (here ≠ [])) (same number member)
  rw [ofNumbers, same_held]
  refine List.map_congr_left fun number held => ?_
  rw [same number (List.mem_filter.mp held).1]

/-- Where lines are numbered one after the other, each entry holds all tokens of its number. -/
theorem TokenLines.Entry.filterMap_group? {lines : List Text.Line} {base : Nat}
    (numbered : ∀ index line, lines[index]? = some line → line.number = base + index) :
    lines.filterMap (·.group?) =
      ofNumbers (lines.flatMap (·.tokens)) (List.range' base lines.length) := by
  induction lines generalizing base with
  | nil => rfl
  | cons line later ih =>
      obtain rfl : line.number = base := numbered 0 line rfl
      have later_numbered : ∀ index line', later[index]? = some line' →
          line'.number = line.number + 1 + index := by
        intro index line' found
        rw [numbered (index + 1) line' found]
        omega
      have here : Token.onLine ((line :: later).flatMap (·.tokens)) line.number = line.tokens := by
        have later_ne : ∀ line' ∈ later, line'.number ≠ line.number := by
          intro line' member
          obtain ⟨index, found⟩ := List.mem_iff_getElem?.mp member
          rw [later_numbered index line' found]
          omega
        rw [List.flatMap_cons, Token.onLine_append, Text.Line.onLine_tokens,
          Text.Line.onLine_flatMap_of_ne later_ne, List.append_nil]
      have behind : ofNumbers ((line :: later).flatMap (·.tokens))
          (List.range' (line.number + 1) later.length) = later.filterMap (·.group?) := by
        rw [ih later_numbered]
        refine ofNumbers_congr fun number member => ?_
        have number_ne : line.number ≠ number := by
          have := List.mem_range'_1.mp member
          omega
        rw [List.flatMap_cons, Token.onLine_append, Text.Line.onLine_tokens_of_ne number_ne,
          List.nil_append]
      rw [List.length_cons, List.range'_succ, ofNumbers, List.filter_cons, here]
      by_cases empty : line.tokens = []
      · have nothing : line.group? = none := if_pos empty
        rw [List.filterMap_cons_none nothing, if_neg (by simpa using empty)]
        exact behind.symm
      · have found : line.group? = some ⟨line.number, line.tokens⟩ := if_neg empty
        rw [List.filterMap_cons_some found, if_pos (by simpa using empty), List.map_cons, here]
        exact congrArg (_ :: ·) behind.symm

theorem TokenLines.entries_eq_heldLines (source : String) :
    (ofTokens (tokenize source)).entries = (Text.heldLines source).map fun number =>
      ⟨number, Token.onLine (tokenize source) number⟩ := by
  have numbered : ∀ index line, (Text.contents source)[index]? = some line →
      line.number = 1 + index := by
    intro index line found
    rw [Text.number_of_getElem?_contents found, Nat.add_comm]
  have length_eq : (Text.contents source).length = (source.toList.splitOn '\n').length := by
    rw [← Text.map_text_contents, List.length_map]
  rw [entries_tokenize, Entry.filterMap_group? numbered, ← tokenize_eq_flatMap, length_eq]
  rfl

/-- The export tells the kinds and the texts of all tokens, line by line, and nothing else.  It has
one line for each line that holds a token. -/
theorem exported_tells_tokens (source : String) :
    ((TokenLines.ofTokens (tokenize source)).entries =
      (Text.heldLines source).map fun number =>
        ⟨number, Token.onLine (tokenize source) number⟩) ∧
    (∀ other,
      let group := TokenLines.ofTokens (tokenize source)
      let group' := TokenLines.ofTokens (tokenize other)
      group.exported = group'.exported ↔
        group.entries.map (·.tokens.map fun token => (token.kind, token.text)) =
          group'.entries.map (·.tokens.map fun token => (token.kind, token.text))) ∧
    (tokenize source ≠ [] →
      (TokenLines.ofTokens (tokenize source)).exported.toList.splitOn '\n' =
        (Text.heldLines source).map fun number =>
          (Token.exportedLine (Token.onLine (tokenize source) number)).toList) := by
  refine ⟨TokenLines.entries_eq_heldLines source, fun _ => TokenLines.exported_eq_iff, ?_⟩
  intro nonempty
  rw [TokenLines.splitOn_exported (TokenLines.entries_ne_nil nonempty),
    TokenLines.entries_eq_heldLines, List.map_map]
  rfl

/-- A string that holds a tag, two quotes that open nothing, and a line without tokens. -/
theorem exported_tells_tokens_of_open_quote :
    tokenize "'\"' \"_x -> IDEN, 1\" \"\n// \"\n\"_x = 1" ≠ [] ∧
      Text.heldLines "'\"' \"_x -> IDEN, 1\" \"\n// \"\n\"_x = 1" = [1, 3] ∧
      (TokenLines.ofTokens
          (tokenize "'\"' \"_x -> IDEN, 1\" \"\n// \"\n\"_x = 1")).exported.toList.splitOn '\n' =
        ["'\"' -> CHR, \"_x -> IDEN, 1\" -> STR, \" -> ERR".toList,
          "\" -> ERR, _x -> IDEN, = -> ASSGN, 1 -> NUMINT".toList] := by
  have nonempty : tokenize "'\"' \"_x -> IDEN, 1\" \"\n// \"\n\"_x = 1" ≠ [] := by decide +kernel
  have held : Text.heldLines "'\"' \"_x -> IDEN, 1\" \"\n// \"\n\"_x = 1" = [1, 3] := by
    decide +kernel
  refine ⟨nonempty, held, ?_⟩
  rw [(exported_tells_tokens _).2.2 nonempty, held]
  decide +kernel

end NovaLint
