import ScriptCheck.Proofs.Token.Scanning

/-!
# Tokens are spelled back

Written one by one with spaces between them, the tokens of a text are divided in the same way again
(`spelled_tokens_are_read`). A token is written as its value, which is the text it was read from;
only a string literal is read from more than its value. There the value is put between double
quotes, and escapes keep the quotes and backslashes in it from ending it or meaning something else.

`Token.IsReadBack` is what a token that was read keeps, whatever stood behind it: its spelling is
taken by one rule, which makes the token anew.
-/

namespace ScriptCheck

/-- The characters of a text as they are written between double quotes. -/
def Escape.encode : List Char → List Char
  | [] => []
  | char :: text =>
    if char = '\\' ∨ char = '"' then '\\' :: char :: encode text else char :: encode text

/-- The string literal that denotes a text. -/
def quotedLiteral (value : String) : String :=
  "\"" ++ String.ofList (Escape.encode value.toList) ++ "\""

namespace Token

/-- A text for the token: its value, or the literal that denotes its value. -/
def spelling (token : Token) : String :=
  if token.kind = .stringLiteral then quotedLiteral token.value else token.value

/-- The token where its spelling stands at a place. -/
def spelledAt (position : Position) (token : Token) : Token :=
  { token with start := position, stop := position.advance token.spelling.toList }

/-- What a token is, wherever it stands. -/
def content (token : Token) : Kind × String :=
  (token.kind, token.value)

end Token

/-- The spellings of the tokens in front of the end, with spaces between them. -/
def spelled (tokens : List Token) : String :=
  " ".intercalate ((withoutEnd tokens).map Token.spelling)

theorem Escape.decode_encode (text : List Char) : decode (encode text) = text := by
  induction text with
  | nil => rfl
  | cons char text ih =>
      rw [encode]
      split
      · rename_i escaped
        rcases escaped with rfl | rfl
        · rw [decode, ih]
          rfl
        · rw [decode, ih]
          rfl
      · rename_i plain
        rw [decode, ih]
        intro _ _ isEscape
        exact absurd (.inl isEscape) plain

/-- The quote behind an encoded text is the first one that ends it. -/
theorem Rule.stringLength?_encode (text rest : List Char) :
    stringLength? '"' (Escape.encode text ++ '"' :: rest) =
      some ((Escape.encode text).length + 1) := by
  induction text with
  | nil => rfl
  | cons char text ih =>
      rw [Escape.encode]
      split
      · rw [List.cons_append, List.cons_append, stringLength?, ih]
        rfl
      · rename_i plain
        rw [not_or] at plain
        rw [List.cons_append, stringLength?_cons plain.1, if_neg plain.2, ih]
        rfl

/-- In front of a break, the token is read from its spelling. -/
def Token.IsReadBack (token : Token) : Prop :=
  ∀ rest, Breaks rest → ∃ rule,
    Rule.first? (token.spelling.toList ++ rest) = some (rule, token.spelling.toList.length) ∧
      rule.outcome token.spelling.toList = .token token.kind token.value

theorem Token.isReadBack_of_string {token : Token} (literal : token.kind = .stringLiteral) :
    token.IsReadBack := by
  intro rest _
  let inner := Escape.encode token.value.toList
  have spelling : token.spelling.toList = '"' :: (inner ++ ['"']) := by
    rw [Token.spelling, if_pos literal, quotedLiteral]
    simp [inner]
  refine ⟨.string '"', ?_, ?_⟩
  · apply Rule.first?_of_general (by simp [Rule.general, Rule.all]) (by simp)
    refine Rule.length?_string_eq_some.mpr ⟨inner ++ '"' :: rest, inner.length + 1, ?_, ?_, ?_⟩
    · simp [spelling]
    · exact Rule.stringLength?_encode _ rest
    · simp [spelling]
  · rw [spelling, Rule.outcome, literal]
    simp [inner, Escape.decode_encode]

/-- What was read from some text is read from its spelling too. -/
theorem Token.isReadBack_of_rule {token : Token} {rule : Rule} {text : List Char} {count : Nat}
    (found : Rule.first? text = some (rule, count))
    (makes : rule.outcome (text.take count) = .token token.kind token.value) :
    token.IsReadBack := by
  by_cases literal : token.kind = .stringLiteral
  · exact isReadBack_of_string literal
  · intro rest breaks
    obtain ⟨known, applies⟩ := Rule.ok_of_first? found
    have spells := (Rule.spells_of_token known applies makes token.start token.stop).2
    have spelling : token.spelling.toList = text.take count := by
      rw [Token.Spells, if_neg literal] at spells
      rw [Token.spelling, if_neg literal, spells, String.toList_ofList]
    have length : (text.take count).length = count :=
      List.length_take_of_le (Rule.le_of_length? applies)
    rw [spelling, length]
    refine ⟨rule, ?_, makes⟩
    rw [← List.take_append_drop count text] at found
    apply Rule.first?_append found (Nat.le_of_eq length.symm) breaks
    intro mem
    simp only [List.mem_cons, List.not_mem_nil, or_false] at mem
    rcases mem with rfl | rfl | rfl | rfl <;> contradiction

theorem isReadBack_of_scans {cursor : Cursor} {tokens : List Token}
    (scans : Scans cursor tokens) : ∀ token ∈ withoutEnd tokens, token.IsReadBack := by
  induction scans with
  | ended none => exact fun _ mem => absurd mem List.not_mem_nil
  | skip found skips _ ih => exact ih
  | token found makes _ ih =>
      intro token mem
      obtain ⟨mem, unended⟩ := List.mem_filter.mp mem
      rcases List.mem_cons.mp mem with rfl | later
      · exact Token.isReadBack_of_rule found makes
      · exact ih token (List.mem_filter.mpr ⟨later, unended⟩)

theorem Token.IsReadBack.tokensFrom_eq {token : Token} (isReadBack : token.IsReadBack)
    {rest : List Char} (breaks : Breaks rest) (position : Position) :
    tokensFrom { rest := token.spelling.toList ++ rest, position } =
      (tokensFrom { rest, position := position.advance token.spelling.toList }).map
        (token.spelledAt position :: ·) := by
  obtain ⟨rule, found, makes⟩ := isReadBack rest breaks
  let cursor : Cursor := { rest := token.spelling.toList ++ rest, position }
  have foundHere : Rule.first? cursor.rest = some (rule, token.spelling.toList.length) := found
  have whole : cursor.rest.take token.spelling.toList.length = token.spelling.toList :=
    List.take_left
  have after : cursor.advance token.spelling.toList.length =
      { rest, position := position.advance token.spelling.toList } := by
    rw [Cursor.advance, whole]
    simp only [cursor, List.drop_left]
  rw [← whole] at makes
  rw [tokensFrom_of_token foundHere makes, after]
  rfl

/-- The last token may stand at the end of the text. -/
theorem Token.IsReadBack.tokensFrom_last {token : Token} (isReadBack : token.IsReadBack)
    (position : Position) :
    tokensFrom { rest := token.spelling.toList, position } =
      .ok [token.spelledAt position, Token.eofAt (position.advance token.spelling.toList)] := by
  have nothing : Breaks [] := nofun
  have read := isReadBack.tokensFrom_eq nothing position
  rw [List.append_nil] at read
  rw [read, tokensFrom_of_nil rfl]
  rfl

/-- The list of tokens is closed by the mark for the end. -/
theorem map_content_of_scans {cursor : Cursor} {tokens : List Token}
    (scans : Scans cursor tokens) :
    tokens.map Token.content = (withoutEnd tokens).map Token.content ++ [(.eof, "EOF")] := by
  induction scans with
  | ended none => rfl
  | skip found skips _ ih => exact ih
  | token found makes _ ih =>
      rw [withoutEnd_cons found makes, List.map_cons, ih]
      rfl

/-- Spellings with spaces between them are read one by one. -/
theorem exists_tokensFrom_spellings {tokens : List Token}
    (each : ∀ token ∈ tokens, token.IsReadBack) (position : Position) :
    ∃ again,
      tokensFrom { rest := (" ".intercalate (tokens.map Token.spelling)).toList, position } =
        .ok again ∧
      again.map Token.content = tokens.map Token.content ++ [(.eof, "EOF")] := by
  induction tokens generalizing position with
  | nil => exact ⟨_, tokensFrom_of_nil rfl, rfl⟩
  | cons token tokens ih =>
      rw [List.forall_mem_cons] at each
      obtain ⟨isReadBack, each⟩ := each
      cases tokens with
      | nil =>
          have alone : (" ".intercalate ([token].map Token.spelling)).toList =
              token.spelling.toList := by simp
          rw [alone]
          exact ⟨_, isReadBack.tokensFrom_last position, rfl⟩
      | cons next tokens =>
          let rest := (" ".intercalate ((next :: tokens).map Token.spelling)).toList
          have split : (" ".intercalate ((token :: next :: tokens).map Token.spelling)).toList =
              token.spelling.toList ++ ' ' :: rest := by
            simp [rest]
          have blank : Breaks (' ' :: rest) := by simp [Breaks, Text.isBlank]
          obtain ⟨others, read, contents⟩ :=
            ih each ((position.advance token.spelling.toList).next ' ')
          rw [split, isReadBack.tokensFrom_eq blank, tokensFrom_blank (by decide), read]
          refine ⟨_, rfl, ?_⟩
          rw [List.map_cons, contents]
          rfl

/-- A text is divided into the same tokens again when each token is written on its own, as its
value, or as its value between double quotes with escapes. -/
theorem spelled_tokens_are_read (file : String) :
    (∀ source tokens, tokenize source file = .ok tokens →
      ∃ again, tokenize (spelled tokens) file = .ok again ∧
        again.map Token.content = tokens.map Token.content) ∧
    ∀ value, ∃ stop, tokenize (quotedLiteral value) file =
      .ok [{ kind := .stringLiteral, value, start := Position.start file, stop },
        Token.eofAt stop] := by
  constructor
  · intro source tokens read
    have scans := scans_of_tokensFrom _ tokens read
    obtain ⟨again, readAgain, contents⟩ :=
      exists_tokensFrom_spellings (isReadBack_of_scans scans) (Position.start file)
    exact ⟨again, readAgain, contents.trans (map_content_of_scans scans).symm⟩
  · intro value
    let token : Token :=
      { kind := .stringLiteral, value, start := Position.start file, stop := Position.start file }
    have isReadBack : token.IsReadBack := Token.isReadBack_of_string rfl
    exact ⟨_, isReadBack.tokensFrom_last (Position.start file)⟩

/-- A string literal that holds both quotes, a backslash and a newline. -/
def mixedQuotes : String := "s+='\"\\'\\\\\n'/**/-1"

def mixedQuotesTokens : List Token :=
  let place (offset line column : Nat) : Position := { offset, line, column, file := "a" }
  [{ kind := .identifier, value := "s", start := place 0 1 1, stop := place 1 1 2 },
   { kind := .plusEquals, value := "+=", start := place 1 1 2, stop := place 3 1 4 },
   { kind := .stringLiteral, value := "\"'\\\n", start := place 3 1 4, stop := place 11 2 2 },
   { kind := .dash, value := "-", start := place 15 2 6, stop := place 16 2 7 },
   { kind := .integerLiteral, value := "1", start := place 16 2 7, stop := place 17 2 8 },
   Token.eofAt (place 17 2 8)]

theorem mixedQuotes_read_back :
    tokenize mixedQuotes "a" = .ok mixedQuotesTokens ∧
      spelled mixedQuotesTokens = "s += \"\\\"'\\\\\n\" - 1" ∧
      ∃ again, tokenize (spelled mixedQuotesTokens) "a" = .ok again ∧
        again.map Token.content = mixedQuotesTokens.map Token.content := by
  have read : tokenize mixedQuotes "a" = .ok mixedQuotesTokens := by
    apply Option.some.inj
    exact (tokensWithin_eq (Nat.le_refl _)).symm
  exact ⟨read, rfl, (spelled_tokens_are_read "a").1 mixedQuotes mixedQuotesTokens read⟩

end ScriptCheck
