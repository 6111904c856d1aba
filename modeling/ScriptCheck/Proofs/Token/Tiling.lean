import ScriptCheck.Proofs.Position
import ScriptCheck.Proofs.Token.Lexeme
import ScriptCheck.Token.Stream

/-!
# Token streams tile their text

The tokens of a text stand one behind the other without overlapping, each is spelled by the
characters between its two positions, and what they leave over are gaps of blanks and comments.
Every position is the one that is counted from the text in front of it.

The scanner works in rounds, each of which takes at least one character. `Tiles` is what a round
preserves, read from the end of the text to its front, and the number of characters that are left
bounds the number of rounds.
-/

namespace ScriptCheck

/-! ### Rounds -/

/-- What the scanner does at one place: it ends, or it takes some characters, which may yield a
token, and goes on behind them. -/
inductive Round where
  | finished (result : Except Diagnostic (List Token))
  | passed (emitted : List Token) (after : Cursor)

namespace Cursor

def round (cursor : Cursor) : Round :=
  match Rule.first? cursor.rest with
  | none =>
    match cursor.rest with
    | [] => .finished (.ok [Token.eofAt cursor.position])
    | char :: _ =>
      .finished (.error
        { cause := .lexical (.unrecognisedToken (String.singleton char))
          position := cursor.position })
  | some (rule, count) =>
    let after := cursor.advance count
    match rule.outcome (cursor.rest.take count) with
    | .skip => .passed [] after
    | .token kind value =>
      .passed [{ kind, value, start := cursor.position, stop := after.position }] after
    | .fault fault => .finished (.error { cause := .lexical fault, position := cursor.position })

end Cursor

/-- The tokens from a cursor on, where the given number of rounds and a last one find them. -/
def tokensWithin (rounds : Nat) (cursor : Cursor) : Option (Except Diagnostic (List Token)) :=
  match cursor.round with
  | .finished result => some result
  | .passed emitted after =>
    match rounds with
    | 0 => none
    | rounds + 1 => (tokensWithin rounds after).map fun result => result.map (emitted ++ ·)

theorem tokensFrom_eq (cursor : Cursor) :
    tokensFrom cursor =
      match cursor.round with
      | .finished result => result
      | .passed emitted after => (tokensFrom after).map (emitted ++ ·) := by
  rw [tokensFrom, Cursor.round]
  split
  · rename_i found
    rw [found]
    cases cursor.rest <;> rfl
  · rename_i rule count found
    rw [found]
    dsimp only
    cases rule.outcome (cursor.rest.take count) with
    | skip =>
        show tokensFrom (cursor.advance count) = (tokensFrom (cursor.advance count)).map ([] ++ ·)
        cases tokensFrom (cursor.advance count) <;> rfl
    | token kind value => rfl
    | fault fault => rfl

theorem length_rest_lt_of_round {cursor after : Cursor} {emitted : List Token}
    (passed : cursor.round = .passed emitted after) : after.rest.length < cursor.rest.length := by
  unfold Cursor.round at passed
  split at passed
  · split at passed <;> contradiction
  · rename_i found
    have shorter := length_rest_advance_lt found
    split at passed <;> cases passed
    · exact shorter
    · exact shorter

/-- As many rounds as there are characters, and a last one, reach the end of the tokens. -/
theorem tokensWithin_eq {rounds : Nat} {cursor : Cursor} (enough : cursor.rest.length ≤ rounds) :
    tokensWithin rounds cursor = some (tokensFrom cursor) := by
  induction rounds generalizing cursor with
  | zero =>
      rw [tokensWithin, tokensFrom_eq]
      cases went : cursor.round with
      | finished result => rfl
      | passed emitted after =>
          have := length_rest_lt_of_round went
          omega
  | succ rounds ih =>
      rw [tokensWithin, tokensFrom_eq]
      cases went : cursor.round with
      | finished result => rfl
      | passed emitted after =>
          have := length_rest_lt_of_round went
          have reached : tokensWithin rounds after = some (tokensFrom after) := ih (by omega)
          simp only [reached, Option.map_some]

/-! ### Tilings -/

open Position (behind)

/-- A token that stands in a file for the characters `lexeme` behind the text `before`. -/
structure Token.Covers (token : Token) (file : String) (before lexeme : List Char) : Prop where
  nonempty : lexeme ≠ []
  unended : token.kind ≠ .eof
  spelled : token.Spells lexeme
  start_eq : token.start = behind file before
  stop_eq : token.stop = behind file (before ++ lexeme)

theorem Token.Covers.offset_lt {token : Token} {file : String} {before lexeme : List Char}
    (covers : token.Covers file before lexeme)
    (short : (String.ofList (before ++ lexeme)).utf8ByteSize < UInt32.size) :
    token.start.offset < token.stop.offset := by
  rw [covers.start_eq, covers.stop_eq]
  exact Position.offset_behind_lt file covers.nonempty short

/-- The tokens of a text in front of which `before` stands in the file: each stands behind a gap,
and the mark for the end of the file behind the last gap. -/
inductive Tiles (file : String) : List Char → List Char → List Token → Prop
  | eof {before gap : List Char} :
      Gap [] gap → Tiles file before gap [Token.eofAt (behind file (before ++ gap))]
  | token {before gap lexeme rest : List Char} {token : Token} {tokens : List Token} :
      Gap (lexeme ++ rest) gap → token.Covers file (before ++ gap) lexeme →
      Tiles file (before ++ gap ++ lexeme) rest tokens →
      Tiles file before (gap ++ (lexeme ++ rest)) (token :: tokens)

namespace Tiles

variable {file : String} {before rest : List Char} {cursor after : Cursor} {tokens : List Token}

/-- What is skipped joins the gap of the token behind it. -/
theorem skip {skipped : List Char} (tiles : Tiles file (before ++ skipped) rest tokens)
    (joins : ∀ gap after, rest = gap ++ after → Gap after gap → Gap after (skipped ++ gap)) :
    Tiles file before (skipped ++ rest) tokens := by
  cases tiles with
  | eof clear =>
      rw [List.append_assoc]
      exact .eof (joins _ _ (List.append_nil _).symm clear)
  | token clear covers follows =>
      rw [← List.append_assoc]
      apply Tiles.token (joins _ _ rfl clear)
      · rwa [← List.append_assoc]
      · rwa [← List.append_assoc]

/-- A round puts what it takes from the text in front of every tiling of what is left. -/
theorem of_round {emitted : List Token} (placed : cursor.position = behind file before)
    (passed : cursor.round = .passed emitted after) :
    ∃ lexeme, after.position = behind file (before ++ lexeme) ∧
      ∀ tokens, Tiles file (before ++ lexeme) after.rest tokens →
        Tiles file before cursor.rest (emitted ++ tokens) := by
  unfold Cursor.round at passed
  split at passed
  · split at passed <;> contradiction
  · rename_i rule count found
    have taken := Rule.pos_of_first? found
    obtain ⟨known, applies⟩ := Rule.ok_of_first? found
    have arrived : (cursor.advance count).position =
        behind file (before ++ cursor.rest.take count) := by
      rw [Cursor.advance, placed, Position.advance_behind]
    refine ⟨cursor.rest.take count, ?_, ?_⟩
    · split at passed <;> cases passed
      · exact arrived
      · exact arrived
    · intro tokens tiles
      rw [← List.take_append_drop count cursor.rest]
      split at passed <;> cases passed
      · rename_i skips
        apply skip tiles
        intro gap after split clear
        exact Rule.gap_of_skip applies skips split clear
      · rename_i kind value makes
        obtain ⟨unended, spelled⟩ := Rule.spells_of_token known applies makes
          cursor.position (cursor.advance count).position
        have nonempty : cursor.rest.take count ≠ [] := by
          intro empty
          rcases List.take_eq_nil_iff.mp empty with zero | ended
          · omega
          · simp [ended, Rule.first?_nil] at found
        apply Tiles.token (Gap.nil : Gap _ [])
        · rw [List.append_nil]
          exact ⟨nonempty, unended, spelled, placed, arrived⟩
        · rwa [List.append_nil]

theorem of_finished (placed : cursor.position = behind file before)
    (finished : cursor.round = .finished (.ok tokens)) : Tiles file before cursor.rest tokens := by
  unfold Cursor.round at finished
  split at finished
  · split at finished <;> cases finished
    rename_i ended
    rw [ended, placed]
    have tiles : Tiles file before [] [Token.eofAt (behind file (before ++ []))] := .eof .nil
    rwa [List.append_nil] at tiles
  · split at finished <;> cases finished

theorem of_tokensWithin {rounds : Nat} (placed : cursor.position = behind file before)
    (found : tokensWithin rounds cursor = some (.ok tokens)) :
    Tiles file before cursor.rest tokens := by
  induction rounds generalizing cursor before tokens with
  | zero =>
      rw [tokensWithin] at found
      cases went : cursor.round with
      | finished result =>
          simp only [went, Option.some.injEq] at found
          exact of_finished placed (found ▸ went)
      | passed emitted after => simp [went] at found
  | succ rounds ih =>
      rw [tokensWithin] at found
      cases went : cursor.round with
      | finished result =>
          simp only [went, Option.some.injEq] at found
          exact of_finished placed (found ▸ went)
      | passed emitted after =>
          simp only [went, Option.map_eq_some_iff] at found
          obtain ⟨result, foundRest, joined⟩ := found
          obtain ⟨lexeme, arrived, precedes⟩ := of_round placed went
          cases result with
          | error diagnostic => contradiction
          | ok others =>
              cases joined
              exact precedes others (ih arrived foundRest)

theorem offset_le {token : Token} (tiles : Tiles file before rest tokens)
    (short : (String.ofList (before ++ rest)).utf8ByteSize < UInt32.size) (mem : token ∈ tokens) :
    (behind file before).offset ≤ token.start.offset := by
  induction tiles with
  | @eof before gap clear =>
      rw [List.mem_singleton] at mem
      rw [mem]
      exact Position.offset_behind_le file short
  | @token before gap lexeme rest first tokens clear covers follows ih =>
      have whole : before ++ (gap ++ (lexeme ++ rest)) = before ++ gap ++ lexeme ++ rest := by simp
      rw [whole] at short
      have sum := Position.utf8ByteSize_append (before ++ gap ++ lexeme) rest
      have sumGap := Position.utf8ByteSize_append (before ++ gap) lexeme
      rcases List.mem_cons.mp mem with rfl | later
      · rw [covers.start_eq]
        exact Position.offset_behind_le file (by omega)
      · apply UInt32.le_trans _ (ih short later)
        rw [List.append_assoc before gap lexeme] at short sum ⊢
        exact Position.offset_behind_le file (by omega)

/-- Every token begins behind the end of all tokens in front of it. -/
theorem pairwise (tiles : Tiles file before rest tokens)
    (short : (String.ofList (before ++ rest)).utf8ByteSize < UInt32.size) :
    tokens.Pairwise fun earlier later => earlier.stop.offset ≤ later.start.offset := by
  induction tiles with
  | eof clear => exact List.pairwise_singleton ..
  | @token before gap lexeme rest first tokens clear covers follows ih =>
      have whole : before ++ (gap ++ (lexeme ++ rest)) = before ++ gap ++ lexeme ++ rest := by simp
      rw [whole] at short
      apply List.Pairwise.cons _ (ih short)
      intro later mem
      rw [covers.stop_eq]
      exact follows.offset_le short mem

/-- The mark for the end stands behind the whole text, and every other token covers a part of
it. -/
theorem covers (tiles : Tiles file before rest tokens) :
    ∃ others, tokens = others ++ [Token.eofAt (behind file (before ++ rest))] ∧
      ∀ token ∈ others, ∃ earlier lexeme later,
        before ++ rest = earlier ++ (lexeme ++ later) ∧ token.Covers file earlier lexeme := by
  induction tiles with
  | eof clear => exact ⟨[], by simp⟩
  | @token before gap lexeme rest first tokens clear covers follows ih =>
      obtain ⟨others, ends, placed⟩ := ih
      have whole : before ++ gap ++ lexeme ++ rest = before ++ (gap ++ (lexeme ++ rest)) := by simp
      rw [whole] at ends placed
      refine ⟨first :: others, congrArg (first :: ·) ends, ?_⟩
      intro token mem
      rcases List.mem_cons.mp mem with rfl | later
      · exact ⟨before ++ gap, lexeme, rest, by simp, covers⟩
      · exact placed token later

end Tiles

/-- The scanner ends on every text, after at most one round more than the text has characters, and
the tokens that it finds tile the text: the mark for the end stands behind the whole text, and every
other token covers a part of it. Where 32 bits count the bytes of the text, the offsets are in this
order: a token starts in front of its end, and none before the one in front of it has ended. Where
they also count one more, which a line or a column may need, no position has lost a bit. -/
theorem tokens_tile_source (source file : String) :
    tokensWithin source.length (Cursor.ofText source file) = some (tokenize source file) ∧
      ∀ tokens, tokenize source file = .ok tokens →
        Tiles file [] source.toList tokens ∧
          (∃ others, tokens = others ++ [Token.eofAt (behind file source.toList)] ∧
            ∀ token ∈ others, ∃ before lexeme after,
              source.toList = before ++ (lexeme ++ after) ∧ token.Covers file before lexeme ∧
              (source.utf8ByteSize < UInt32.size → token.start.offset < token.stop.offset) ∧
              (source.utf8ByteSize + 1 < UInt32.size →
                token.start.Counts before ∧ token.stop.Counts (before ++ lexeme))) ∧
          (source.utf8ByteSize < UInt32.size →
            tokens.Pairwise fun earlier later => earlier.stop.offset ≤ later.start.offset) := by
  have bounded : tokensWithin source.length (Cursor.ofText source file) =
      some (tokenize source file) := tokensWithin_eq (Nat.le_of_eq String.length_toList)
  refine ⟨bounded, ?_⟩
  intro tokens found
  rw [found] at bounded
  have tiles : Tiles file [] source.toList tokens :=
    Tiles.of_tokensWithin rfl bounded
  obtain ⟨others, ends, placed⟩ := tiles.covers
  refine ⟨tiles, ⟨others, ends, ?_⟩, ?_⟩
  · intro token mem
    obtain ⟨before, lexeme, after, whole, covers⟩ := placed token mem
    have sum := Position.utf8ByteSize_append (before ++ lexeme) after
    have sumToken := Position.utf8ByteSize_append before lexeme
    rw [List.append_assoc, ← whole, List.nil_append, String.ofList_toList] at sum
    refine ⟨before, lexeme, after, whole, covers, fun short => covers.offset_lt (by omega), ?_⟩
    intro short
    rw [covers.start_eq, covers.stop_eq]
    exact ⟨Position.counts_behind file (by omega), Position.counts_behind file (by omega)⟩
  · intro short
    apply tiles.pairwise
    rwa [List.nil_append, String.ofList_toList]

/-- A string literal and a comment that hold newlines and characters of two bytes. -/
def threeLines : String := "x = 'ü\n'; /* ü\n */ -1 // y"

def threeLinesTokens : List Token :=
  let place (offset line column : Nat) : Position := { offset, line, column, file := "a" }
  [{ kind := .identifier, value := "x", start := place 0 1 1, stop := place 1 1 2 },
   { kind := .assignment, value := "=", start := place 2 1 3, stop := place 3 1 4 },
   { kind := .stringLiteral, value := "ü\n", start := place 4 1 5, stop := place 9 2 2 },
   { kind := .semicolon, value := ";", start := place 9 2 2, stop := place 10 2 3 },
   { kind := .dash, value := "-", start := place 21 3 5, stop := place 22 3 6 },
   { kind := .integerLiteral, value := "1", start := place 22 3 6, stop := place 23 3 7 },
   Token.eofAt (place 28 3 12)]

theorem threeLines_tiled :
    tokenize threeLines "a" = .ok threeLinesTokens ∧
      Tiles "a" [] threeLines.toList threeLinesTokens ∧
      threeLinesTokens.Pairwise fun earlier later => earlier.stop.offset ≤ later.start.offset := by
  obtain ⟨bounded, tiled⟩ := tokens_tile_source threeLines "a"
  have found : tokenize threeLines "a" = .ok threeLinesTokens := by
    apply Option.some.inj
    rw [← bounded]
    rfl
  obtain ⟨tiles, -, apart⟩ := tiled threeLinesTokens found
  exact ⟨found, tiles, apart (by decide)⟩

end ScriptCheck
