import ScriptCheck.Proofs.Grammar.Cursor
import ScriptCheck.Proofs.Grammar.DeclarationIds

/-!
# The first end token

An end token in the middle of a list of tokens ends the program there. What comes behind it is never
read and decides about nothing: the program or the error that is found, the token where the parser
stops and the number of the next declaration are those of the list up to the end token.

The cursor is only kept in front of the last token of the list, and so it is the grammar that stops
it at the first end token, which no form passes.
-/

namespace ScriptCheck

open ParserState (Prolongs)

/-- A list that goes on behind the end of another one prolongs the state in front of it. -/
theorem exists_prolongs {first second : ParserState} {more : List Token}
    (longer : second.upcoming ++ [second.final] = first.upcoming ++ first.final :: more)
    (nextId : second.nextId = first.nextId) (file : second.file = first.file) :
    ∃ behind, Prolongs behind first second := by
  rcases List.eq_nil_or_concat' more with rfl | ⟨others, last, rfl⟩
  · rcases List.append_inj' longer rfl with ⟨upcoming, final⟩
    exact ⟨[], upcoming.trans (List.append_nil _).symm, (List.cons.inj final).1, nextId, file⟩
  · rw [← List.cons_append, ← List.append_assoc] at longer
    rcases List.append_inj' longer rfl with ⟨upcoming, _⟩
    exact ⟨first.final :: others, upcoming, rfl, nextId, file⟩

theorem ParserState.ofTokens_file (tokens : List Token) (file : String) :
    (ofTokens tokens file).file = file := by
  unfold ofTokens
  split
  · rfl
  · split <;> rfl

theorem prefix_withEnd (tokens : List Token) (file : String) : tokens <+: withEnd tokens file := by
  unfold withEnd
  split
  · rename_i none
    rw [List.getLast?_eq_none_iff.mp none]
    exact List.nil_prefix
  · split
    · exact List.prefix_rfl
    · exact List.prefix_append _ _

/-- Two runs end in front of the same token of lists that share their front. -/
structure ParserState.StopsWith (front tokens others : List Token) (first second : ParserState) :
    Prop where
  place : ∃ index ≤ front.length, first.StandsAt tokens index ∧ second.StandsAt others index
  current : second.current = first.current
  nextId : second.nextId = first.nextId

theorem ParserState.Prolongs.stopsWith {behind tokens others : List Token}
    {first second after later : ParserState} (prolongs : Prolongs behind first second)
    (stands : first.StandsAt tokens 0) (standsAgain : second.StandsAt others 0)
    (last : Prolongs behind after later) (passed : after.Behind first)
    (passedAgain : later.Behind second) :
    after.StopsWith first.upcoming tokens others later := by
  have count : second.remaining - later.remaining = first.remaining - after.remaining := by
    simp only [ParserState.remaining, prolongs.upcoming, last.upcoming, List.length_append,
      Nat.add_sub_add_right]
  refine ⟨⟨0 + (first.remaining - after.remaining), ?_, stands.behind passed, ?_⟩, last.current,
    last.nextId⟩
  · rw [Nat.zero_add]
    exact Nat.sub_le _ _
  · rw [← count]
    exact standsAgain.behind passedAgain

/-- No token behind an end token is read. -/
theorem tokens_behind_end_unread (front behind : List Token) {wall : Token}
    (ends : wall.kind = .eof) (file : String) :
    let tokens := withEnd (front ++ [wall]) file
    let others := withEnd (front ++ wall :: behind) file
    match Parser.parse (front ++ [wall]) file, Parser.parse (front ++ wall :: behind) file with
    | .ok program after, .ok other later =>
      other = program ∧ after.StopsWith front tokens others later
    | .error diagnostic after, .error other later =>
      other = diagnostic ∧ after.StopsWith front tokens others later
    | _, _ => False := by
  intro tokens others
  let first := ParserState.ofTokens (front ++ [wall]) file
  let second := ParserState.ofTokens (front ++ wall :: behind) file
  have stands : first.StandsAt tokens 0 := ParserState.standsAt_ofTokens _ _
  have standsAgain : second.StandsAt others 0 := ParserState.standsAt_ofTokens _ _
  have closed : tokens = front ++ [wall] := by simp [tokens, withEnd, ends]
  rcases List.append_inj' (stands.symm.trans closed) rfl with ⟨upcoming, final⟩
  rcases prefix_withEnd (front ++ wall :: behind) file with ⟨more, longer⟩
  have goesOn : second.upcoming ++ [second.final] =
      first.upcoming ++ first.final :: (behind ++ more) := by
    rw [upcoming, (List.cons.inj final).1, ← List.cons_append, ← List.append_assoc, longer]
    exact standsAgain.symm
  have numbered : second.nextId = first.nextId := by
    rw [ParserState.ofTokens_nextId, ParserState.ofTokens_nextId]
  have placed : second.file = first.file := by
    rw [ParserState.ofTokens_file, ParserState.ofTokens_file]
  rcases exists_prolongs goesOn numbered placed with ⟨unread, prolongs⟩
  have tracks : Parser.Tracks unread (first.remaining + 1) Parser.anywhere false
      Parser.parseProgram Parser.parseProgram := Parser.tracks_parseProgram
  have alike : Parser.Alike unread false first second (Parser.parse (front ++ [wall]) file)
      (Parser.parse (front ++ wall :: behind) file) :=
    tracks first second prolongs (Nat.lt_succ_self _) trivial
  generalize Parser.parse (front ++ [wall]) file = ran at alike ⊢
  generalize Parser.parse (front ++ wall :: behind) file = ranAgain at alike ⊢
  rw [← upcoming]
  cases alike with
  | ok last passed passedAgain =>
      exact ⟨rfl, prolongs.stopsWith stands standsAgain last passed passedAgain⟩
  | error last passed passedAgain =>
      exact ⟨rfl, prolongs.stopsWith stands standsAgain last passed passedAgain⟩

/-- A name in front of the end declares nothing, though another name comes behind the end. -/
theorem name_in_front_of_end :
    let wall := placeless .eof "EOF"
    let behind := [placeless .identifier "x", placeless .assignment "="]
    wall.kind = .eof ∧
      ∃ later, Parser.parse (placeless .identifier "a" :: wall :: behind) "shell" =
          .error { cause := .grammar (.expectedToken "Semicolon" "EOF")
                   position := Position.unknown } later ∧
        later.current = wall ∧ later.nextId = ParserState.firstId := by
  intro wall behind
  have alone : Parser.parse [placeless .identifier "a", wall] "shell" =
      .error { cause := .grammar (.expectedToken "Semicolon" "EOF")
               position := Position.unknown }
        { upcoming := [], final := wall, nextId := ParserState.firstId, file := "shell"
          final_kind := rfl } := by cbv
  have alike := tokens_behind_end_unread [placeless .identifier "a"] behind
    (rfl : wall.kind = .eof) "shell"
  simp only [List.cons_append, List.nil_append, alone] at alike
  cases ran : Parser.parse (placeless .identifier "a" :: wall :: behind) "shell" with
  | ok program later =>
      rw [ran] at alike
      exact alike.elim
  | error diagnostic later =>
      rw [ran] at alike
      rcases alike with ⟨rfl, stops⟩
      exact ⟨rfl, later, rfl, stops.current, stops.nextId⟩

end ScriptCheck
