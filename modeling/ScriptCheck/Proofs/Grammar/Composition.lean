import ScriptCheck.Proofs.Grammar.DeclarationIds
import ScriptCheck.Proofs.Grammar.FollowedForms

/-!
# Programs that are written one behind another

A list of tokens that is read as a program can be put in front of another one. The statements of
both are then read in turn, and the declarations of the second list are numbered behind those of the
first. An error in the second list is the error that it has on its own.

The second list must not start with `else`, which would go on with a conditional at the end of the
first one.
-/

namespace ScriptCheck

/-- No token of the list is an end token. -/
def Unclosed (tokens : List Token) : Prop :=
  ∀ token ∈ tokens, token.kind ≠ .eof

instance (tokens : List Token) : Decidable (Unclosed tokens) :=
  inferInstanceAs (Decidable (∀ token ∈ tokens, token.kind ≠ .eof))

theorem Unclosed.of_suffix {tokens rest : List Token} (unclosed : Unclosed tokens)
    (suffix : rest <:+ tokens) : Unclosed rest :=
  fun token member => unclosed token (suffix.subset member)

theorem Unclosed.ahead_eq_eof {tokens : List Token} (unclosed : Unclosed tokens) :
    Kind.ahead tokens = .eof ↔ tokens = [] := by
  cases tokens with
  | nil => exact ⟨fun _ => rfl, fun _ => rfl⟩
  | cons token rest =>
      exact ⟨fun ended => absurd ended (unclosed token List.mem_cons_self), nofun⟩

namespace ParserState

theorem ofTokens_upcoming {tokens : List Token} (unclosed : Unclosed tokens) (file : String) :
    (ofTokens tokens file).upcoming = tokens := by
  unfold ofTokens
  split
  · rename_i none
    exact (List.getLast?_eq_none_iff.mp none).symm
  · rename_i last found
    rw [dif_neg (unclosed last (List.mem_of_getLast? found))]

/-- The end is where the last token ends. -/
theorem ofTokens_final {tokens : List Token} (unclosed : Unclosed tokens) {last : Token}
    (found : tokens.getLast? = some last) (file : String) :
    (ofTokens tokens file).final = Token.eofAt last.stop := by
  unfold ofTokens
  split
  · rename_i none
    rw [found] at none
    contradiction
  · rename_i other same
    rw [found, Option.some.injEq] at same
    subst same
    rw [dif_neg (unclosed _ (List.mem_of_getLast? found))]

/-- The end of two lists is the end of the second one. -/
theorem ofTokens_append_final {front behind : List Token} (unclosed : Unclosed (front ++ behind))
    (some : behind ≠ []) (file : String) :
    (ofTokens (front ++ behind) file).final = (ofTokens behind file).final := by
  have unclosedBehind : Unclosed behind := (List.forall_mem_append.mp unclosed).2
  have found := List.getLast?_eq_some_getLast some
  rw [ofTokens_final unclosedBehind found]
  exact ofTokens_final unclosed ((List.getLast?_append_of_ne_nil front some).trans found) file

end ParserState

namespace Parser

variable {α : Type} {again : Kind → Bool} {item : Parser α} {state : ParserState}

theorem collectWhile_stop (stops : again (Kind.ahead state.upcoming) = false) :
    collectWhile again item state = .ok [] state := by
  have unfolded : collectWhile again item state =
      collectUpTo again item (state.remaining + 1) state := rfl
  rw [unfolded, collectUpTo, bind_of_ok (kind_apply state), stops]
  rfl

/-- A loop of items that pass tokens is its first round and the loop again. -/
theorem collectWhile_again
    (strict : ∀ state value after, again (Kind.ahead state.upcoming) = true →
      item state = .ok value after → after.remaining < state.remaining)
    (goesOn : again (Kind.ahead state.upcoming) = true) :
    collectWhile again item state = (item >>= fun first =>
      collectWhile again item >>= fun rest => pure (first :: rest)) state := by
  have unfolded : collectWhile again item state =
      collectUpTo again item (state.remaining + 1) state := rfl
  rw [unfolded, collectUpTo, bind_of_ok (kind_apply state), goesOn, if_pos rfl, bind_apply,
    bind_apply]
  cases ran : item state with
  | error diagnostic after => rfl
  | ok value after =>
      have fewer := strict state value after goesOn ran
      have same : collectUpTo again item state.remaining after = collectWhile again item after :=
        collectUpTo_eq strict fewer (Nat.lt_succ_self _)
      simp only [bind_apply, same]

/-- The statements up to the end of the text. -/
abbrev statements : Parser (List Stmt) :=
  collectWhile (· != .eof) parseStmt

/-- A statement passes tokens, whatever comes behind it. -/
theorem parseStmt_passes {state after : ParserState} {stmt : Stmt}
    (ran : parseStmt state = .ok stmt after) :
    after.Behind state ∧ after.remaining < state.remaining := by
  have follows : Follows ⟨[], 0, nofun⟩ anywhere true true _ parseStmt parseStmt :=
    follows_parseStmt
  exact (follows.passes trivial ran).imp id fun passed => passed rfl

theorem statements_of_nil (none : state.upcoming = []) : statements state = .ok [] state :=
  collectWhile_stop (by rw [none]; rfl)

/-- The statements of a list that is not empty are the first one and those behind it. -/
theorem statements_of_ne_nil (unclosed : Unclosed state.upcoming) (some : state.upcoming ≠ []) :
    statements state = (parseStmt >>= fun stmt =>
      statements >>= fun rest => pure (stmt :: rest)) state :=
  collectWhile_again (fun _ _ _ _ ran => (parseStmt_passes ran).2)
    (bne_iff_ne.mpr fun ended => some (unclosed.ahead_eq_eof.mp ended))

/-- All statements of a list are read in the same way where more tokens come behind the list. The
loop then goes on with those. -/
theorem statements_append (sequel : Sequel) (unshifted : sequel.shift = 0)
    (more : Unclosed sequel.tokens) {stmts : List Stmt} :
    ∀ {first second after : ParserState}, Unclosed first.upcoming → sequel.Extends first second →
      statements first = .ok stmts after →
        ∃ later, sequel.Extends after later ∧ after.upcoming = [] ∧ later.final = second.final ∧
          statements second = (statements >>= fun rest => pure (stmts ++ rest)) later := by
  -- Only the first list says when its statements end, so the induction is on what they are.
  induction stmts with
  | nil =>
      intro first second after unclosed related ran
      by_cases none : first.upcoming = []
      · rw [statements_of_nil none, EStateM.Result.ok.injEq] at ran
        rcases ran with ⟨_, rfl⟩
        refine ⟨second, related, none, rfl, ?_⟩
        simp only [List.nil_append, bind_pure]
      · rw [statements_of_ne_nil unclosed none] at ran
        rcases ok_of_bind_eq_ok ran with ⟨stmt, between, _, ran⟩
        rcases ok_of_bind_eq_ok ran with ⟨rest, last, _, ran⟩
        rcases EStateM.Result.ok.inj ran with ⟨impossible, _⟩
        contradiction
  | cons stmt stmts ih =>
      intro first second after unclosed related ran
      by_cases none : first.upcoming = []
      · rw [statements_of_nil none, EStateM.Result.ok.injEq] at ran
        exact absurd ran.1 (List.cons_ne_nil _ _).symm
      · rw [statements_of_ne_nil unclosed none] at ran
        rcases ok_of_bind_eq_ok ran with ⟨found, between, ranStmt, ran⟩
        rcases ok_of_bind_eq_ok ran with ⟨rest, last, ranRest, ran⟩
        rcases EStateM.Result.ok.inj ran with ⟨same, rfl⟩
        rcases List.cons.inj same with ⟨rfl, rfl⟩
        rcases follows_parseStmt.of_ok related trivial ranStmt with ⟨behind, _, goesOn⟩
        rcases goesOn (.inr (.inl rfl)) with ⟨middle, ranAgain, relatedNext⟩
        rw [unshifted, Stmt.shifted_zero] at ranAgain
        rcases ih (unclosed.of_suffix behind.suffix) relatedNext ranRest with
          ⟨later, relatedLast, ended, final, goesOn⟩
        refine ⟨later, relatedLast, ended, final.trans (parseStmt_passes ranAgain).1.final, ?_⟩
        have unclosedBoth : Unclosed second.upcoming := by
          rw [related.upcoming]
          exact List.forall_mem_append.mpr ⟨unclosed, more⟩
        have some : second.upcoming ≠ [] := by
          rw [related.upcoming]
          exact List.append_ne_nil_of_left_ne_nil none _
        rw [statements_of_ne_nil unclosedBoth some, bind_of_ok ranAgain]
        simp only [bind_apply, goesOn]
        cases statements later with
        | error diagnostic last => rfl
        | ok rest last => rfl

/-- The statements of a list are numbered further where the counter is ahead. -/
theorem statements_shifted {first second : ParserState} (shift : Nat)
    (upcoming : second.upcoming = first.upcoming) (nextId : second.nextId = first.nextId + shift)
    (final : second.final = first.final) :
    match statements first with
    | .ok stmts after => ∃ later, statements second = .ok (shiftedBody shift stmts) later ∧
        later.nextId = after.nextId + shift
    | .error diagnostic _ => ∃ later, statements second = .error diagnostic later := by
  let sequel : Sequel := ⟨[], shift, nofun⟩
  have related : sequel.Extends first second :=
    ⟨upcoming.trans (List.append_nil _).symm, nextId, fun _ => final⟩
  have follows : Follows sequel anywhere false false (List.map (Stmt.shifted shift)) statements
      statements := follows_collectWhile follows_parseStmt.open.from
  cases ran : statements first with
  | error diagnostic after => exact follows.of_error related trivial ran rfl
  | ok stmts after =>
      rcases (follows.of_ok related trivial ran).2.2 (.inl rfl) with ⟨later, ranAgain, relatedLast⟩
      refine ⟨later, ?_, relatedLast.nextId⟩
      rw [shiftedBody_eq]
      exact ranAgain

theorem parse_apply (tokens : List Token) (file : String) : parse tokens file =
    (statements >>= fun body => pure { body }) (ParserState.ofTokens tokens file) := rfl

theorem parse_eq_ok {tokens : List Token} {file : String} {program : Program}
    {after : ParserState} : parse tokens file = .ok program after ↔
      statements (ParserState.ofTokens tokens file) = .ok program.body after := by
  rw [parse_apply, bind_apply]
  cases statements (ParserState.ofTokens tokens file) with
  | error diagnostic last => exact ⟨nofun, nofun⟩
  | ok body last =>
      constructor
      · intro same
        rcases EStateM.Result.ok.inj same with ⟨rfl, rfl⟩
        rfl
      · intro same
        rcases EStateM.Result.ok.inj same with ⟨rfl, rfl⟩
        rfl

theorem parse_eq_error {tokens : List Token} {file : String} {diagnostic : Diagnostic}
    {after : ParserState} : parse tokens file = .error diagnostic after ↔
      statements (ParserState.ofTokens tokens file) = .error diagnostic after := by
  rw [parse_apply, bind_apply]
  cases statements (ParserState.ofTokens tokens file) with
  | error other last =>
      constructor
      · intro same
        rcases EStateM.Result.error.inj same with ⟨rfl, rfl⟩
        rfl
      · intro same
        rcases EStateM.Result.error.inj same with ⟨rfl, rfl⟩
        rfl
  | ok body last => exact ⟨nofun, nofun⟩

end Parser

/-- A list of tokens that comes behind the tokens of a program is read as on its own, with the
declarations numbered behind those of the program. -/
theorem parse_append {front behind : List Token} {file : String} {program : Program}
    {after : ParserState} (unclosed : Unclosed (front ++ behind)) (some : behind ≠ [])
    (noElse : Kind.ahead behind ≠ .elseWord)
    (parsed : Parser.parse front file = .ok program after) :
    match Parser.parse behind file with
    | .ok rest last => ∃ final,
        Parser.parse (front ++ behind) file = .ok
          ⟨program.body ++ (rest.shifted (after.nextId - ParserState.firstId)).body⟩ final ∧
        final.nextId = last.nextId + (after.nextId - ParserState.firstId)
    | .error diagnostic _ => ∃ final,
        Parser.parse (front ++ behind) file = .error diagnostic final := by
  have unclosedEach := List.forall_mem_append.mp unclosed
  have counted : ParserState.firstId ≤ after.nextId := (Parser.spans_of_parse parsed).le
  let sequel : Sequel := ⟨behind, 0, noElse⟩
  have related : sequel.Extends (ParserState.ofTokens front file)
      (ParserState.ofTokens (front ++ behind) file) := by
    refine ⟨?_, ?_, fun none => absurd none some⟩
    · rw [ParserState.ofTokens_upcoming unclosed, ParserState.ofTokens_upcoming unclosedEach.1]
    · rw [ParserState.ofTokens_nextId, ParserState.ofTokens_nextId]
      rfl
  have frontUnclosed : Unclosed (ParserState.ofTokens front file).upcoming := by
    rw [ParserState.ofTokens_upcoming unclosedEach.1]
    exact unclosedEach.1
  rcases Parser.statements_append sequel rfl unclosedEach.2 frontUnclosed related
    (Parser.parse_eq_ok.mp parsed) with ⟨between, relatedLast, ended, final, goesOn⟩
  have numbered : between.nextId = (ParserState.ofTokens behind file).nextId +
      (after.nextId - ParserState.firstId) := by
    rw [relatedLast.nextId, ParserState.ofTokens_nextId, Nat.add_sub_cancel' counted]
    rfl
  have upcoming : between.upcoming = (ParserState.ofTokens behind file).upcoming := by
    rw [relatedLast.upcoming, ended, ParserState.ofTokens_upcoming unclosedEach.2]
    rfl
  have shifted := Parser.statements_shifted _ upcoming numbered
    (final.trans (ParserState.ofTokens_append_final unclosed some file))
  cases alone : Parser.parse behind file with
  | error diagnostic last =>
      rw [Parser.parse_eq_error.mp alone] at shifted
      rcases shifted with ⟨last, failed⟩
      refine ⟨last, Parser.parse_eq_error.mpr ?_⟩
      rw [goesOn]
      exact bind_of_error failed _
  | ok rest last =>
      rw [Parser.parse_eq_ok.mp alone] at shifted
      rcases shifted with ⟨last, ran, nextId⟩
      refine ⟨last, Parser.parse_eq_ok.mpr ?_, nextId⟩
      rw [goesOn]
      exact bind_of_ok ran _

/-- A conditional without an alternative, with a declaration inside. -/
def guardedTokens : List Token :=
  [placeless .ifWord "if", placeless .openParen "(", placeless .identifier "c",
    placeless .closeParen ")", placeless .openCurly "\x7b",
    placeless .intWord "int", placeless .identifier "x", placeless .assignment "=",
    placeless .integerLiteral "1", placeless .semicolon ";", placeless .closeCurly "\x7d"]

def guarded : Stmt :=
  .ifElse Position.unknown (.identifier "c") ⟨Position.unknown,
    [.varDecl Position.unknown 1024 "x" .int (.integer 1)]⟩ none

def declarationTokens : List Token :=
  [placeless .intWord "int", placeless .identifier "y", placeless .assignment "=",
    placeless .integerLiteral "2", placeless .semicolon ";"]

theorem declaration_behind_guarded :
    Unclosed (guardedTokens ++ declarationTokens) ∧ declarationTokens ≠ [] ∧
      Kind.ahead declarationTokens ≠ .elseWord ∧
      Parser.parse guardedTokens "shell" = .ok ⟨[guarded]⟩ (placelessEnd 1025) ∧
      ∃ final, Parser.parse (guardedTokens ++ declarationTokens) "shell" = .ok
        ⟨[guarded, .varDecl Position.unknown 1025 "y" .int (.integer 2)]⟩ final ∧
        final.nextId = 1026 := by
  have unclosed : Unclosed (guardedTokens ++ declarationTokens) := by decide
  have parsed : Parser.parse guardedTokens "shell" = .ok ⟨[guarded]⟩ (placelessEnd 1025) := by cbv
  have alone : Parser.parse declarationTokens "shell" = .ok
      ⟨[.varDecl Position.unknown 1024 "y" .int (.integer 2)]⟩ (placelessEnd 1025) := by cbv
  have appended := parse_append unclosed (List.cons_ne_nil _ _) (by decide) parsed
  rw [alone] at appended
  exact ⟨unclosed, List.cons_ne_nil _ _, by decide, parsed, appended⟩

end ScriptCheck
