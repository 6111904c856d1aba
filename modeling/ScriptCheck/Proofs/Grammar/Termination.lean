import ScriptCheck.Proofs.Grammar.Cursor

/-!
# The parser comes to an end

Every form calls for what stands inside of it only where fewer tokens are left, or as many where a
statement starts with an expression. So the depth up to which the parsers are nested is never
reached, and what they would do with longer lists does not matter.

Every round of a loop passes a token, and every round of the look ahead moves on by a token or has
found an answer. So no loop needs more rounds than there are tokens left, and one more to end.
-/

namespace ScriptCheck.Parser

variable {α : Type} {limit depth : Nat} {starts : Kind → Prop} {strict : Bool}

/-! ### Recursion -/

section Recursion

variable {parser again other : Parser α}

/-- On the lists that count, one parser may be put for another. -/
theorem Tracks.replace (tracks : Tracks [] limit starts strict parser again)
    (same : ∀ state, state.remaining < limit → other state = again state) :
    Tracks [] limit starts strict parser other := by
  intro first second prolongs few start
  have alike := tracks first second prolongs few start
  rw [prolongs.eq_of_nil] at alike ⊢
  rw [same first few]
  exact alike

/-- Types inside are read as they are for a whole text, where fewer tokens are left than the bound.
Elsewhere the parser may do anything. -/
def AgreesType (bound : Nat) (inside : Parser Ty) : Prop :=
  ∀ state, state.remaining < bound → inside state = parseType .lowest state

theorem agreesType_nested : AgreesType (depth + 1) (nestedType depth) := by
  intro state few
  have whole : parseType .lowest state = nestedType (state.remaining + 1) state := rfl
  have deep : TracksType [] (state.remaining + 1) (nestedType state.remaining)
      (nestedType depth) := tracks_nestedType (Nat.le_of_lt_succ few)
  have deeper : TracksType [] (state.remaining + 1) (nestedType state.remaining)
      (nestedType (state.remaining + 1)) := tracks_nestedType (Nat.le_succ _)
  rw [whole, deep.eq (Nat.lt_succ_self _) trivial, deeper.eq (Nat.lt_succ_self _) trivial]

theorem AgreesType.tracks {inside : Parser Ty} (agrees : AgreesType limit inside)
    (enough : limit ≤ depth + 1) : TracksType [] limit (nestedType depth) inside := by
  have deep : TracksType [] limit (nestedType depth) (nestedType depth) :=
    (tracks_nestedType (Nat.le_refl _)).mono enough
  refine deep.replace fun state few => ?_
  rw [agrees state few, agreesType_nested state (Nat.lt_of_lt_of_le few enough)]

/-- A type calls for types inside where fewer tokens are left. -/
theorem AgreesType.typeForm_eq {inside : Parser Ty} {state : ParserState}
    (agrees : AgreesType state.remaining inside) (power : Power) :
    typeForm inside power state = parseType power state := by
  have formed : TracksType [] (state.remaining + 1) (typeForm (nestedType state.remaining) power)
      (typeForm inside power) := tracks_typeForm (agrees.tracks (Nat.le_succ _)) power
  exact formed.eq (Nat.lt_succ_self _) trivial

/-- Forms that types stand in read them as they are for a whole text. -/
theorem AgreesType.form_eq {inside : Parser Ty} {state : ParserState}
    (agrees : AgreesType (state.remaining + 1) inside) {form : Parser Ty → Parser α}
    (tracks : ∀ {limit inside insideAgain}, TracksType [] limit inside insideAgain →
      Tracks [] limit anywhere strict (form inside) (form insideAgain)) :
    form inside state = withTypes form state :=
  (tracks (agrees.tracks (Nat.le_refl _))).eq (Nat.lt_succ_self _) trivial

/-- Expressions and statements inside are read as they are for a whole text, where fewer tokens are
left than the bounds. Elsewhere the parsers may do anything. -/
structure Inside.Agrees (exprBound stmtBound : Nat) (inside : Inside) : Prop where
  expr : ∀ power state, state.remaining < exprBound →
    inside.expr power state = parseExpr power state
  stmt : ∀ state, state.remaining < stmtBound → inside.stmt state = parseStmt state

theorem agrees_nested : (nested depth).Agrees (depth + 1) depth := by
  refine ⟨fun power state few => ?_, fun state few => ?_⟩
  · have whole : parseExpr power state = (nested (state.remaining + 1)).expr power state := rfl
    have deep : TracksInside [] (state.remaining + 1) (nested state.remaining) (nested depth) :=
      tracksInside_nested (Nat.le_of_lt_succ few)
    have deeper : TracksInside [] (state.remaining + 1) (nested state.remaining)
        (nested (state.remaining + 1)) := tracksInside_nested (Nat.le_succ _)
    rw [whole, (deep.expr power).eq (Nat.lt_succ_self _) trivial,
      (deeper.expr power).eq (Nat.lt_succ_self _) trivial]
  · have whole : parseStmt state = (nested (state.remaining + 1)).stmt state := rfl
    have deep : TracksInside [] (state.remaining + 2) (nested (state.remaining + 1))
        (nested depth) := tracksInside_nested few
    rw [whole, deep.stmt.eq (Nat.lt_succ_self _) trivial]

theorem Inside.Agrees.tracks {inside : Inside} (agrees : inside.Agrees limit (limit - 1))
    (enough : limit ≤ depth + 1) : TracksInside [] limit (nested depth) inside := by
  have deep : TracksInside [] (depth + 1) (nested depth) (nested depth) :=
    tracksInside_nested (Nat.le_refl _)
  refine ⟨fun power => ((deep.expr power).mono enough).replace fun state few => ?_,
    (deep.stmt.mono (Nat.sub_le_sub_right enough 1)).replace fun state few => ?_⟩
  · rw [agrees.expr power state few,
      agrees_nested.expr power state (Nat.lt_of_lt_of_le few enough)]
  · rw [agrees.stmt state few, agrees_nested.stmt state (by omega)]

/-- An expression calls for what stands inside where fewer tokens are left. -/
theorem Inside.Agrees.exprForm_eq {inside : Inside} {state : ParserState}
    (agrees : inside.Agrees state.remaining state.remaining) (power : Power) :
    exprForm inside power state = parseExpr power state := by
  have earlier : inside.Agrees state.remaining (state.remaining - 1) :=
    ⟨agrees.expr, fun other few => agrees.stmt other (Nat.lt_of_lt_of_le few (Nat.sub_le _ _))⟩
  have formed : Tracks [] (state.remaining + 1) anywhere true
      (exprForm (nested state.remaining) power) (exprForm inside power) :=
    tracks_exprForm (earlier.tracks (Nat.le_succ _)) power
  exact formed.eq (Nat.lt_succ_self _) trivial

/-- A statement may start with an expression, and calls for statements where fewer tokens are
left. -/
theorem Inside.Agrees.stmtForm_eq {inside : Inside} {state : ParserState}
    (agrees : inside.Agrees (state.remaining + 1) state.remaining) :
    stmtForm inside state = parseStmt state := by
  have formed : Tracks [] (state.remaining + 1) anywhere true
      (stmtForm (nested state.remaining)) (stmtForm inside) :=
    tracks_stmtForm (agrees.tracks (Nat.le_refl _))
  exact formed.eq (Nat.lt_succ_self _) trivial

/-- What stands inside of a form is read as it is for a whole text. -/
def whole : Inside where
  expr := parseExpr
  stmt := parseStmt

theorem tracksInside_whole : TracksInside [] limit whole whole :=
  ⟨fun power => tracks_parseExpr power, tracks_parseStmt⟩

theorem agrees_whole {exprBound stmtBound : Nat} : whole.Agrees exprBound stmtBound :=
  ⟨fun _ _ _ => rfl, fun _ _ => rfl⟩

/-- The grammar of expressions and statements calls itself. -/
theorem exprForm_whole (power : Power) : exprForm whole power = parseExpr power :=
  funext fun _ => agrees_whole.exprForm_eq power

theorem stmtForm_whole : stmtForm whole = parseStmt :=
  funext fun _ => agrees_whole.stmtForm_eq

end Recursion

/-! ### Loops -/

section Loops

variable {again : Kind → Bool} {step : α → Parser α} {item : Parser α}

/-- A loop that is run for some rounds until it ends or fails. -/
inductive Rounds (again : Kind → Bool) (step : α → Parser α) :
    Nat → α → ParserState → EStateM.Result Diagnostic ParserState α → Prop
  | stop {value : α} {state : ParserState} : again (Kind.ahead state.upcoming) = false →
      Rounds again step 0 value state (.ok value state)
  | fail {value : α} {state after : ParserState} {diagnostic : Diagnostic} :
      again (Kind.ahead state.upcoming) = true → step value state = .error diagnostic after →
      Rounds again step 1 value state (.error diagnostic after)
  | round {rounds : Nat} {value longer : α} {state between : ParserState}
      {result : EStateM.Result Diagnostic ParserState α} :
      again (Kind.ahead state.upcoming) = true → step value state = .ok longer between →
      Rounds again step rounds longer between result →
      Rounds again step (rounds + 1) value state result

/-- The loop ends from everywhere, after as many rounds as tokens are left or one more. -/
def LoopEnds (again : Kind → Bool) (step : α → Parser α) : Prop :=
  ∀ value state, ∃ rounds ≤ state.remaining + 1,
    Rounds again step rounds value state (repeatWhile again step value state)

/-- A round of a loop that collects items. -/
def collecting (item : Parser α) (values : List α) : Parser (List α) :=
  return values ++ [← item]

/-- The loop that collects items ends from everywhere. -/
def ListEnds (again : Kind → Bool) (item : Parser α) : Prop :=
  ∀ state : ParserState, ∃ rounds ≤ state.remaining + 1,
    Rounds again (collecting item) rounds [] state (collectWhile again item state)

theorem loopEnds_of_tracks
    (tracks : ∀ {limit} value, Tracks [] limit (again · = true) true (step value) (step value)) :
    LoopEnds again step := by
  have rounds (bound : Nat) : ∀ value (state : ParserState), state.remaining < bound →
      ∃ rounds ≤ state.remaining + 1,
        Rounds again step rounds value state (repeatUpTo again step bound value state) := by
    induction bound with
    | zero => exact fun _ _ few => absurd few (Nat.not_lt_zero _)
    | succ bound ih =>
        intro value state few
        rw [repeatUpTo, bind_of_ok (kind_apply state)]
        cases goesOn : again (Kind.ahead state.upcoming) with
        | false => exact ⟨0, Nat.zero_le _, .stop goesOn⟩
        | true =>
            have alike := tracks value state state (.refl state) (Nat.lt_succ_self _) goesOn
            rw [if_pos rfl, bind_apply]
            cases ran : step value state with
            | error diagnostic after => exact ⟨1, Nat.le_add_left _ _, .fail goesOn ran⟩
            | ok longer between =>
                rw [ran] at alike
                cases alike with
                | ok _ _ _ passed =>
                    have fewer := passed rfl
                    rcases ih longer between (by omega) with ⟨rounds, within, later⟩
                    exact ⟨rounds + 1, by omega, .round goesOn ran later⟩
  exact fun value state => rounds _ value state (Nat.lt_succ_self _)

theorem Rounds.unique {rounds more : Nat} {value : α} {state : ParserState}
    {first second : EStateM.Result Diagnostic ParserState α}
    (ran : Rounds again step rounds value state first)
    (ranAgain : Rounds again step more value state second) : first = second := by
  induction ran generalizing more with
  | stop ended =>
      cases ranAgain with
      | stop _ => rfl
      | fail goesOn _ => exact nomatch ended.symm.trans goesOn
      | round goesOn _ _ => exact nomatch ended.symm.trans goesOn
  | fail goesOn failed =>
      cases ranAgain with
      | stop ended => exact nomatch goesOn.symm.trans ended
      | fail _ failedAgain => exact failed.symm.trans failedAgain
      | round _ ran _ => exact nomatch failed.symm.trans ran
  | round goesOn ran _ ih =>
      cases ranAgain with
      | stop ended => exact nomatch goesOn.symm.trans ended
      | fail _ failed => exact nomatch ran.symm.trans failed
      | round _ ranAgain later =>
          rcases EStateM.Result.ok.inj (ran.symm.trans ranAgain) with ⟨rfl, rfl⟩
          exact ih later

/-- A loop that ends is a round and the same loop again. -/
theorem LoopEnds.unroll (ends : LoopEnds again step) (value : α) (state : ParserState) :
    repeatWhile again step value state =
      if again (Kind.ahead state.upcoming) = true then
        (step value >>= repeatWhile again step) state
      else .ok value state := by
  obtain ⟨rounds, -, ran⟩ := ends value state
  split
  · rename_i goesOn
    rw [bind_apply]
    cases first : step value state with
    | error diagnostic after => exact ran.unique (.fail goesOn first)
    | ok longer between =>
        obtain ⟨_, -, later⟩ := ends longer between
        exact ran.unique (.round goesOn first later)
  · rename_i ended
    exact ran.unique (.stop (Bool.eq_false_iff.mpr ended))

theorem repeatUpTo_collecting (rounds : Nat) (values : List α) :
    repeatUpTo again (collecting item) rounds values =
      collectUpTo again item rounds >>= fun rest => pure (values ++ rest) := by
  induction rounds generalizing values with
  | zero =>
      rw [repeatUpTo, collectUpTo, pure_bind, List.append_nil]
  | succ rounds ih =>
      rw [repeatUpTo, collectUpTo, bind_assoc]
      refine congrArg (kind >>= ·) (funext fun kind => ?_)
      split
      · simp only [collecting, bind_assoc, pure_bind, ih, List.append_assoc,
          List.cons_append, List.nil_append]
      · rw [pure_bind, List.append_nil]

theorem listEnds_of_tracks
    (tracks : ∀ {limit}, Tracks [] limit (again · = true) true item item) :
    ListEnds again item := by
  intro state
  have ends : LoopEnds again (collecting item) :=
    loopEnds_of_tracks fun values => tracks.then fun _ => tracks_pure _
  have same : collectWhile again item state = repeatWhile again (collecting item) [] state := by
    show collectUpTo again item (state.remaining + 1) state =
      repeatUpTo again (collecting item) (state.remaining + 1) [] state
    rw [repeatUpTo_collecting]
    simp only [List.nil_append, bind_pure]
  rw [same]
  exact ends [] state

end Loops

/-! ### The look ahead for a declaration -/

/-- A round of the look ahead, by the next two tokens: what it has found, or how many tokens it
passes and how many curly brackets are open behind them. -/
def lookRound (first second : Kind) : Nat → Bool ⊕ Nat × Nat
  | 0 =>
    match first with
    | .identifier => .inl true
    | .openBracket => if second = .closeBracket then .inr (2, 0) else .inl false
    | .openCurly => .inr (1, 1)
    | _ => .inl false
  | depth + 1 =>
    match first with
    | .openCurly => .inr (1, depth + 2)
    | .closeCurly => .inr (1, depth)
    | _ => if first.isKeyTypePart then .inr (1, depth + 1) else .inl false

/-- What the look ahead finds from some distance on, if it ends within some rounds. Behind the list
it sees the end token. -/
def lookUpTo (state : ParserState) : Nat → Nat → Nat → Option Bool
  | 0, _, _ => none
  | rounds + 1, distance, depth =>
    match lookRound (state.peek distance).kind (state.peek (distance + 1)).kind depth with
    | .inl found => some found
    | .inr (passed, inside) => lookUpTo state rounds (distance + passed) inside

/-- A round that goes on has passed a token, and not the end token. -/
theorem lookRound_passes {first second : Kind} {depth passed inside : Nat}
    (goesOn : lookRound first second depth = .inr (passed, inside)) :
    0 < passed ∧ first ≠ .eof := by
  cases depth with
  | zero =>
      simp only [lookRound] at goesOn
      split at goesOn
      · contradiction
      · split at goesOn <;> cases goesOn
        simp
      · cases goesOn
        simp
      · contradiction
  | succ depth =>
      simp only [lookRound] at goesOn
      split at goesOn
      · cases goesOn
        simp
      · cases goesOn
        simp
      · split at goesOn <;> cases goesOn
        rename_i isPart
        refine ⟨Nat.one_pos, ?_⟩
        rintro rfl
        contradiction

theorem opensDeclaration_eq (depth : Nat) (kinds : List Kind) :
    opensDeclaration depth kinds =
      match lookRound (kinds.head?.getD .eof) (kinds.tail.head?.getD .eof) depth with
      | .inl found => found
      | .inr (passed, inside) => opensDeclaration inside (kinds.drop passed) := by
  fun_cases opensDeclaration depth kinds with
  | case1 => cases depth <;> rfl
  | case2 | case3 | case4 | case6 | case7 => rfl
  | case5 kind rest notName notArray notCurly =>
      have stops : lookRound kind (rest.head?.getD .eof) 0 = .inl false := by
        simp only [lookRound]
        split
        · exact (notName rfl).elim
        · rw [if_neg]
          intro closes
          cases rest with
          | nil => contradiction
          | cons next rest => exact notArray rest rfl (congrArg (· :: rest) closes)
        · exact (notCurly rfl).elim
        · rfl
      simp only [List.head?_cons, Option.getD_some, List.tail_cons, stops]
  | case8 depth kind rest notOpen notClose =>
      have part : lookRound kind (rest.head?.getD .eof) (depth + 1) =
          if kind.isKeyTypePart then .inr (1, depth + 1) else .inl false := by
        simp only [lookRound]
      simp only [List.head?_cons, Option.getD_some, List.tail_cons, Nat.succ_eq_add_one, part]
      cases kind.isKeyTypePart <;> rfl

theorem kind_peek (state : ParserState) (distance : Nat) :
    (state.peek distance).kind =
      ((state.upcoming.map Token.kind).drop distance).head?.getD .eof := by
  rw [ParserState.peek, List.head?_drop, List.getElem?_map]
  cases state.upcoming[distance]? with
  | none => exact state.final_kind
  | some token => rfl

/-- The look ahead ends, since each round moves on in the list. -/
theorem lookUpTo_eq {state : ParserState} {rounds distance : Nat} (depth : Nat)
    (atLeastOne : 0 < rounds) (enough : state.remaining < distance + rounds) :
    lookUpTo state rounds distance depth =
      some (opensDeclaration depth ((state.upcoming.map Token.kind).drop distance)) := by
  induction rounds generalizing distance depth with
  | zero => exact absurd atLeastOne (Nat.lt_irrefl _)
  | succ rounds ih =>
      rw [lookUpTo, opensDeclaration_eq, List.tail_drop, ← kind_peek, ← kind_peek]
      cases round : lookRound (state.peek distance).kind (state.peek (distance + 1)).kind depth with
      | inl found => rfl
      | inr next =>
          rcases next with ⟨passed, inside⟩
          rcases lookRound_passes round with ⟨moves, proper⟩
          have within : distance < state.remaining := by
            by_contra outside
            rw [ParserState.peek_of_remaining_le (Nat.le_of_not_lt outside)] at proper
            exact proper state.final_kind
          simp only [List.drop_drop]
          exact ih inside (by omega) (by omega)

/-- The parser comes to an end on every list of tokens, in front of a token of the list. -/
theorem parser_ends_within_list :
    -- The cursor only moves forward, and never past the last token.
    ((∀ tokens file, (ParserState.ofTokens tokens file).StandsAt (withEnd tokens file) 0) ∧
      Moves false advance ∧ (∀ power, Moves true (parseType power)) ∧
      (∀ power, Moves true (parseExpr power)) ∧ Moves true parseStmt ∧
      Moves false parseProgram) ∧
    -- Recursion goes to where fewer tokens are left, or from a statement to an expression.
    ((∀ inside power (state : ParserState), AgreesType state.remaining inside →
        typeForm inside power state = parseType power state) ∧
      (∀ inside (state : ParserState), AgreesType (state.remaining + 1) inside →
        resultType inside state = withTypes resultType state ∧
          parameters inside state = withTypes parameters state) ∧
      (∀ inside power (state : ParserState),
        Inside.Agrees state.remaining state.remaining inside →
        exprForm inside power state = parseExpr power state) ∧
      ∀ inside (state : ParserState),
        Inside.Agrees (state.remaining + 1) state.remaining inside →
        stmtForm inside state = parseStmt state) ∧
    -- Every loop ends.
    ((∀ power, LoopEnds (Kind.continuesType power) (typeTail (parseType .lowest))) ∧
      (∀ power, LoopEnds (Kind.continuesExpr power) (exprTail whole)) ∧
      LoopEnds (· = .arrow) (fun call => pipeStage whole [call]) ∧
      (∀ template, LoopEnds (fun kind => kind != .closeCurly && kind != .eof)
        (freshMember whole template)) ∧
      ListEnds (· != .eof) parseStmt ∧
      ListEnds (fun kind => kind != .closeCurly && kind != .eof) parseStmt ∧
      ListEnds (· != .closeCurly) (attributeValue whole) ∧
      ListEnds (· = .comma) (advance *> parameter (parseType .lowest)) ∧
      ListEnds (· = .comma) (advance *> parseExpr .lowest) ∧
      ListEnds (· = .comma) (advance *> keyValue whole)) ∧
    -- The look ahead ends.
    ∀ state : ParserState, ∃ found,
      lookUpTo state (state.remaining + 1) 1 0 = some found ∧
        startsDeclaration state = .ok (state.current.kind = .identifier && found) state := by
  refine ⟨⟨ParserState.standsAt_ofTokens, moves_advance, ?_, ?_, ?_, ?_⟩, ⟨?_, ?_, ?_, ?_⟩,
    ⟨?_, ?_, ?_, ?_, ?_, ?_, ?_, ?_, ?_, ?_⟩, ?_⟩
  · exact fun power => moves_of_tracks (tracks_parseType power)
  · exact fun power => moves_of_tracks (tracks_parseExpr power)
  · exact moves_of_tracks tracks_parseStmt
  · exact moves_of_tracks tracks_parseProgram
  · exact fun inside power state agrees => agrees.typeForm_eq power
  · intro inside state agrees
    exact ⟨agrees.form_eq tracks_resultType, agrees.form_eq tracks_parameters⟩
  · exact fun inside power state agrees => agrees.exprForm_eq power
  · exact fun inside state agrees => agrees.stmtForm_eq
  · exact fun power => loopEnds_of_tracks fun left =>
      (tracks_typeTail (tracks_parseType .lowest) left).mono (Nat.le_succ _)
  · exact fun power => loopEnds_of_tracks fun left =>
      (tracks_exprTail tracksInside_whole left).mono (Nat.le_succ _)
  · refine loopEnds_of_tracks fun call => ?_
    exact ((tracks_pipeStage tracksInside_whole [call]).mono (Nat.le_succ _)).narrow
      fun _ same => of_decide_eq_true same
  · exact fun template => loopEnds_of_tracks (tracks_freshMember tracksInside_whole template)
  · exact listEnds_of_tracks tracks_parseStmt
  · exact listEnds_of_tracks tracks_parseStmt
  · exact listEnds_of_tracks (tracks_attributeValue tracksInside_whole)
  · exact listEnds_of_tracks (tracks_moreItem (tracks_parameter (tracks_parseType _)).lax)
  · exact listEnds_of_tracks (tracks_moreItem (tracks_parseExpr _).lax)
  · exact listEnds_of_tracks (tracks_moreItem (tracks_keyValue tracksInside_whole).lax)
  · intro state
    refine ⟨_, lookUpTo_eq 0 (Nat.succ_pos _) (by omega), ?_⟩
    rw [← List.map_drop]
    rfl

end ScriptCheck.Parser
