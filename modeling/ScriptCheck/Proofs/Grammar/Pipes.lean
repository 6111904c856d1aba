import ScriptCheck.Proofs.Grammar.Segments

/-!
# Pipes

An array with arrows behind it is another way to write calls, one around the other: the elements are
the first arguments of the first function, and every other function gets the call in front of it as
its first argument. The parser keeps nothing of the arrows, so both ways are read as the same
expression. The loop over the arrows is followed call by call: what it carries is what the calls up
to there would be read as.
-/

namespace ScriptCheck.Parser

/-- A function in a pipe, with its own arguments where parentheses stand behind its name. -/
structure Stage where
  name : String
  arguments : Option (List (List Token))

/-- The arguments behind those that come from the pipe. -/
def Stage.given (stage : Stage) : List (List Token) :=
  stage.arguments.getD []

/-- The call of a function by its name. -/
inductive Call (name : String) (arguments : List (List Token)) : List Token → Prop
  | mk {callee opens closes : Token} {listed : List Token} (isName : callee.kind = .identifier)
      (named : callee.value = name) (isOpen : opens.kind = .openParen)
      (isClose : closes.kind = .closeParen) (separated : Separated arguments listed) :
      Call name arguments (callee :: opens :: (listed ++ [closes]))

/-- A stage behind its arrow. -/
inductive Stage.Written : Stage → List Token → Prop
  | bare {name : String} {callee : Token} (isName : callee.kind = .identifier)
      (named : callee.value = name) : Written ⟨name, none⟩ [callee]
  | called {name : String} {arguments : List (List Token)} {tokens : List Token}
      (call : Call name arguments tokens) : Written ⟨name, some arguments⟩ tokens

/-- Stages with an arrow in front of each. -/
inductive Arrows : List Stage → List Token → Prop
  | none : Arrows [] []
  | more {arrow : Token} {stage : Stage} {stages : List Stage} {tokens rest : List Token}
      (isArrow : arrow.kind = .arrow) (written : stage.Written tokens)
      (behind : Arrows stages rest) : Arrows (stage :: stages) (arrow :: (tokens ++ rest))

/-- An array that goes through stages. -/
inductive Pipe (elements : List (List Token)) (stages : List Stage) : List Token → Prop
  | mk {opens closes : Token} {listed piped : List Token} (isOpen : opens.kind = .openBracket)
      (isClose : closes.kind = .closeBracket) (separated : Separated elements listed)
      (arrows : Arrows stages piped) : Pipe elements stages (opens :: (listed ++ closes :: piped))

/-- The calls of the stages, each around the one before. The innermost one starts with the piped
arguments. -/
inductive NestedCall : List (List Token) → List Stage → List Token → Prop
  | none (tokens : List Token) : NestedCall [tokens] [] tokens
  | more {piped : List (List Token)} {stage : Stage} {stages : List Stage}
      {inner tokens : List Token} (call : Call stage.name (piped ++ stage.given) inner)
      (around : NestedCall [inner] stages tokens) : NestedCall piped (stage :: stages) tokens

/-- What goes on neither with an expression nor with a pipe, like a semicolon or the end token. -/
def Leaves (kind : Kind) : Prop :=
  kind.continuesExpr .lowest = false ∧ kind ≠ .arrow

variable {first middle last : Nat} {name : String} {arguments : List (List Token)}
variable {tokens piped inner : List Token} {values : List Expr} {stage : Stage}
variable {stages : List Stage}

theorem leaves_of_endsExpr {kind : Kind} (ended : kind.endsExpr = true) : Leaves kind := by
  refine ⟨Kind.continuesExpr_of_endsExpr _ ended, ?_⟩
  rintro rfl
  contradiction

theorem Leaves.ne_openParen {kind : Kind} (leaves : Leaves kind) : kind ≠ .openParen := by
  rintro rfl
  exact Bool.false_ne_true leaves.1.symm

theorem Call.starts (call : Call name arguments tokens) :
    (Kind.ahead tokens).exprStart?.isSome = true := by
  rcases call with ⟨isName, -, -, -, -⟩
  show (Token.kind _).exprStart?.isSome = true
  rw [isName]
  rfl

/-- A name with arguments is read as a call. -/
theorem takes_call (call : Call name arguments tokens)
    (denotes : DenotesEach first arguments values last) :
    Takes (parseExpr .lowest) Leaves first tokens (.call (.identifier name) values) last := by
  rcases call with ⟨isName, rfl, isOpen, isClose, separated⟩
  rename_i callee opens closes listed
  have start : Takes (exprStart whole) (· = .openParen) first [callee] (.identifier callee.value)
      first := by
    intro state rest coming counter ended
    have isAtom : callee.kind.isAtom = true := by rw [isName]; rfl
    have notEntity : Kind.ahead rest ≠ .openCurly := by rw [ended]; decide
    have read := exprStart_atom isAtom coming notEntity
    rw [Token.atom?, isName] at read
    exact ⟨state.tail, read, ParserState.upcoming_tail_of_cons coming, counter⟩
  have tail : Takes (exprTail whole (.identifier callee.value)) Leaves first
      (opens :: (listed ++ [closes])) (.call (.identifier callee.value) values) last :=
    takes_kind_of_cons isOpen (takes_arguments isOpen isClose denotes separated).map
  rw [parseExpr_eq]
  refine start.bind (fun _ _ => isOpen) (takes_lastTail ?_ tail fun _ leaves => leaves.1)
  rw [isOpen]
  rfl

/-- A stage is read as a call with the piped arguments in front of its own. -/
theorem takes_pipeStage {arrow : Token} {values : List Expr} (written : stage.Written tokens)
    (denotes : DenotesEach first stage.given values last) (before : List Expr) :
    Takes (pipeStage whole before) (· ≠ .openParen) first (arrow :: tokens)
      (.call (.identifier stage.name) (before ++ values)) last := by
  refine takes_advance ?_
  cases written with
  | bare isName named =>
      subst named
      cases denotes
      refine takes_identifier isName (takes_kind (fun rest other => ?_) (takes_pure _))
      rw [List.append_nil]
      exact if_neg other
  | called call =>
      rcases call with ⟨isName, rfl, isOpen, isClose, separated⟩
      refine takes_identifier isName (takes_kind (fun rest _ => if_pos isOpen) ?_)
      exact (takes_arguments isOpen isClose denotes separated).map

theorem loopEnds_pipeStage : LoopEnds (· = .arrow) (fun call => pipeStage whole [call]) :=
  loopEnds_of_tracks fun call =>
    ((tracks_pipeStage tracksInside_whole [call]).mono (Nat.le_succ _)).narrow fun _ same =>
      of_decide_eq_true same

/-- In front of arrows or of what leaves the pipe, no arguments start. -/
theorem Arrows.ne_openParen (arrows : Arrows stages piped) {rest : List Token}
    (leaves : Leaves (Kind.ahead rest)) : Kind.ahead (piped ++ rest) ≠ .openParen := by
  cases arrows with
  | none => exact leaves.ne_openParen
  | more isArrow _ _ =>
      show Token.kind _ ≠ _
      rw [isArrow]
      decide

/-- The loop over the arrows carries what the calls up to there are read as. -/
theorem takes_arrows {call : Expr} (arrows : Arrows stages piped)
    (nested : NestedCall [inner] stages tokens)
    (areExpressions : ∀ stage ∈ stages, ∀ argument ∈ stage.given, IsExpression argument)
    (starts : (Kind.ahead inner).exprStart?.isSome = true)
    (takes : Takes (parseExpr .lowest) Leaves first inner call middle) :
    ∃ expr last, Takes (parseExpr .lowest) Leaves first tokens expr last ∧
      Takes (repeatWhile (· = .arrow) (fun call => pipeStage whole [call]) call) Leaves middle piped
        expr last := by
  induction arrows generalizing inner call middle with
  | none =>
      rcases nested with _ | _
      refine ⟨call, middle, takes, takes_stop loopEnds_pipeStage fun kind leaves => ?_⟩
      exact decide_eq_false leaves.2
  | @more arrow stage stages written behind isArrow isWritten arrowsBehind ih =>
      rcases nested with _ | ⟨around, nested⟩
      rcases List.forall_mem_cons.mp areExpressions with ⟨ofStage, ofOthers⟩
      rcases denotesEach_of_expressions ofStage middle with ⟨values, next, denotes⟩
      have both : DenotesEach first ([inner] ++ stage.given) (call :: values) next :=
        .cons ⟨starts, takes.narrow fun _ => leaves_of_endsExpr⟩ denotes
      rcases ih nested ofOthers around.starts (takes_call around both) with
        ⟨expr, last, takesCall, takesLoop⟩
      refine ⟨expr, last, takesCall, takes_round loopEnds_pipeStage (decide_eq_true isArrow) ?_⟩
      exact (takes_pipeStage isWritten denotes [call]).bind
        (fun rest leaves => arrowsBehind.ne_openParen leaves) takesLoop

/-- The elements are the first arguments of the first stage, and the call of it goes through the
others. -/
theorem takes_pipe {elements : List (List Token)} {called : List Token}
    (pipe : Pipe elements stages piped) (nested : NestedCall elements stages called)
    (some : stages ≠ []) (areElements : ∀ element ∈ elements, IsExpression element)
    (areArguments : ∀ stage ∈ stages, ∀ argument ∈ stage.given, IsExpression argument)
    (first : Nat) :
    ∃ expr last, Takes (parseExpr .lowest) Leaves first piped expr last ∧
      Takes (parseExpr .lowest) Leaves first called expr last := by
  rcases pipe with ⟨isOpen, isClose, separated, arrows⟩
  rename_i opens closes listed behind
  rcases arrows with _ | ⟨isArrow, isWritten, arrows⟩
  · contradiction
  rename_i arrow stage stages written rest
  rcases nested with _ | ⟨call, nested⟩
  rcases List.forall_mem_cons.mp areArguments with ⟨ofStage, ofOthers⟩
  rcases denotesEach_of_expressions areElements first with ⟨values, middle, denotes⟩
  rcases denotesEach_of_expressions ofStage middle with ⟨own, next, denotesOwn⟩
  rcases takes_arrows arrows nested ofOthers call.starts
    (takes_call call (denotes.append denotesOwn)) with ⟨expr, last, takesCall, takesLoop⟩
  have stages : Takes (pipeStage whole values >>=
      repeatWhile (· = .arrow) fun call => pipeStage whole [call]) Leaves middle
        (arrow :: (written ++ rest)) expr last :=
    (takes_pipeStage isWritten denotesOwn values).bind
      (fun rest leaves => arrows.ne_openParen leaves) takesLoop
  have array : Takes (arrayExpr whole) Leaves first
      (opens :: (listed ++ closes :: arrow :: (written ++ rest))) expr last := by
    refine takes_expect isOpen ?_
    refine (takes_itemsUntil rfl (by simp) denotes separated).bind (fun _ _ => isClose) ?_
    exact takes_expect isClose (takes_kind (fun rest _ => if_pos isArrow) stages)
  refine ⟨expr, last, ?_, takesCall⟩
  rw [parseExpr_eq]
  exact Takes.ended (takes_kind_of_cons isOpen array) fun _ leaves => leaves.1

/-- A pipe is read as the same expression as the nested calls that it stands for, and both ways of
writing are read to their ends. A stage without parentheses has no arguments of its own. -/
theorem pipe_reads_as_nested_call {elements : List (List Token)} {stages : List Stage}
    {piped called : List Token} (pipe : Pipe elements stages piped)
    (nested : NestedCall elements stages called) (some : stages ≠ [])
    (areElements : ∀ element ∈ elements, IsExpression element)
    (areArguments : ∀ stage ∈ stages, ∀ argument ∈ stage.given, IsExpression argument)
    (state : ParserState) {behind : List Token} (leaves : Leaves (Kind.ahead behind)) :
    ∃ expr after afterAgain,
      parseExpr .lowest { state with upcoming := piped ++ behind } = .ok expr after ∧
      parseExpr .lowest { state with upcoming := called ++ behind } = .ok expr afterAgain ∧
      after.upcoming = behind ∧ afterAgain.upcoming = behind := by
  rcases takes_pipe pipe nested some areElements areArguments state.nextId with
    ⟨expr, last, takesPipe, takesCall⟩
  rcases takesPipe { state with upcoming := piped ++ behind } behind rfl rfl leaves with
    ⟨after, ran, consumed, -⟩
  rcases takesCall { state with upcoming := called ++ behind } behind rfl rfl leaves with
    ⟨afterAgain, ranAgain, consumedAgain, -⟩
  exact ⟨expr, after, afterAgain, ran, ranAgain, consumed, consumedAgain⟩

/-- A pipe inside of another one. -/
def innerPipe : List Token :=
  [placeless .openBracket "[", placeless .integerLiteral "1", placeless .closeBracket "]",
    placeless .arrow ">>", placeless .identifier "h"]

/-- A function without a name, which declares a variable. -/
def declaringFunction : List Token :=
  [placeless .funcWord "func", placeless .openBracket "[", placeless .closeBracket "]",
    placeless .arrow ">>", placeless .openCurly "\x7b", placeless .intWord "int",
    placeless .identifier "a", placeless .assignment "=", placeless .integerLiteral "1",
    placeless .semicolon ";", placeless .closeCurly "\x7d"]

/-- The tokens of a call by its name. -/
def callTokens (name : String) (listed : List Token) : List Token :=
  placeless .identifier name :: placeless .openParen "(" :: (listed ++ [placeless .closeParen ")"])

def withComma (item listed : List Token) : List Token :=
  item ++ placeless .comma "," :: listed

/-- Two elements that go through `f` with an argument, `g` and `k`. -/
def threeStages : List Stage :=
  [⟨"f", some [declaringFunction]⟩, ⟨"g", none⟩, ⟨"k", some []⟩]

def threeStagesPipe : List Token :=
  placeless .openBracket "[" :: (withComma innerPipe declaringFunction ++
    placeless .closeBracket "]" :: placeless .arrow ">>" :: (callTokens "f" declaringFunction ++
      placeless .arrow ">>" :: ([placeless .identifier "g"] ++
        placeless .arrow ">>" :: (callTokens "k" [] ++ []))))

def threeStagesCall : List Token :=
  callTokens "k" (callTokens "g" (callTokens "f"
    (withComma innerPipe (withComma declaringFunction declaringFunction))))

theorem three_stages_read_as_nested_call :
    Pipe [innerPipe, declaringFunction] threeStages threeStagesPipe ∧
      NestedCall [innerPipe, declaringFunction] threeStages threeStagesCall ∧
      threeStages ≠ [] ∧
      (∀ element ∈ [innerPipe, declaringFunction], IsExpression element) ∧
      (∀ stage ∈ threeStages, ∀ argument ∈ stage.given, IsExpression argument) ∧
      Leaves .semicolon ∧
      ∃ expr after afterAgain,
        parseExpr .lowest (placelessState (threeStagesPipe ++ [placeless .semicolon ";"])) =
          .ok expr after ∧
        parseExpr .lowest (placelessState (threeStagesCall ++ [placeless .semicolon ";"])) =
          .ok expr afterAgain ∧
        after.upcoming = [placeless .semicolon ";"] ∧
        afterAgain.upcoming = [placeless .semicolon ";"] := by
  have isPipe : IsExpression innerPipe := ⟨_, placelessState innerPipe, _, rfl, rfl, rfl⟩
  have isFunction : IsExpression declaringFunction :=
    ⟨_, placelessState declaringFunction, _, rfl, rfl, rfl⟩
  have pipe : Pipe [innerPipe, declaringFunction] threeStages threeStagesPipe :=
    .mk rfl rfl (.more _ rfl (.single _))
      (.more rfl (.called (.mk rfl rfl rfl rfl (.single _)))
        (.more rfl (.bare rfl rfl) (.more rfl (.called (.mk rfl rfl rfl rfl .none)) .none)))
  have nested : NestedCall [innerPipe, declaringFunction] threeStages threeStagesCall :=
    .more (.mk rfl rfl rfl rfl (.more _ rfl (.more _ rfl (.single _))))
      (.more (.mk rfl rfl rfl rfl (.single _))
        (.more (.mk rfl rfl rfl rfl (.single _)) (.none _)))
  have areElements : ∀ element ∈ [innerPipe, declaringFunction], IsExpression element := by
    simp [isPipe, isFunction]
  have areArguments : ∀ stage ∈ threeStages, ∀ argument ∈ stage.given, IsExpression argument := by
    simp [threeStages, Stage.given, isFunction]
  have leaves : Leaves .semicolon := ⟨rfl, nofun⟩
  have some : threeStages ≠ [] := List.cons_ne_nil _ _
  exact ⟨pipe, nested, some, areElements, areArguments, leaves,
    pipe_reads_as_nested_call pipe nested some areElements areArguments (placelessState []) leaves⟩

end ScriptCheck.Parser
