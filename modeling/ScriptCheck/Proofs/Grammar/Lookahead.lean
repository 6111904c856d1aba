import ScriptCheck.Proofs.Grammar.Composition
import ScriptCheck.Proofs.Grammar.Precedence
import ScriptCheck.Proofs.Grammar.Wording

/-!
# The look ahead for declarations

A statement that starts with a name is a declaration or an expression, and a look at the kinds of
the coming tokens decides which. Behind a name, the suffixes of a type stand where no expression
goes on: the brackets of an array type hold no index, and the curly brackets of a set or map type
hold no attribute of an entity, or close an entity that something stands behind. `BarsName` says
that tokens are of this sort.

So an expression is never taken for a declaration. In the other direction the look ahead misses the
declarations in which other types than names and the basic ones stand for keys, and what it misses
is refused.
-/

namespace ScriptCheck

/-- Behind an operand, these tokens continue no expression, and do not close its statement. -/
inductive BarsOperand : List Kind → Prop
  | name (rest : List Kind) : BarsOperand (.identifier :: rest)
  | array (rest : List Kind) : BarsOperand (.openBracket :: .closeBracket :: rest)
  | curly (rest : List Kind) : BarsOperand (.openCurly :: rest)

/-- Behind a name, these tokens continue no expression, and do not close its statement. -/
inductive BarsName : List Kind → Prop
  | name (rest : List Kind) : BarsName (.identifier :: rest)
  | array (rest : List Kind) : BarsName (.openBracket :: .closeBracket :: rest)
  | set {rest : List Kind} (bars : BarsOperand rest) : BarsName (.openCurly :: .closeCurly :: rest)
  | key {first : Kind} (rest : List Kind) (notName : first ≠ .identifier)
      (notClose : first ≠ .closeCurly) : BarsName (.openCurly :: first :: rest)
  | namedKey {second : Kind} (rest : List Kind) (notColon : second ≠ .colon) :
      BarsName (.openCurly :: .identifier :: second :: rest)

theorem barsOperand_of_opensDeclaration {kinds : List Kind}
    (opens : opensDeclaration 0 kinds = true) : BarsOperand kinds := by
  unfold opensDeclaration at opens
  split at opens
  any_goals contradiction
  · exact .name _
  · exact .array _
  · exact .curly _

theorem barsName_of_opensDeclaration {kinds : List Kind}
    (opens : opensDeclaration 0 kinds = true) : BarsName kinds := by
  cases barsOperand_of_opensDeclaration opens with
  | name rest => exact .name rest
  | array rest => exact .array rest
  | curly rest =>
      rw [opensDeclaration] at opens
      cases rest with
      | nil => contradiction
      | cons first rest =>
          by_cases closes : first = .closeCurly
          · subst closes
            rw [opensDeclaration] at opens
            exact .set (barsOperand_of_opensDeclaration opens)
          · by_cases isName : first = .identifier
            · subst isName
              -- A colon behind the name is no part of a key type.
              cases rest with
              | nil => contradiction
              | cons second rest =>
                  refine .namedKey rest ?_
                  rintro rfl
                  contradiction
            · exact .key rest isName closes

open ScriptCheck.Parser

/-- Between curly brackets, no attribute starts with a type. -/
theorem barsName_openCurly {behind : Kind} (rest : List Kind) (notColon : behind ≠ .colon) :
    ∀ type : Ty, BarsName (.openCurly :: (kinds type.pieces ++ behind :: rest))
  | .primitive primitive => by
      have plain : primitive.kind ≠ .identifier ∧ primitive.kind ≠ .closeCurly := by
        cases primitive <;> decide
      exact .key _ plain.1 plain.2
  | .array inner | .set inner | .map _ inner => by
      rw [Ty.pieces, kinds_append, List.append_assoc]
      exact barsName_openCurly _ (by decide) inner
  | .function ⟨_, _⟩ => .key _ (by decide) (by decide)
  | .named _ => .namedKey rest notColon
  | .template _ => by
      rw [Ty.pieces]
      exact .namedKey rest notColon

/-- The type without its suffixes. -/
def Ty.innermost : Ty → Ty
  | .array element => element.innermost
  | .set element => element.innermost
  | .map _ value => value.innermost
  | .primitive basic => .primitive basic
  | .function signature => .function signature
  | .named name => .named name
  | .template record => .template record
  termination_by structural type => type

/-- The suffixes of a type continue no expression that starts with its name. -/
theorem barsName_suffixes {name : String} {rest : List Kind} (operand : BarsOperand rest)
    (bars : BarsName rest) : ∀ type : Ty, type.innermost = .named name →
      BarsName ((kinds type.pieces).tail ++ rest)
  | .array element => by
      intro based
      rw [Ty.pieces, kinds_append, tail_kinds_append, List.append_assoc]
      exact barsName_suffixes (.array rest) (.array rest) element based
  | .set element => by
      intro based
      rw [Ty.pieces, kinds_append, tail_kinds_append, List.append_assoc]
      exact barsName_suffixes (.curly _) (.set operand) element based
  | .map key value => by
      intro based
      have suffix : kinds (mark .openCurly :: (key.pieces ++ [mark .closeCurly])) ++ rest =
          .openCurly :: (kinds key.pieces ++ .closeCurly :: rest) := by simp
      rw [Ty.pieces, kinds_append, tail_kinds_append, List.append_assoc, suffix]
      exact barsName_suffixes (.curly _) (barsName_openCurly rest (by decide) key) value based
  | .named _ => fun _ => bars
  | .primitive _ => nofun
  | .function _ => nofun
  | .template _ => nofun

namespace Parser

variable {α β : Type}

/-- The parser stops with a fault. -/
def Fails (parser : Parser α) (state : ParserState) : Prop :=
  ∃ diagnostic after, parser state = .error diagnostic after

variable {parser : Parser α} {next : α → Parser β} {state after : ParserState}

theorem Fails.bind (fails : Fails parser state) (next : α → Parser β) :
    Fails (parser >>= next) state := by
  obtain ⟨diagnostic, after, failed⟩ := fails
  exact ⟨diagnostic, after, bind_of_error failed next⟩

theorem fails_of_next {value : α} (ran : parser state = .ok value after)
    (fails : Fails (next value) after) : Fails (parser >>= next) state := by
  rw [Fails, bind_of_ok ran]
  exact fails

theorem fails_unexpected : Fails (unexpected : Parser α) state :=
  ⟨_, _, rfl⟩

theorem fails_expect {expected : Kind} (other : Kind.ahead state.upcoming ≠ expected) :
    Fails (expect expected) state := by
  cases ran : expect expected state with
  | error diagnostic after => exact ⟨diagnostic, after, ran⟩
  | ok token after => exact absurd (ok_of_expect ran).1 other

theorem fails_identifier (other : Kind.ahead state.upcoming ≠ .identifier) :
    Fails identifier state :=
  (fails_expect other).bind _

theorem expect_of_kind {expected : Kind} (same : Kind.ahead state.upcoming = expected) :
    expect expected state = .ok state.current state.tail :=
  expectOr_of_kind same

theorem expect_of_cons {token : Token} {rest : List Token} {expected : Kind}
    (coming : state.upcoming = token :: rest) (same : token.kind = expected) :
    expect expected state = .ok token { state with upcoming := rest } := by
  have ahead : Kind.ahead state.upcoming = expected := by
    rw [coming]
    exact same
  rw [expect_of_kind ahead, ParserState.current_of_cons coming, ParserState.tail, coming]
  rfl

/-- No expression starts with a token of a kind that starts none. -/
theorem fails_parseExpr {power : Power} (none : (Kind.ahead state.upcoming).exprStart? = none) :
    Fails (parseExpr power) state := by
  rw [← exprForm_whole, exprForm]
  apply Fails.bind
  rw [exprStart]
  apply fails_of_next (kind_apply state)
  rw [none]
  exact fails_unexpected

theorem ahead_of_kinds {kind : Kind} {rest : List Kind}
    (coming : state.upcoming.map Token.kind = kind :: rest) :
    Kind.ahead state.upcoming = kind ∧ state.tail.upcoming.map Token.kind = rest := by
  cases upcoming : state.upcoming with
  | nil => simp [upcoming] at coming
  | cons token tokens =>
      rw [upcoming, List.map_cons, List.cons.injEq] at coming
      rw [ParserState.upcoming_tail_of_cons upcoming]
      exact coming

/-- No expression goes on with these tokens, so what has to stand behind it is missing. -/
theorem fails_of_barsOperand (bars : BarsOperand (state.upcoming.map Token.kind)) (left : Expr)
    {next : Expr → Parser α} (closing : ∀ expr, Kind.ahead state.upcoming ≠ .semicolon →
      Fails (next expr) state) :
    Fails (repeatWhile (Kind.continuesExpr .lowest) (exprTail whole) left >>= next) state := by
  have unrolled := (loopEnds_exprTail .lowest).unroll left state
  generalize coming : state.upcoming.map Token.kind = kinds at bars
  cases bars with
  | name rest | curly rest =>
      have ahead := (ahead_of_kinds coming).1
      rw [ahead, if_neg (by decide)] at unrolled
      exact fails_of_next unrolled (closing left (by simp [ahead]))
  | array rest =>
      obtain ⟨ahead, behind⟩ := ahead_of_kinds coming
      rw [ahead, if_pos (by decide)] at unrolled
      apply Fails.bind
      rw [Fails, unrolled]
      apply Fails.bind
      rw [exprTail]
      apply fails_of_next (kind_apply state)
      rw [ahead]
      show Fails (indexExpr whole left) state
      apply fails_of_next (expect_of_kind ahead)
      apply Fails.bind
      apply fails_parseExpr
      rw [(ahead_of_kinds behind).1]
      rfl

/-- An entity whose brackets hold something else than an attribute. -/
theorem fails_entityLiteral {name : String} (opens : Kind.ahead state.upcoming = .openCurly)
    (more : Kind.ahead state.tail.upcoming ≠ .closeCurly)
    (fails : Fails (attributeValue whole) state.tail) : Fails (entityLiteral whole name) state := by
  apply fails_of_next (expect_of_kind opens)
  apply Fails.bind
  have unfolded : collectWhile (· != .closeCurly) (attributeValue whole) state.tail =
      collectUpTo (· != .closeCurly) (attributeValue whole) (state.tail.remaining + 1)
        state.tail := rfl
  rw [Fails, unfolded]
  apply fails_of_next (kind_apply state.tail)
  rw [if_pos (by simpa using more)]
  exact fails.bind _

/-- No expression statement starts with a name and these tokens. -/
theorem fails_of_barsName (isName : Kind.ahead state.upcoming = .identifier)
    (bars : BarsName (state.tail.upcoming.map Token.kind)) :
    Fails (expressionStmt whole) state := by
  have looked : position state = .ok state.current.start state := rfl
  apply fails_of_next looked
  show Fails (parseExpr .lowest >>= _) state
  rw [← exprForm_whole, exprForm, bind_assoc, exprStart, bind_assoc]
  apply fails_of_next (kind_apply state)
  rw [isName]
  show Fails (identifierExpr whole >>= _) state
  have named : identifier state = .ok state.current.value state.tail := by
    rw [identifier, bind_of_ok (expect_of_kind isName)]
    rfl
  have closing (expr : Expr) (after : ParserState)
      (other : Kind.ahead after.upcoming ≠ .semicolon) : Fails (do
        let _ ← expect .semicolon
        return Stmt.expression state.current.start expr) after :=
    (fails_expect other).bind _
  rw [identifierExpr, bind_assoc]
  apply fails_of_next named
  rw [bind_assoc]
  apply fails_of_next (kind_apply state.tail)
  generalize coming : state.tail.upcoming.map Token.kind = kinds at bars
  cases bars with
  | name rest =>
      rw [(ahead_of_kinds coming).1, if_neg (by decide)]
      apply fails_of_barsOperand _ _ fun expr => closing expr state.tail
      rw [coming]
      exact .name rest
  | array rest =>
      rw [(ahead_of_kinds coming).1, if_neg (by decide)]
      apply fails_of_barsOperand _ _ fun expr => closing expr state.tail
      rw [coming]
      exact .array rest
  | @set rest bars =>
      obtain ⟨opens, behind⟩ := ahead_of_kinds coming
      obtain ⟨closes, behind⟩ := ahead_of_kinds behind
      have empty : entityLiteral whole state.current.value state.tail =
          .ok (.entity state.current.value []) state.tail.tail.tail := by
        have none : collectWhile (· != .closeCurly) (attributeValue whole) state.tail.tail =
            .ok [] state.tail.tail :=
          collectWhile_stop (by rw [closes]; rfl)
        rw [entityLiteral, bind_of_ok (expect_of_kind opens), bind_of_ok none,
          bind_of_ok (expect_of_kind closes)]
        rfl
      rw [opens, if_pos rfl]
      apply fails_of_next empty
      apply fails_of_barsOperand _ _ fun expr => closing expr _
      rw [behind]
      exact bars
  | @key first rest notName notClose =>
      obtain ⟨opens, behind⟩ := ahead_of_kinds coming
      have starts := (ahead_of_kinds behind).1
      rw [opens, if_pos rfl]
      apply Fails.bind
      apply fails_entityLiteral opens
      · rwa [starts]
      · apply Fails.bind
        apply fails_identifier
        rwa [starts]
  | @namedKey second rest notColon =>
      obtain ⟨opens, behind⟩ := ahead_of_kinds coming
      obtain ⟨starts, behind⟩ := ahead_of_kinds behind
      rw [opens, if_pos rfl]
      apply Fails.bind
      apply fails_entityLiteral opens
      · rw [starts]
        decide
      · have key : identifier state.tail.tail =
            .ok state.tail.tail.current.value state.tail.tail.tail := by
          rw [identifier, bind_of_ok (expect_of_kind starts)]
          rfl
        apply fails_of_next key
        apply Fails.bind
        apply fails_expect
        rwa [(ahead_of_kinds behind).1]

/-- A statement that starts with a name, where the look ahead finds a declaration or not. -/
theorem parseStmt_of_name (isName : Kind.ahead state.upcoming = .identifier) :
    parseStmt state =
      if opensDeclaration 0 (state.tail.upcoming.map Token.kind) = true then varDeclStmt whole state
      else expressionStmt whole state := by
  have looked : startsDeclaration state =
      .ok (opensDeclaration 0 (state.tail.upcoming.map Token.kind)) state := by
    show EStateM.Result.ok (declares state) state = _
    rw [declares, state.kind_current, isName, List.drop_one]
    rfl
  rw [← stmtForm_whole, stmtForm_eq, bind_of_ok looked]
  split
  · rfl
  · rw [bind_of_ok (kind_apply state), isName]
    rfl

/-- Elsewhere a look at the first token is enough. -/
theorem parseStmt_of_word {kind : Kind} (ahead : Kind.ahead state.upcoming = kind)
    (notName : kind ≠ .identifier) : parseStmt state = formStmt whole kind.stmtForm? state := by
  have looked : startsDeclaration state = .ok false state := by
    show EStateM.Result.ok (declares state) state = _
    rw [declares, state.kind_current, ahead, decide_eq_false notName, Bool.false_and]
  rw [← stmtForm_whole, stmtForm_eq, bind_of_ok looked, if_neg Bool.false_ne_true,
    bind_of_ok (kind_apply state), ahead]

theorem expressionStmt_whole : withInside expressionStmt = expressionStmt whole := by
  funext state
  have formed : Tracks [] (state.remaining + 1) anywhere true
      (expressionStmt (nested state.remaining)) (expressionStmt whole) :=
    tracks_expressionStmt (agrees_whole.tracks (Nat.le_refl _))
  exact (formed.eq (Nat.lt_succ_self _) trivial).symm

/-- Where an expression statement that starts with a name can be read, the look ahead finds no
declaration, and so the statement is read. -/
theorem expression_not_declaration {stmt : Stmt} (isName : state.current.kind = .identifier)
    (ran : withInside expressionStmt state = .ok stmt after) :
    startsDeclaration state = .ok false state ∧ parseStmt state = .ok stmt after := by
  rw [state.kind_current] at isName
  rw [expressionStmt_whole] at ran
  have missed : opensDeclaration 0 (state.tail.upcoming.map Token.kind) = false := by
    apply Bool.eq_false_iff.mpr
    intro opens
    obtain ⟨diagnostic, stopped, failed⟩ :=
      fails_of_barsName isName (barsName_of_opensDeclaration opens)
    rw [ran] at failed
    contradiction
  constructor
  · show EStateM.Result.ok (declares state) state = _
    rw [declares, state.kind_current, isName, List.drop_one]
    exact congrArg (EStateM.Result.ok · state) missed
  · rw [parseStmt_of_name isName, missed]
    exact ran

/-- An entity that is indexed and assigned to, if its tokens stand nowhere. -/
def inFrontOfEntity : ParserState :=
  { placelessEnd ParserState.firstId with
    upcoming :=
      [placeless .identifier "P", placeless .openCurly "\x7b", placeless .identifier "a",
        placeless .colon ":", placeless .identifier "b", placeless .closeCurly "\x7d",
        placeless .openBracket "[", placeless .identifier "c", placeless .closeBracket "]",
        placeless .assignment "=", placeless .identifier "d", placeless .semicolon ";"] }

theorem entity_not_declaration :
    startsDeclaration inFrontOfEntity = .ok false inFrontOfEntity ∧
      parseStmt inFrontOfEntity = .ok
        (.expression Position.unknown
          (.assignment (.index (.entity "P" [("a", .identifier "b")]) (.identifier "c"))
            (.identifier "d")))
        (placelessEnd ParserState.firstId) :=
  expression_not_declaration rfl rfl

end Parser

/-- The tokens of a declaration of a variable. -/
structure WrittenDeclaration where
  type : Ty
  written : List Token
  name : Token
  sign : Token
  value : List Token
  stop : Token
  spelled : written.map Token.wording = type.pieces.map Piece.wording
  isName : name.kind = .identifier
  isSign : sign.kind = .assignment
  isStop : stop.kind = .semicolon

def WrittenDeclaration.tokens (declaration : WrittenDeclaration) : List Token :=
  declaration.written ++ declaration.name :: declaration.sign ::
    (declaration.value ++ [declaration.stop])

theorem Ty.kinds_of_innermost {name : String} : ∀ type : Ty, type.innermost = .named name →
    kinds type.pieces = .identifier :: (kinds type.pieces).tail
  | .array inner | .set inner | .map _ inner => by
      intro based
      rw [Ty.pieces, kinds_append, tail_kinds_append, ← List.cons_append]
      exact congrArg (· ++ _) (inner.kinds_of_innermost based)
  | .named _ => fun _ => rfl
  | .primitive _ => nofun
  | .function _ => nofun
  | .template _ => nofun

/-- The form of declarations reads a declaration whose type is readable. -/
theorem WrittenDeclaration.varDeclStmt_apply (declaration : WrittenDeclaration)
    {spell : Number.Binary64 → String} (readable : declaration.type.Readable spell)
    {state after : ParserState} {rest : List Token} {initializer : Expr}
    (coming : state.upcoming = declaration.tokens ++ rest)
    (consumed : parseExpr .lowest
      { state with upcoming := declaration.value ++ declaration.stop :: rest } =
        .ok initializer after)
    (consumes : after.upcoming = declaration.stop :: rest) :
    varDeclStmt whole state = .ok (.varDecl state.current.start after.nextId
      declaration.name.value declaration.type initializer)
        { after with upcoming := rest, nextId := after.nextId + 1 } := by
  rcases declaration with ⟨type, written, name, sign, value, stop, spelled, isName, isSign, isStop⟩
  have behind : state.upcoming = written ++ name :: sign :: (value ++ stop :: rest) := by
    simp [coming, tokens]
  have ends : (Kind.ahead (name :: sign :: (value ++ stop :: rest))).endsType = true := by
    show name.kind.endsType = true
    rw [isName]
    rfl
  have started : position state = .ok state.current.start state := rfl
  have typed := readable.parseType_of_wording behind spelled ends
  have named : identifier { state with upcoming := name :: sign :: (value ++ stop :: rest) } =
      .ok name.value { state with upcoming := sign :: (value ++ stop :: rest) } := by
    rw [identifier, bind_of_ok (expect_of_cons rfl isName)]
    rfl
  have assigned : expect .assignment { state with upcoming := sign :: (value ++ stop :: rest) } =
      .ok sign { state with upcoming := value ++ stop :: rest } :=
    expect_of_cons rfl isSign
  rw [varDeclStmt, bind_of_ok started, bind_of_ok typed, bind_of_ok named, bind_of_ok assigned]
  show (parseExpr .lowest >>= _) _ = _
  rw [bind_of_ok consumed, bind_of_ok (expect_of_cons consumes isStop)]
  rfl

/-- The kinds of the tokens of a declaration: those of the type, a name, and what comes behind. -/
theorem WrittenDeclaration.kinds_upcoming (declaration : WrittenDeclaration) {state : ParserState}
    {rest : List Token} (coming : state.upcoming = declaration.tokens ++ rest) :
    ∃ behind, state.upcoming.map Token.kind =
      kinds declaration.type.pieces ++ .identifier :: behind := by
  refine ⟨(declaration.sign :: (declaration.value ++ declaration.stop :: rest)).map Token.kind, ?_⟩
  rw [coming, tokens, List.append_assoc, List.map_append, kinds_of_wording declaration.spelled]
  simp [declaration.isName]

/-- The look ahead goes by the type of a declaration that starts with a name. -/
theorem WrittenDeclaration.opensDeclaration_eq (declaration : WrittenDeclaration)
    {state : ParserState} {rest : List Token}
    (coming : state.upcoming = declaration.tokens ++ rest) :
    ScriptCheck.opensDeclaration 0 (state.tail.upcoming.map Token.kind) =
      declaration.type.opensDeclaration := by
  obtain ⟨behind, kindsComing⟩ := declaration.kinds_upcoming coming
  rw [ParserState.tail, List.map_tail, kindsComing, tail_kinds_append, opensDeclaration_tail]
  exact Bool.and_true _

/-- A declaration is read as one where its type is recognised. -/
theorem WrittenDeclaration.parseStmt_eq (declaration : WrittenDeclaration)
    (declares : declaration.type.Declares) {state : ParserState} {rest : List Token}
    (coming : state.upcoming = declaration.tokens ++ rest) :
    parseStmt state = varDeclStmt whole state := by
  obtain ⟨first, more, starts, recognised⟩ := declares
  obtain ⟨behind, kindsComing⟩ := declaration.kinds_upcoming coming
  rw [starts] at kindsComing
  obtain ⟨ahead, kindsBehind⟩ := ahead_of_kinds kindsComing
  rcases recognised with ⟨rfl, opens⟩ | form | ⟨rfl, angle⟩
  · rw [parseStmt_of_name ahead, declaration.opensDeclaration_eq coming, if_pos opens]
  · have notName : first ≠ .identifier := by
      rintro rfl
      contradiction
    rw [parseStmt_of_word ahead notName, form]
    rfl
  · have second : (state.peek 1).kind = .less := by
      rw [kind_peek, kindsComing, List.cons_append, List.drop_one, List.tail_cons,
        List.head?_append, angle]
      rfl
    rw [parseStmt_of_word ahead (by decide)]
    show functionStmt whole state = _
    rw [functionStmt_apply, second]
    rfl

/-- A declaration whose type is a name with suffixes is read if the keys in the type are names and
basic types with suffixes, and it is refused otherwise. -/
theorem named_declaration_read (declaration : WrittenDeclaration) {template : String}
    {before between state after : ParserState} {rest : List Token} {initializer : Expr}
    (returned : parseType .lowest before = .ok declaration.type between)
    (based : declaration.type.innermost = .named template)
    (coming : state.upcoming = declaration.tokens ++ rest)
    (consumed : parseExpr .lowest
      { state with upcoming := declaration.value ++ declaration.stop :: rest } =
        .ok initializer after)
    (consumes : after.upcoming = declaration.stop :: rest) :
    (declaration.type.opensDeclaration = true →
      parseStmt state = .ok (.varDecl state.current.start after.nextId declaration.name.value
        declaration.type initializer) { after with upcoming := rest, nextId := after.nextId + 1 }) ∧
    (declaration.type.opensDeclaration = false → Fails parseStmt state) := by
  have starts := declaration.type.kinds_of_innermost based
  constructor
  · intro opens
    have finds : FindsType (fun _ => "") anywhere (parseType .lowest) :=
      findsType_parseType .lowest
    obtain ⟨-, -, readable, -⟩ := finds before _ between trivial returned
    rw [declaration.parseStmt_eq ⟨_, _, starts, .inl ⟨rfl, opens⟩⟩ coming]
    exact declaration.varDeclStmt_apply readable coming consumed consumes
  · intro missed
    obtain ⟨behind, kindsComing⟩ := declaration.kinds_upcoming coming
    rw [starts] at kindsComing
    obtain ⟨ahead, suffixes⟩ := ahead_of_kinds kindsComing
    rw [Fails, parseStmt_of_name ahead, declaration.opensDeclaration_eq coming, missed]
    apply fails_of_barsName ahead
    rw [suffixes]
    exact barsName_suffixes (.name behind) (.name behind) declaration.type based

/-- The declaration `x = y` with a type in front of it, if its tokens stand nowhere. -/
def placelessDeclaration (type : Ty) : WrittenDeclaration where
  type
  written := type.pieces.map (Piece.token fun _ => "")
  name := placeless .identifier "x"
  sign := placeless .assignment "="
  value := [placeless .identifier "y"]
  stop := placeless .semicolon ";"
  spelled := by simp [Function.comp_def]
  isName := rfl
  isSign := rfl
  isStop := rfl

def inFrontOfDeclaration (type : Ty) : ParserState :=
  { placelessEnd ParserState.firstId with upcoming := (placelessDeclaration type).tokens }

/-- Arrays of maps whose keys are sets of a template. -/
def keyedBySets : Ty :=
  .array (.map (.set (.named "M")) (.named "N"))

/-- Maps whose keys are `null`. -/
def keyedByNull : Ty :=
  .map .null (.named "N")

theorem keyedBySets_declared :
    parseStmt (inFrontOfDeclaration keyedBySets) =
        .ok (.varDecl Position.unknown ParserState.firstId "x" keyedBySets (.identifier "y"))
          (placelessEnd (ParserState.firstId + 1)) ∧
      Fails parseStmt (inFrontOfDeclaration keyedByNull) := by
  constructor
  · obtain ⟨between, returned⟩ : ∃ between,
        parseType .lowest (inFrontOfDeclaration keyedBySets) = .ok keyedBySets between := ⟨_, rfl⟩
    have coming : (inFrontOfDeclaration keyedBySets).upcoming =
        (placelessDeclaration keyedBySets).tokens ++ [] := rfl
    have readings :=
      named_declaration_read (placelessDeclaration keyedBySets) returned rfl coming rfl rfl
    exact readings.1 rfl
  · obtain ⟨between, returned⟩ : ∃ between,
        parseType .lowest (inFrontOfDeclaration keyedByNull) = .ok keyedByNull between := ⟨_, rfl⟩
    have coming : (inFrontOfDeclaration keyedByNull).upcoming =
        (placelessDeclaration keyedByNull).tokens ++ [] := rfl
    have readings :=
      named_declaration_read (placelessDeclaration keyedByNull) returned rfl coming rfl rfl
    exact readings.2 rfl

/-- A type whose keys are `null` is read as a type, and no declaration starts with it. -/
theorem keyedByNull_undeclared :
    ¬ ∀ (declaration : WrittenDeclaration) template before between (state : ParserState) after rest
      initializer, parseType .lowest before = .ok declaration.type between →
        declaration.type.innermost = .named template →
        state.upcoming = declaration.tokens ++ rest →
        parseExpr .lowest { state with upcoming := declaration.value ++ declaration.stop :: rest } =
          .ok initializer after →
        after.upcoming = declaration.stop :: rest →
        parseStmt state = .ok (.varDecl state.current.start after.nextId declaration.name.value
          declaration.type initializer)
            { after with upcoming := rest, nextId := after.nextId + 1 } := by
  intro declared
  obtain ⟨between, returned⟩ : ∃ between,
      parseType .lowest (inFrontOfDeclaration keyedByNull) = .ok keyedByNull between := ⟨_, rfl⟩
  have found := declared (placelessDeclaration keyedByNull) "N" _ between
    (inFrontOfDeclaration keyedByNull) _ [] _ returned rfl rfl rfl rfl
  obtain ⟨diagnostic, stopped, failed⟩ : ∃ diagnostic stopped,
      parseStmt (inFrontOfDeclaration keyedByNull) = .error diagnostic stopped := ⟨_, _, rfl⟩
  rw [found] at failed
  contradiction

end ScriptCheck
