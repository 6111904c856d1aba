import ScriptCheck.Proofs.Grammar.Lookahead

/-!
# Segments of tokens

Tokens that are an expression on their own, up to the last one, are that expression wherever they
stand in front of a token that ends expressions: between brackets, between commas, and at the end of
a statement. Only the declarations inside are numbered from where the counter stands. `Takes` says
what a parser makes of tokens there, and `Denotes` says it of expressions.
-/

namespace ScriptCheck

theorem Kind.exprStart?_of_endsExpr {kind : Kind} (ended : kind.endsExpr = true) :
    kind.exprStart? = none := by
  cases kind <;> first | rfl | contradiction

namespace Parser

variable {α β : Type}

/-- Where the tokens come with the counter at `first`, and one of some kinds behind them, the parser
passes them, finds the value and leaves the counter at `last`. -/
def Takes (parser : Parser α) (ends : Kind → Prop) (first : Nat) (tokens : List Token) (value : α)
    (last : Nat) : Prop :=
  ∀ state rest, ParserState.upcoming state = tokens ++ rest → state.nextId = first →
    ends (Kind.ahead rest) →
      ∃ after, parser state = .ok value after ∧ after.upcoming = rest ∧ after.nextId = last

/-- The tokens are read as the expression, up to the last one. -/
def ReadAs (tokens : List Token) (expr : Expr) : Prop :=
  ∃ state after, ParserState.upcoming state = tokens ∧
    parseExpr .lowest state = .ok expr after ∧ after.upcoming = []

def IsExpression (tokens : List Token) : Prop :=
  ∃ expr, ReadAs tokens expr

/-- A kind of token that ends expressions. -/
abbrev EndsExpr (kind : Kind) : Prop :=
  kind.endsExpr = true

/-- Within a form, the tokens are an expression. -/
structure Denotes (first : Nat) (tokens : List Token) (expr : Expr) (last : Nat) : Prop where
  starts : (Kind.ahead tokens).exprStart?.isSome = true
  takes : Takes (parseExpr .lowest) EndsExpr first tokens expr last

/-- The state in front of some tokens, if they stand nowhere. -/
def placelessState (tokens : List Token) : ParserState :=
  { placelessEnd ParserState.firstId with upcoming := tokens }

section Combinators

variable {parser again : Parser α} {next : α → Parser β} {ends between : Kind → Prop}
variable {first middle last : Nat} {front back tokens : List Token} {value : α} {result : β}

theorem Takes.narrow (takes : Takes parser between first tokens value last)
    (narrower : ∀ kind, ends kind → between kind) : Takes parser ends first tokens value last :=
  fun state rest coming counter ended => takes state rest coming counter (narrower _ ended)

theorem takes_pure (value : α) : Takes (pure value) ends first [] value first :=
  fun state _ coming counter _ => ⟨state, rfl, coming, counter⟩

/-- One parser after another. The first kind behind the first tokens has to end them. -/
theorem Takes.bind (takes : Takes parser between first front value middle)
    (fits : ∀ rest, ends (Kind.ahead rest) → between (Kind.ahead (back ++ rest)))
    (takesNext : Takes (next value) ends middle back result last) :
    Takes (parser >>= next) ends first (front ++ back) result last := by
  intro state rest coming counter ended
  rw [List.append_assoc] at coming
  rcases takes state _ coming counter (fits rest ended) with ⟨passed, ran, left, counted⟩
  rw [bind_of_ok ran]
  exact takesNext passed rest left counted ended

/-- The next parser takes nothing more. -/
theorem Takes.finish (takes : Takes parser ends first tokens value middle)
    (takesNext : Takes (next value) ends middle [] result last) :
    Takes (parser >>= next) ends first tokens result last := by
  have both : Takes (parser >>= next) ends first (tokens ++ []) result last :=
    takes.bind (fun _ ended => ended) takesNext
  rwa [List.append_nil] at both

theorem Takes.map {change : α → β} (takes : Takes parser ends first tokens value last) :
    Takes (parser >>= fun value => pure (change value)) ends first tokens (change value) last :=
  takes.finish (takes_pure _)

/-- A decision by the kind of the token that comes first, which may be behind the tokens. -/
theorem takes_kind {next : Kind → Parser α}
    (same : ∀ rest, ends (Kind.ahead rest) → next (Kind.ahead (tokens ++ rest)) = again)
    (takes : Takes again ends first tokens value last) :
    Takes (kind >>= next) ends first tokens value last := by
  intro state rest coming counter ended
  rw [bind_of_ok (kind_apply state), coming, same rest ended]
  exact takes state rest coming counter ended

theorem takes_kind_of_cons {next : Kind → Parser α} {token : Token} {expected : Kind}
    (same : token.kind = expected)
    (takes : Takes (next expected) ends first (token :: tokens) value last) :
    Takes (kind >>= next) ends first (token :: tokens) value last :=
  takes_kind (fun _ _ => congrArg next same) takes

theorem takes_advance {next : Token → Parser α} {token : Token}
    (takes : Takes (next token) ends first tokens value last) :
    Takes (advance >>= next) ends first (token :: tokens) value last := by
  intro state rest coming counter ended
  have passed : advance state = .ok token { state with upcoming := tokens ++ rest } := by
    rw [advance_apply, ParserState.current_of_cons coming, ParserState.tail, coming]
    rfl
  rw [bind_of_ok passed]
  exact takes _ rest rfl counter ended

theorem takes_expect {next : Token → Parser α} {expected : Kind} {token : Token}
    (same : token.kind = expected) (takes : Takes (next token) ends first tokens value last) :
    Takes (expect expected >>= next) ends first (token :: tokens) value last := by
  intro state rest coming counter ended
  rw [bind_of_ok (expect_of_cons coming same)]
  exact takes _ rest rfl counter ended

theorem takes_identifier {next : String → Parser α} {token : Token}
    (isName : token.kind = .identifier)
    (takes : Takes (next token.value) ends first tokens value last) :
    Takes (identifier >>= next) ends first (token :: tokens) value last := by
  rw [identifier, bind_assoc]
  exact takes_expect isName takes

/-- A closing token is passed, and nothing else is done. -/
theorem takes_close {expected : Kind} {token : Token} (same : token.kind = expected) (value : α) :
    Takes (expect expected >>= fun _ => pure value) ends first [token] value first :=
  takes_expect same (takes_pure value)

section Loops

variable {goesOn : Kind → Bool} {step : α → Parser α} {found : α}

theorem takes_stop (loop : LoopEnds goesOn step)
    (stops : ∀ kind, ends kind → goesOn kind = false) :
    Takes (repeatWhile goesOn step value) ends first [] value first := by
  intro state rest coming counter ended
  have ahead : goesOn (Kind.ahead state.upcoming) = false := by
    rw [coming]
    exact stops _ ended
  rw [loop.unroll, if_neg (Bool.eq_false_iff.mp ahead)]
  exact ⟨state, rfl, coming, counter⟩

theorem takes_round {token : Token} (loop : LoopEnds goesOn step)
    (continues : goesOn token.kind = true)
    (takes : Takes (step value >>= repeatWhile goesOn step) ends first (token :: tokens) found
      last) :
    Takes (repeatWhile goesOn step value) ends first (token :: tokens) found last := by
  intro state rest coming counter ended
  have ahead : goesOn (Kind.ahead state.upcoming) = true := by
    rw [coming]
    exact continues
  rw [loop.unroll, if_pos ahead]
  exact takes state rest coming counter ended

end Loops

end Combinators

section Expressions

variable {ends : Kind → Prop} {first middle last : Nat} {tokens listed : List Token} {expr : Expr}
variable {value : Expr} {values : List Expr} {items : List (List Token)}

/-- No expression is read where none starts. -/
theorem exprStart?_isSome {power : Power} {state after : ParserState}
    (ran : parseExpr power state = .ok expr after) :
    (Kind.ahead state.upcoming).exprStart?.isSome = true := by
  rw [Option.isSome_iff_ne_none]
  intro none
  rcases fails_parseExpr none with ⟨diagnostic, stopped, failed⟩
  rw [ran] at failed
  contradiction

/-- Where the counter stands makes a difference to the numbers of declarations only. -/
theorem parseExpr_renumbered {counted after : ParserState}
    (ran : parseExpr .lowest counted = .ok expr after) (first : Nat) :
    ∃ again last, parseExpr .lowest { counted with nextId := first } = .ok again last ∧
      last.upcoming = after.upcoming ∧ first ≤ last.nextId ∧
      again.isAssignmentTarget = expr.isAssignmentTarget := by
  -- Numbers only grow in a longer run, so both runs are compared with the one from zero.
  have follows {shift : Nat} : FollowsExpr ⟨[], shift, nofun⟩ false anywhere (parseExpr .lowest)
      (parseExpr .lowest) := follows_parseExpr .lowest nofun
  have related (shift : Nat) : Sequel.Extends ⟨[], shift, nofun⟩ { counted with nextId := 0 }
      { counted with nextId := shift } :=
    ⟨(List.append_nil _).symm, (Nat.zero_add _).symm, fun _ => rfl⟩
  cases alone : parseExpr .lowest { counted with nextId := 0 } with
  | error diagnostic stopped =>
      rcases follows.of_error (related counted.nextId) trivial alone rfl with ⟨later, failed⟩
      rw [ran] at failed
      contradiction
  | ok base stopped =>
      have goesOn (shift : Nat) := (follows.of_ok (related shift) trivial alone).2.2 (.inl rfl)
      rcases goesOn counted.nextId with ⟨later, ranAgain, relatedLater⟩
      rcases goesOn first with ⟨last, ranFirst, relatedLast⟩
      rw [ran] at ranAgain
      rcases EStateM.Result.ok.inj ranAgain with ⟨rfl, rfl⟩
      refine ⟨_, last, ranFirst, ?_, ?_, ?_⟩
      · rw [relatedLast.upcoming, relatedLater.upcoming]
      · rw [relatedLast.nextId]
        exact Nat.le_add_left _ _
      · rw [Expr.isAssignmentTarget_shifted, Expr.isAssignmentTarget_shifted]

/-- An expression on its own is one within a form. Declarations are numbered further where the
counter is ahead. -/
theorem IsExpression.denotes (isExpr : IsExpression tokens) (first : Nat) :
    ∃ base count, ∀ ahead,
      Denotes (first + ahead) tokens (Expr.shifted ahead base) (first + ahead + count) := by
  rcases isExpr with ⟨expr, alone, after, coming, ran, consumed⟩
  rcases parseExpr_renumbered ran first with
    ⟨base, last, ranFirst, consumedFirst, counted, -⟩
  rw [consumed] at consumedFirst
  refine ⟨base, last.nextId - first, fun ahead => ⟨?_, ?_⟩⟩
  · rw [← coming]
    exact exprStart?_isSome ran
  · intro state rest upcoming counter ended
    have noElse : Kind.ahead rest ≠ .elseWord := by
      intro same
      rw [same] at ended
      contradiction
    let sequel : Sequel := ⟨rest, ahead, noElse⟩
    have related : sequel.Extends { alone with nextId := first } state := by
      refine ⟨by rw [upcoming, coming], counter, ?_⟩
      intro (empty : rest = [])
      rw [empty] at ended
      contradiction
    have follows : FollowsExpr sequel true anywhere (parseExpr .lowest) (parseExpr .lowest) :=
      follows_parseExpr .lowest fun _ => ended
    rcases (follows.of_ok related trivial ranFirst).2.2 (.inr (.inl rfl)) with
      ⟨later, ranAgain, relatedLast⟩
    refine ⟨later, ranAgain, ?_, ?_⟩
    · rw [relatedLast.upcoming, consumedFirst]
      rfl
    · have numbered : later.nextId = last.nextId + ahead := relatedLast.nextId
      omega

/-- The loop over what goes on with an operand. -/
abbrev tailsFrom (power : Power) : Expr → Parser Expr :=
  repeatWhile (Kind.continuesExpr power) (exprTail whole)

theorem parseExpr_eq (power : Power) :
    parseExpr power = exprStart whole >>= tailsFrom power :=
  (exprForm_whole power).symm

/-- An expression ends where nothing goes on with it. -/
theorem Takes.ended {parser : Parser Expr} {power : Power}
    (takes : Takes parser ends first tokens value last)
    (stops : ∀ kind, ends kind → kind.continuesExpr power = false) :
    Takes (parser >>= tailsFrom power) ends first tokens value last :=
  takes.finish (takes_stop (loopEnds_exprTail power) stops)

/-- A token that goes on with an expression, and the last one that does. -/
theorem takes_lastTail {power : Power} {token : Token} {left : Expr}
    (continues : token.kind.continuesExpr power = true)
    (takes : Takes (exprTail whole left) ends first (token :: tokens) value last)
    (stops : ∀ kind, ends kind → kind.continuesExpr power = false) :
    Takes (tailsFrom power left) ends first (token :: tokens) value last :=
  takes_round (loopEnds_exprTail power) continues (takes.ended stops)

/-! ### Lists of expressions -/

/-- Tokens of items with commas between them. -/
inductive Separated : List (List Token) → List Token → Prop
  | none : Separated [] []
  | single (item : List Token) : Separated [item] item
  | more {comma : Token} {next tokens : List Token} {items : List (List Token)}
      (item : List Token) (isComma : comma.kind = .comma)
      (separated : Separated (next :: items) tokens) :
      Separated (item :: next :: items) (item ++ comma :: tokens)

/-- Within a form, the items are expressions, one behind the other. -/
inductive DenotesEach : Nat → List (List Token) → List Expr → Nat → Prop
  | nil (first : Nat) : DenotesEach first [] [] first
  | cons {first middle last : Nat} {item : List Token} {items : List (List Token)} {value : Expr}
      {values : List Expr} (denotes : Denotes first item value middle)
      (rest : DenotesEach middle items values last) :
      DenotesEach first (item :: items) (value :: values) last

theorem DenotesEach.append {others : List (List Token)} {more : List Expr}
    (denotes : DenotesEach first items values middle)
    (rest : DenotesEach middle others more last) :
    DenotesEach first (items ++ others) (values ++ more) last := by
  induction denotes with
  | nil _ => exact rest
  | cons one _ ih => exact .cons one (ih rest)

theorem denotesEach_of_expressions (exprs : ∀ item ∈ items, IsExpression item) (first : Nat) :
    ∃ values last, DenotesEach first items values last := by
  induction items generalizing first with
  | nil => exact ⟨[], first, .nil first⟩
  | cons item items ih =>
      rcases List.forall_mem_cons.mp exprs with ⟨isExpr, others⟩
      rcases isExpr.denotes first with ⟨base, count, denotes⟩
      rcases ih others (first + count) with ⟨values, last, rest⟩
      exact ⟨_, last, .cons (denotes 0) rest⟩

/-- Another item passes its comma at least. -/
theorem moreItem_passes {state after : ParserState}
    (goesOn : decide (Kind.ahead state.upcoming = .comma) = true)
    (ran : (advance *> parseExpr .lowest) state = .ok expr after) :
    after.remaining < state.remaining := by
  let plain : Sequel := ⟨[], 0, nofun⟩
  have comma : Follows plain (· = .comma) true true (fun token => token) advance advance :=
    follows_advance (by simp)
  have expr : FollowsExpr plain false anywhere (parseExpr .lowest) (parseExpr .lowest) :=
    follows_parseExpr .lowest nofun
  have item : FollowsExpr plain false (· = .comma) (advance >>= fun _ => parseExpr .lowest)
      (advance >>= fun _ => parseExpr .lowest) := comma.then fun _ => expr.lax
  exact (item.passes (of_decide_eq_true goesOn) ran).2 rfl

/-- An item and the ones behind it. -/
abbrev someItems : Parser (List Expr) :=
  parseExpr .lowest >>= fun value => moreItems (parseExpr .lowest) >>= fun rest =>
    pure (value :: rest)

theorem takes_noItems (closes : ∀ kind, ends kind → kind ≠ .comma) :
    Takes (moreItems (parseExpr .lowest)) ends first [] [] first := by
  intro state rest coming counter ended
  have stops : decide (Kind.ahead state.upcoming = .comma) = false := by
    rw [coming]
    exact decide_eq_false (closes _ ended)
  exact ⟨state, collectWhile_stop stops, coming, counter⟩

theorem takes_moreItems {comma : Token} (isComma : comma.kind = .comma)
    (takes : Takes someItems ends first listed values last) :
    Takes (moreItems (parseExpr .lowest)) ends first (comma :: listed) values last := by
  have passed : Takes (advance >>= fun _ => someItems) ends first (comma :: listed) values last :=
    takes_advance takes
  intro state rest coming counter ended
  have goesOn : decide (Kind.ahead state.upcoming = .comma) = true := by
    rw [coming]
    exact decide_eq_true isComma
  have round : moreItems (parseExpr .lowest) state = (advance >>= fun _ => someItems) state :=
    collectWhile_again (fun _ _ _ goesOn ran => moreItem_passes goesOn ran) goesOn
  rw [round]
  exact passed state rest coming counter ended

theorem takes_someItems {close : Kind} (closes : close.endsExpr = true) (notComma : close ≠ .comma)
    (denotes : DenotesEach first items values last) (separated : Separated items listed)
    (some : items ≠ []) : Takes someItems (· = close) first listed values last := by
  induction separated generalizing first values with
  | none => contradiction
  | single item =>
      rcases denotes with _ | ⟨one, ⟨⟩⟩
      rename_i value
      have none : Takes (moreItems (parseExpr .lowest)) (· = close) last [] [] last := by
        apply takes_noItems
        rintro kind rfl
        exact notComma
      have alone : Takes (parseExpr .lowest) (· = close) first item value last := by
        refine one.takes.narrow ?_
        rintro kind rfl
        exact closes
      exact alone.finish none.map
  | more item isComma _ ih =>
      rcases denotes with _ | ⟨one, rest⟩
      refine one.takes.bind (fun rest _ => ?_) ?_
      · show EndsExpr (Token.kind _)
        rw [isComma]
        rfl
      · exact (takes_moreItems isComma (ih rest (List.cons_ne_nil _ _))).map

/-- The items start with an expression, if there are any. -/
theorem DenotesEach.starts (denotes : DenotesEach first items values last)
    (separated : Separated items listed) (some : items ≠ []) :
    (Kind.ahead listed).exprStart?.isSome = true := by
  cases separated with
  | none => contradiction
  | single item =>
      rcases denotes with _ | ⟨one, _⟩
      exact one.starts
  | more item isComma _ =>
      rcases denotes with _ | ⟨one, _⟩
      have starts := one.starts
      cases item with
      | nil => contradiction
      | cons token item => exact starts

/-- Items are read up to a token that closes them. -/
theorem takes_itemsUntil {close : Kind} (closes : close.endsExpr = true)
    (notComma : close ≠ .comma) (denotes : DenotesEach first items values last)
    (separated : Separated items listed) :
    Takes (itemsUntil close (parseExpr .lowest)) (· = close) first listed values last := by
  by_cases none : items = []
  · subst none
    cases denotes
    cases separated
    exact takes_kind (fun rest ended => if_pos ended) (takes_pure [])
  · have starts := denotes.starts separated none
    refine takes_kind (fun rest _ => ?_)
      (takes_someItems closes notComma denotes separated none)
    have ahead : Kind.ahead (listed ++ rest) = Kind.ahead listed := by
      cases listed with
      | nil => contradiction
      | cons token listed => rfl
    rw [ahead, if_neg]
    rintro rfl
    rw [Kind.exprStart?_of_endsExpr closes] at starts
    contradiction

/-- Arguments between their parentheses. -/
theorem takes_arguments {opens closes : Token} (isOpen : opens.kind = .openParen)
    (isClose : closes.kind = .closeParen) (denotes : DenotesEach first items values last)
    (separated : Separated items listed) :
    Takes (arguments whole) ends first (opens :: (listed ++ [closes])) values last := by
  refine takes_expect isOpen ?_
  refine (takes_itemsUntil rfl (by simp) denotes separated).bind (fun _ _ => isClose) ?_
  exact takes_close isClose values

end Expressions

end Parser

end ScriptCheck
