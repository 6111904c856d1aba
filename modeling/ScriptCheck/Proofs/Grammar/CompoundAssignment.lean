import ScriptCheck.Proofs.Grammar.Segments

/-!
# Compound assignments

An operator in front of an equals sign puts the target into the value: `t += e` is read like
`t = t + (e)`. The target is read once in the first way of writing and twice in the second one, so
the declarations in it are numbered once or twice.

What a target is read as does not hang on the operator behind it. It ends with a name or a bracket,
and no operator joins those; all of it before that is read with tokens of the target still to come.
So in both ways of writing the loop over what goes on with an expression gets to the target, and the
operator is next.
-/

namespace ScriptCheck

/-- A form that ends with a token of its own, and not with an operand. -/
def ExprTail.isClosed : ExprTail → Bool
  | .assignment | .binary => false
  | .trailingOperator | .call | .index | .member => true

/-- A kind of token between two operands. -/
def Kind.isOperator (kind : Kind) : Bool :=
  kind.exprTail?.any fun tail => !tail.1.isClosed

theorem Kind.joinsOperand_of_isOperator {kind : Kind} (isOperator : kind.isOperator = true) :
    kind.joinsOperand = false := by
  cases kind <;> first | rfl | contradiction

theorem Kind.isOperator_of_form {kind : Kind} {form : ExprTail} {power : Power}
    (found : kind.exprTail? = some (form, power)) (hasOperand : form.isClosed = false) :
    kind.isOperator = true := by
  rw [Kind.isOperator, found, Option.any_some, hasOperand]
  rfl

namespace Parser

section Targets

variable {sequel : Sequel} {first second after : ParserState} {left target : Expr}

theorem followsInside_whole : FollowsInside sequel false whole whole where
  expr power := follows_parseExpr power nofun
  stmt := follows_parseStmt
  ends := nofun

/-- Behind a name or a bracket, nothing else than what joins it is looked for. -/
theorem follows_operand (leaves : LeavesOperand sequel true) :
    FollowsExpr sequel true (fun kind => kind.exprStart? ≠ some .leadingOperator) (exprStart whole)
      (exprStart whole) := by
  refine follows_kind (fun kind notLeading => ?_) (.inr rfl)
  cases starts : kind.exprStart? with
  | none => exact follows_unexpected
  | some form =>
      cases form with
      | literal => exact follows_literalExpr
      | identifier => exact follows_identifierExpr followsInside_whole leaves
      | leadingOperator => exact absurd starts notLeading
      | grouping => exact follows_groupingExpr followsInside_whole
      | array => exact follows_arrayExpr followsInside_whole leaves
      | setOrMap => exact follows_setOrMapExpr followsInside_whole
      | function => exact follows_functionExpr followsInside_whole

theorem follows_closedTail (leaves : LeavesOperand sequel true) (left : Expr) :
    FollowsExpr sequel true (fun kind => ∀ tail ∈ kind.exprTail?, tail.1.isClosed = true)
      (exprTail whole left) (exprTail whole (left.shifted sequel.shift)) := by
  refine follows_kind (fun kind isClosed => ?_) (.inr rfl)
  cases continues : kind.exprTail? with
  | none => exact follows_unexpected
  | some tail =>
      rcases tail with ⟨form, power⟩
      cases form with
      | assignment | binary => exact absurd (isClosed _ continues) Bool.false_ne_true
      | trailingOperator => exact follows_trailingExpr left
      | call => exact follows_callExpr followsInside_whole left
      | index => exact follows_indexExpr followsInside_whole left
      | member => exact follows_memberExpr followsInside_whole left leaves

/-- An expression that starts with an operator is no target. -/
theorem not_leadingOperator (ran : exprStart whole first = .ok target after)
    (isTarget : target.isAssignmentTarget = true) :
    (Kind.ahead first.upcoming).exprStart? ≠ some .leadingOperator := by
  intro leading
  have yields : Yields (fun expr => expr.isAssignmentTarget = false) (leadingExpr whole) := by
    refine yields_next fun kind => ?_
    cases kind.leadingOp? with
    | none => exact yields_unexpected
    | some operator => exact yields_next fun _ => yields_next fun _ => yields_pure rfl
  rw [exprStart, bind_of_ok (kind_apply first), leading] at ran
  exact Bool.false_ne_true ((yields _ _ _ ran).symm.trans isTarget)

/-- An expression that ends with the operand of an operator is no target. -/
theorem isClosed_of_target (ran : exprTail whole left first = .ok target after)
    (isTarget : target.isAssignmentTarget = true) :
    ∀ tail ∈ (Kind.ahead first.upcoming).exprTail?, tail.1.isClosed = true := by
  rintro ⟨form, power⟩ continues
  rw [exprTail, bind_of_ok (kind_apply first), Option.mem_def.mp continues] at ran
  cases form with
  | assignment =>
      have yields : Yields (fun expr => expr.isAssignmentTarget = false)
          (assignmentExpr whole left) := by
        refine yields_next fun operator => ?_
        split
        · exact yields_next fun right => yields_next fun value => yields_pure rfl
        · exact yields_failAt
      exact absurd ((yields _ _ _ ran).symm.trans isTarget) Bool.false_ne_true
  | binary =>
      have yields : Yields (fun expr => expr.isAssignmentTarget = false)
          (binaryExpr whole left power) := by
        refine yields_next fun kind => ?_
        cases kind.binaryOp? with
        | none => exact yields_unexpected
        | some operator => exact yields_next fun _ => yields_next fun _ => yields_pure rfl
      exact absurd ((yields _ _ _ ran).symm.trans isTarget) Bool.false_ne_true
  | trailingOperator | call | index | member => rfl

/-- Where a round of a run that comes to a target ends, more tokens are to come, or the target has
been read. -/
theorem round_goesOn {between : ParserState} {longer : Expr}
    (related : sequel.Extends first second) (leaves : LeavesOperand sequel true)
    (ran : exprTail whole left first = .ok longer between)
    (isTarget : between.upcoming = [] → longer.isAssignmentTarget = true) :
    ∃ later, exprTail whole (left.shifted sequel.shift) second =
      .ok (longer.shifted sequel.shift) later ∧ sequel.Extends between later := by
  by_cases none : between.upcoming = []
  · have closed := (follows_closedTail leaves left).of_ok related
      (isClosed_of_target ran (isTarget none)) ran
    exact closed.2.2 (.inr (.inl rfl))
  · have follows : FollowsExpr sequel false anywhere (exprTail whole left)
        (exprTail whole (left.shifted sequel.shift)) := follows_exprTail followsInside_whole left
    exact (follows.of_ok related trivial ran).2.2 (.inr (.inr none))

/-- The loop comes to a target at the end of the list, and goes on from there where more tokens come
behind. -/
theorem tails_reach_target {power : Power} (leaves : LeavesOperand sequel true)
    (isTarget : target.isAssignmentTarget = true) (related : sequel.Extends first second)
    (ran : tailsFrom power left first = .ok target after) :
    ∃ later, tailsFrom power (left.shifted sequel.shift) second =
      tailsFrom power (target.shifted sequel.shift) later ∧ sequel.Extends after later := by
  obtain ⟨count, -, rounds⟩ := loopEnds_exprTail power left first
  have loop : repeatWhile (Kind.continuesExpr power) (exprTail whole) left first =
    .ok target after := ran
  rw [loop] at rounds
  clear ran loop
  generalize same : EStateM.Result.ok target after = result at rounds
  induction rounds generalizing second with
  | stop _ =>
      rcases EStateM.Result.ok.inj same with ⟨rfl, rfl⟩
      exact ⟨second, rfl, related⟩
  | fail _ _ => contradiction
  | @round count left longer first between result goesOn ranRound rounds ih =>
      subst same
      have some : first.upcoming ≠ [] := by
        intro none
        rw [none] at goesOn
        contradiction
      have ends (none : between.upcoming = []) : longer.isAssignmentTarget = true := by
        cases rounds with
        | stop _ => exact isTarget
        | round again _ _ =>
            rw [none] at again
            contradiction
      rcases round_goesOn related leaves ranRound ends with ⟨middle, ranAgain, relatedNext⟩
      rcases ih relatedNext rfl with ⟨later, loop, relatedLast⟩
      refine ⟨later, ?_, relatedLast⟩
      have ahead : Kind.continuesExpr power (Kind.ahead second.upcoming) = true := by
        rw [← second.kind_current, related.current (.inr some), first.kind_current]
        exact goesOn
      rw [tailsFrom, (loopEnds_exprTail power).unroll, if_pos ahead, bind_of_ok ranAgain]
      exact loop

/-- An expression that is a target by itself is read up to its end, and the loop goes on from
there. -/
theorem parseExpr_reaches_target {power : Power} (leaves : LeavesOperand sequel true)
    (isTarget : target.isAssignmentTarget = true) (related : sequel.Extends first second)
    (ran : parseExpr power first = .ok target after) :
    ∃ later, parseExpr power second = tailsFrom power (target.shifted sequel.shift) later ∧
      sequel.Extends after later := by
  rw [parseExpr_eq] at ran ⊢
  rcases ok_of_bind_eq_ok ran with ⟨left, between, ranStart, ranLoop⟩
  have start : ∃ middle, exprStart whole second = .ok (left.shifted sequel.shift) middle ∧
      sequel.Extends between middle := by
    by_cases none : between.upcoming = []
    · have alone : tailsFrom power left between = .ok left between := by
        rw [tailsFrom, (loopEnds_exprTail power).unroll, none]
        rfl
      rw [alone] at ranLoop
      rcases EStateM.Result.ok.inj ranLoop with ⟨rfl, rfl⟩
      have closed := (follows_operand leaves).of_ok related
        (not_leadingOperator ranStart isTarget) ranStart
      exact closed.2.2 (.inr (.inl rfl))
    · have follows : FollowsExpr sequel false anywhere (exprStart whole) (exprStart whole) :=
        follows_exprStart followsInside_whole
      exact (follows.of_ok related trivial ranStart).2.2 (.inr (.inr none))
  rcases start with ⟨middle, ranAgain, relatedNext⟩
  rw [bind_of_ok ranAgain]
  exact tails_reach_target leaves isTarget relatedNext ranLoop

end Targets

/-- The tokens are read as a target of assignments, up to the last one. -/
def IsTarget (tokens : List Token) : Prop :=
  ∃ target, ReadAs tokens target ∧ target.isAssignmentTarget = true

/-- A sign that stands for an operator and an assignment, with the sign of the operator alone. -/
inductive Compound : BinaryOp → Kind → Kind → Prop
  | add : Compound .add .plusEquals .plus
  | subtract : Compound .subtract .minusEquals .dash
  | multiply : Compound .multiply .starEquals .star
  | divide : Compound .divide .slashEquals .slash

/-- A target, a compound sign and a value. -/
inductive CompoundAssignment (operator : BinaryOp) (target value : List Token) : List Token → Prop
  | mk {sign : Token} {plain : Kind} (compound : Compound operator sign.kind plain) :
      CompoundAssignment operator target value (target ++ sign :: value)

/-- A target to which itself, an operator and a value between parentheses are assigned. -/
inductive ExpandedAssignment (operator : BinaryOp) (target value : List Token) : List Token → Prop
  | mk {equals sign opens closes : Token} {compound : Kind} (isEquals : equals.kind = .assignment)
      (plain : Compound operator compound sign.kind) (isOpen : opens.kind = .openParen)
      (isClose : closes.kind = .closeParen) : ExpandedAssignment operator target value
        (target ++ equals :: (target ++ sign :: opens :: (value ++ [closes])))

variable {first last : Nat} {tokens value : List Token} {left right assigned : Expr}

/-- In front of an operator, the loop over what goes on with an expression gets to the target. -/
theorem IsTarget.takes (isTarget : IsTarget tokens) (first : Nat) :
    ∃ target count, Expr.isAssignmentTarget target = true ∧
      ∀ ahead {sign : Token} {back : List Token} {ends : Kind → Prop} {expr : Expr} {last : Nat},
        sign.kind.isOperator = true →
        Takes (tailsFrom .lowest (target.shifted ahead)) ends (first + ahead + count)
          (sign :: back) expr last →
        Takes (parseExpr .lowest) ends (first + ahead) (tokens ++ sign :: back) expr last := by
  rcases isTarget with ⟨written, ⟨alone, after, coming, ran, consumed⟩, isTarget⟩
  rcases parseExpr_renumbered ran first with
    ⟨target, stopped, ranFirst, consumedFirst, counted, same⟩
  refine ⟨target, stopped.nextId - first, same.trans isTarget, ?_⟩
  intro ahead sign back ends expr last isOperator takes state rest upcoming counter ended
  have noElse : Kind.ahead (sign :: back ++ rest) ≠ .elseWord := by
    intro (isElse : sign.kind = .elseWord)
    rw [isElse] at isOperator
    contradiction
  let sequel : Sequel := ⟨sign :: back ++ rest, ahead, noElse⟩
  have leaves : LeavesOperand sequel true := fun _ => Kind.joinsOperand_of_isOperator isOperator
  have related : sequel.Extends { alone with nextId := first } state := by
    refine ⟨?_, counter, nofun⟩
    rw [upcoming, coming, List.append_assoc]
  rcases parseExpr_reaches_target leaves (same.trans isTarget) related ranFirst with
    ⟨later, reached, relatedLast⟩
  have left : later.upcoming = sign :: back ++ rest := by
    rw [relatedLast.upcoming, consumedFirst, consumed]
    rfl
  have numbered : later.nextId = stopped.nextId + ahead := relatedLast.nextId
  rw [reached]
  exact takes later rest left (by omega) ended

/-- At both powers, an expression takes the same. -/
theorem parseExpr_comma : parseExpr .comma = parseExpr .lowest := by
  have same : Kind.continuesExpr .comma = Kind.continuesExpr .lowest := by
    funext kind
    cases kind <;> rfl
  rw [parseExpr_eq, parseExpr_eq, tailsFrom, tailsFrom, same]

/-- An assignment is read as soon as its value is. -/
theorem takes_assignment {sign : Token} (isTarget : left.isAssignmentTarget = true)
    (assigns : sign.kind.exprTail? = some (.assignment, .assignment))
    (combined : assignedValue sign left right = pure assigned)
    (takes : Takes (parseExpr .lowest) EndsExpr first tokens right last) :
    Takes (tailsFrom .lowest left) EndsExpr first (sign :: tokens) (.assignment left assigned)
      last := by
  have continues : sign.kind.continuesExpr .lowest = true := by
    rw [Kind.continuesExpr, assigns]
    rfl
  refine takes_lastTail continues (takes_kind_of_cons rfl ?_)
    fun _ => Kind.continuesExpr_of_endsExpr _
  rw [assigns]
  refine takes_advance ?_
  rw [if_pos isTarget]
  have takesValue : Takes (parseExpr .comma) EndsExpr first tokens right last := by
    rwa [parseExpr_comma]
  refine takesValue.finish ?_
  rw [combined, pure_bind]
  exact takes_pure _

/-- A value between parentheses is an operand of any operator. -/
theorem takes_grouping {opens closes : Token} (isOpen : opens.kind = .openParen)
    (isClose : closes.kind = .closeParen)
    (takes : Takes (parseExpr .lowest) EndsExpr first value right last) (power : Power) :
    Takes (parseExpr power) EndsExpr first (opens :: (value ++ [closes])) right last := by
  have group : Takes (groupingExpr whole) EndsExpr first (opens :: (value ++ [closes])) right
      last := by
    refine takes_expect isOpen (takes.bind (fun rest _ => ?_) (takes_close isClose right))
    show EndsExpr closes.kind
    rw [isClose]
    rfl
  rw [parseExpr_eq]
  exact Takes.ended (takes_kind_of_cons isOpen group) fun _ => Kind.continuesExpr_of_endsExpr power

/-- An operation is read as soon as its right operand is. -/
theorem takes_binary {sign : Token} {operator : BinaryOp} {power : Power}
    (form : sign.kind.exprTail? = some (.binary, power))
    (stands : sign.kind.binaryOp? = some operator) (some : Power.lowest.rank < power.rank)
    (takes : Takes (parseExpr power) EndsExpr first tokens right last) :
    Takes (tailsFrom .lowest left) EndsExpr first (sign :: tokens) (.binary operator left right)
      last := by
  have continues : sign.kind.continuesExpr .lowest = true := by
    rw [Kind.continuesExpr, form]
    exact decide_eq_true some
  refine takes_lastTail continues (takes_kind_of_cons rfl ?_)
    fun _ => Kind.continuesExpr_of_endsExpr _
  rw [form]
  refine takes_kind_of_cons rfl ?_
  rw [stands]
  exact takes_advance takes.map

/-- The value of a compound assignment is the operation, and the value of a plain one is what stands
there. -/
theorem assignedValue_of_compound {sign : Token} {operator : BinaryOp} {plain : Kind}
    (compound : Compound operator sign.kind plain) (left right : Expr) :
    assignedValue sign left right = pure (.binary operator left right) := by
  rcases sign with ⟨kind, text, start, stop⟩
  cases compound <;> rfl

theorem exprTail?_of_compound {operator : BinaryOp} {compound plain : Kind}
    (signs : Compound operator compound plain) :
    compound.exprTail? = some (.assignment, .assignment) ∧
      (∃ power, plain.exprTail? = some (.binary, power) ∧ Power.lowest.rank < power.rank) ∧
      plain.binaryOp? = some operator := by
  cases signs <;> exact ⟨rfl, ⟨_, rfl, by decide⟩, rfl⟩

/-- Both ways of writing an assignment are read as the same operation on the target. -/
theorem takes_compound {operator : BinaryOp} {target compound expanded : List Token}
    (short : CompoundAssignment operator target value compound)
    (long : ExpandedAssignment operator target value expanded) (isTarget : IsTarget target)
    (isExpr : IsExpression value) (first : Nat) :
    ∃ place operand count last lastAgain,
      Takes (parseExpr .lowest) EndsExpr first compound
        (.assignment place (.binary operator place operand)) last ∧
      Takes (parseExpr .lowest) EndsExpr first expanded
        (.assignment place (.binary operator (place.shifted count) (operand.shifted count)))
        lastAgain := by
  rcases isTarget.takes first with ⟨place, count, isPlace, reaches⟩
  rcases isExpr.denotes (first + count) with ⟨operand, more, denotes⟩
  have reachesFirst := @reaches 0
  rw [Expr.shifted_zero, Nat.add_zero] at reachesFirst
  have denotesFirst := denotes 0
  rw [Expr.shifted_zero, Nat.add_zero] at denotesFirst
  refine ⟨place, operand, count, first + count + more, first + count + count + more, ?_, ?_⟩
  · rcases short with ⟨signs⟩
    rcases exprTail?_of_compound signs with ⟨assigns, -, -⟩
    apply reachesFirst (Kind.isOperator_of_form assigns rfl)
    exact takes_assignment isPlace assigns (assignedValue_of_compound signs _ _) denotesFirst.takes
  · rcases long with ⟨isEquals, signs, isOpen, isClose⟩
    rename_i equals sign opens closes other
    rcases exprTail?_of_compound signs with ⟨-, ⟨power, form, tighter⟩, stands⟩
    have assigns : equals.kind.exprTail? = some (.assignment, .assignment) := by
      rw [isEquals]
      rfl
    apply reachesFirst (Kind.isOperator_of_form assigns rfl)
    apply takes_assignment isPlace assigns (if_pos isEquals)
    -- The second target is read where the counter stands behind the first one.
    apply reaches count (Kind.isOperator_of_form form rfl)
    apply takes_binary form stands tighter
    exact takes_grouping isOpen isClose (denotes count).takes power

/-- A compound assignment is read as the plain one that it stands for. Only the declarations in the
target are found once more there, and those behind it have other numbers. -/
theorem compound_assignment_reads_as_expansion {operator : BinaryOp}
    {target value compound expanded : List Token}
    (short : CompoundAssignment operator target value compound)
    (long : ExpandedAssignment operator target value expanded) (isTarget : IsTarget target)
    (isExpr : IsExpression value) (state : ParserState) {behind : List Token}
    (ends : (Kind.ahead behind).endsExpr = true) :
    ∃ place operand count after afterAgain,
      parseExpr .lowest { state with upcoming := compound ++ behind } =
        .ok (.assignment place (.binary operator place operand)) after ∧
      parseExpr .lowest { state with upcoming := expanded ++ behind } =
        .ok (.assignment place (.binary operator (place.shifted count) (operand.shifted count)))
          afterAgain ∧
      after.upcoming = behind ∧ afterAgain.upcoming = behind := by
  rcases takes_compound short long isTarget isExpr state.nextId with
    ⟨place, operand, count, last, lastAgain, takesShort, takesLong⟩
  rcases takesShort { state with upcoming := compound ++ behind } behind rfl rfl ends with
    ⟨after, ran, consumed, -⟩
  rcases takesLong { state with upcoming := expanded ++ behind } behind rfl rfl ends with
    ⟨afterAgain, ranAgain, consumedAgain, -⟩
  exact ⟨place, operand, count, after, afterAgain, ran, ranAgain, consumed, consumedAgain⟩

/-- An element of what a function returns for a function without a name, which declares a
variable. -/
def declaringTarget : List Token :=
  countedTwiceTokens.take 17

/-- A value that is an assignment of a looser operation. -/
def looseValue : List Token :=
  [placeless .identifier "b", placeless .minusEquals "-=", placeless .identifier "c",
    placeless .or "or", placeless .identifier "d"]

def multipliedTokens : List Token :=
  declaringTarget ++ placeless .starEquals "*=" :: looseValue

def spelledOutTokens : List Token :=
  declaringTarget ++ placeless .assignment "=" :: (declaringTarget ++ placeless .star "*" ::
    placeless .openParen "(" :: (looseValue ++ [placeless .closeParen ")"]))

theorem multiplied_reads_as_spelledOut :
    CompoundAssignment .multiply declaringTarget looseValue multipliedTokens ∧
      ExpandedAssignment .multiply declaringTarget looseValue spelledOutTokens ∧
      IsTarget declaringTarget ∧ IsExpression looseValue ∧ Kind.semicolon.endsExpr = true ∧
      ∃ place operand count after afterAgain,
        parseExpr .lowest (placelessState (multipliedTokens ++ [placeless .semicolon ";"])) =
          .ok (.assignment place (.binary .multiply place operand)) after ∧
        parseExpr .lowest (placelessState (spelledOutTokens ++ [placeless .semicolon ";"])) =
          .ok (.assignment place (.binary .multiply (place.shifted count) (operand.shifted count)))
            afterAgain ∧
        after.upcoming = [placeless .semicolon ";"] ∧
        afterAgain.upcoming = [placeless .semicolon ";"] := by
  have short : CompoundAssignment .multiply declaringTarget looseValue multipliedTokens :=
    .mk .multiply
  have long : ExpandedAssignment .multiply declaringTarget looseValue spelledOutTokens :=
    .mk rfl .multiply rfl rfl
  have isTarget : IsTarget declaringTarget :=
    ⟨_, ⟨placelessState declaringTarget, _, rfl, rfl, rfl⟩, rfl⟩
  have isExpr : IsExpression looseValue := ⟨_, placelessState looseValue, _, rfl, rfl, rfl⟩
  exact ⟨short, long, isTarget, isExpr, rfl,
    compound_assignment_reads_as_expansion short long isTarget isExpr (placelessState []) rfl⟩

end Parser

end ScriptCheck
