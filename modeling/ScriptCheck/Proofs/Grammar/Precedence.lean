import ScriptCheck.Proofs.Grammar.DeclarationIds
import ScriptCheck.Proofs.Grammar.Termination

/-!
# Precedence and associativity

A chain is a sequence of operands of one token each with operators between them. The parser reads a
chain into the one tree that is written like it and is grouped by the powers of its operators, from
the left where they are the same. A numeral that denotes no number is the only fault of a chain.

The loop of `exprForm` gives the rest of a chain to the operand behind an operator, with the power
of that operator, and gets back what starts with an operator that binds no tighter. `Climbs` says so
for any power, and for both results of a run.
-/

namespace ScriptCheck

/-- The kinds of literals and names. -/
def Kind.isAtom : Kind → Bool
  | integerLiteral | floatLiteral | stringLiteral | booleanLiteral | nullLiteral
  | identifier => true
  | _ => false

/-- The expression that a literal or a name is. A numeral may denote no number. -/
def Token.atom? (token : Token) : Option Expr :=
  match token.kind with
  | .integerLiteral => (Number.readInteger? token.value).map .integer
  | .floatLiteral => (Number.Binary64.read? token.value).map .float
  | .stringLiteral => some (.string token.value)
  | .booleanLiteral => some (.boolean (token.value == "true"))
  | .nullLiteral => some .null
  | .identifier => some (.identifier token.value)
  | _ => none

/-- The power of an operator between two operands. -/
def BinaryOp.power : BinaryOp → Power
  | or => .logicalOr
  | and => .logicalAnd
  | equal | notEqual => .equality
  | less | lessEqual | greater | greaterEqual => .relational
  | add | subtract => .additive
  | multiply | divide => .multiplicative

/-- The sign of an operator with the operand behind it. -/
structure Link where
  operator : BinaryOp
  sign : Token
  operand : Token
  sign_kind : sign.kind = operator.kind
  operand_isAtom : operand.kind.isAtom = true

/-- Operands of one token each, with operators between them. -/
structure Chain where
  first : Token
  links : List Link
  first_isAtom : first.kind.isAtom = true

def Link.tokens (link : Link) : List Token :=
  [link.sign, link.operand]

def Chain.tokens (chain : Chain) : List Token :=
  chain.first :: chain.links.flatMap Link.tokens

def Chain.operands (chain : Chain) : List Token :=
  chain.first :: chain.links.map Link.operand

/-- What an operator and the operand behind it stand for. -/
def Link.symbols (link : Link) : List (Option (Expr ⊕ BinaryOp)) :=
  [some (.inr link.operator), link.operand.atom?.map .inl]

/-- What the tokens of a chain stand for, one by one. -/
def Chain.symbols (chain : Chain) : List (Option (Expr ⊕ BinaryOp)) :=
  chain.first.atom?.map .inl :: chain.links.flatMap Link.symbols

namespace Expr

/-- The operator of an expression that is two operands with an operator between them. -/
def operator? : Expr → Option BinaryOp
  | binary operator _ _ => some operator
  | _ => none

/-- The operands and operators of a tree from left to right. -/
def inOrder : Expr → List (Expr ⊕ BinaryOp)
  | binary operator left right => left.inOrder ++ .inr operator :: right.inOrder
  | operand => [.inl operand]

/-- The operator of an expression, if it has one, binds at least as tightly as a power. -/
def AtLeast (power : Power) (expr : Expr) : Prop :=
  ∀ operator ∈ expr.operator?, power.rank ≤ operator.power.rank

/-- The operator of an expression, if it has one, binds tighter than a power. -/
def Above (power : Power) (expr : Expr) : Prop :=
  ∀ operator ∈ expr.operator?, power.rank < operator.power.rank

/-- On the left of an operator stands what binds as tightly, and on its right what binds tighter. -/
def Grouped : Expr → Prop
  | binary operator left right =>
    left.Grouped ∧ right.Grouped ∧ left.AtLeast operator.power ∧ right.Above operator.power
  | _ => True

theorem inOrder_of_operand {expr : Expr} (operand : expr.operator? = none) :
    expr.inOrder = [.inl expr] := by
  cases expr with
  | binary operator left right => contradiction
  | _ => rfl

theorem grouped_of_operand {expr : Expr} (operand : expr.operator? = none) : expr.Grouped := by
  cases expr with
  | binary operator left right => contradiction
  | _ => trivial

theorem above_of_operand {expr : Expr} (operand : expr.operator? = none) (power : Power) :
    expr.Above power := by
  intro operator found
  rw [operand] at found
  contradiction

/-! ### There is one grouped tree -/

section Unique

variable {root other : BinaryOp} {left right : Expr}

/-- No operator in a grouped tree binds looser than the one at its root. -/
theorem Grouped.le_of_mem {bound : Nat} {expr : Expr} (grouped : expr.Grouped)
    (atRoot : ∀ operator ∈ expr.operator?, bound ≤ operator.power.rank)
    (member : .inr root ∈ expr.inOrder) : bound ≤ root.power.rank := by
  fun_induction inOrder expr with
  | case1 operator left right ihLeft ihRight =>
      rcases grouped with ⟨groupedLeft, groupedRight, atLeastLeft, aboveRight⟩
      have atOperator : bound ≤ operator.power.rank := atRoot operator rfl
      rcases List.mem_append.mp member with inLeft | behind
      · apply ihLeft groupedLeft _ inLeft
        intro inner found
        exact Nat.le_trans atOperator (atLeastLeft inner found)
      · rcases List.mem_cons.mp behind with same | inRight
        · rw [Sum.inr.inj same]
          exact atOperator
        · apply ihRight groupedRight _ inRight
          intro inner found
          exact Nat.le_trans atOperator (Nat.le_of_lt (aboveRight inner found))
  | case2 operand isOperand => simp at member

/-- The root of one grouped tree cannot stand on the left in another one whose root stands on the
right in the first. -/
theorem Grouped.not_crossed (groupedRight : right.Grouped) (aboveRight : right.Above root.power)
    (groupedLeft : left.Grouped) (atLeastLeft : left.AtLeast other.power)
    (inLeft : .inr root ∈ left.inOrder) (inRight : .inr other ∈ right.inOrder) : False := by
  have tighter : root.power.rank < other.power.rank := groupedRight.le_of_mem aboveRight inRight
  have looser : other.power.rank ≤ root.power.rank := groupedLeft.le_of_mem atLeastLeft inLeft
  exact Nat.not_lt.mpr looser tighter

/-- Grouped trees that read alike have the same operator at the root, in the same place. -/
theorem Grouped.root_unique {leftAgain rightAgain : Expr}
    (grouped : (binary root left right).Grouped)
    (groupedAgain : (binary other leftAgain rightAgain).Grouped)
    (alike : (binary root left right).inOrder = (binary other leftAgain rightAgain).inOrder) :
    left.inOrder = leftAgain.inOrder ∧ root = other ∧ right.inOrder = rightAgain.inOrder := by
  rcases grouped with ⟨groupedLeft, groupedRight, atLeastLeft, aboveRight⟩
  rcases groupedAgain with ⟨groupedLeftAgain, groupedRightAgain, atLeastLeftAgain, aboveRightAgain⟩
  rcases List.append_eq_append_iff.mp alike with ⟨middle, front, back⟩ | ⟨middle, front, back⟩
  · cases middle with
    | nil =>
        rcases List.cons.inj back with ⟨same, sameRight⟩
        exact ⟨by simpa using front.symm, Sum.inr.inj same, sameRight⟩
    | cons symbol middle =>
        rcases List.cons.inj back with ⟨rfl, inside⟩
        exfalso
        apply groupedRight.not_crossed aboveRight groupedLeftAgain atLeastLeftAgain
        · simp [front]
        · simp [inside]
  · cases middle with
    | nil =>
        rcases List.cons.inj back with ⟨same, sameRight⟩
        exact ⟨by simpa using front, (Sum.inr.inj same).symm, sameRight.symm⟩
    | cons symbol middle =>
        rcases List.cons.inj back with ⟨rfl, inside⟩
        exfalso
        apply groupedRightAgain.not_crossed aboveRightAgain groupedLeft atLeastLeft
        · simp [front]
        · simp [inside]

/-- Grouped trees that read alike are the same. -/
theorem Grouped.unique {expr again : Expr} (grouped : expr.Grouped) (groupedAgain : again.Grouped)
    (alike : expr.inOrder = again.inOrder) : expr = again := by
  fun_induction inOrder expr generalizing again with
  | case1 operator left right ihLeft ihRight =>
      cases again with
      | binary other leftAgain rightAgain =>
          rcases grouped.root_unique groupedAgain alike with ⟨sameLeft, rfl, sameRight⟩
          have leftSame := ihLeft grouped.1 groupedAgain.1 sameLeft
          have rightSame := ihRight grouped.2.1 groupedAgain.2.1 sameRight
          rw [leftSame, rightSame]
      | _ => simpa [inOrder] using congrArg (.inr operator ∈ ·) alike
  | case2 operand isOperand =>
      cases again with
      | binary other leftAgain rightAgain =>
          simpa [inOrder] using congrArg (.inr other ∈ ·) alike
      | _ => exact Sum.inl.inj (List.cons.inj alike).1

end Unique

end Expr

namespace Parser

/-! ### How a chain is read -/

section Reading

variable {power : Power} {token : Token} {state : ParserState} {rest behind : List Token}

theorem exprTail?_kind (operator : BinaryOp) :
    operator.kind.exprTail? = some (.binary, operator.power) := by
  cases operator <;> rfl

theorem binaryOp?_kind (operator : BinaryOp) : operator.kind.binaryOp? = some operator := by
  cases operator <;> rfl

theorem continuesExpr_kind (operator : BinaryOp) :
    Kind.continuesExpr power operator.kind = decide (power.rank < operator.power.rank) := by
  simp [Kind.continuesExpr, exprTail?_kind]

theorem operator?_of_atom? {expr : Expr} (found : token.atom? = some expr) :
    expr.operator? = none := by
  unfold Token.atom? at found
  split at found
  · rcases Option.map_eq_some_iff.mp found with ⟨value, -, rfl⟩
    rfl
  · rcases Option.map_eq_some_iff.mp found with ⟨value, -, rfl⟩
    rfl
  · rw [← Option.some.inj found]
    rfl
  · rw [← Option.some.inj found]
    rfl
  · rw [← Option.some.inj found]
    rfl
  · rw [← Option.some.inj found]
    rfl
  · contradiction

theorem numeral_apply (token : Token) (value : Option Expr) :
    numeral token value state =
      match value with
      | some expr => .ok expr state.tail
      | none =>
        .error { cause := .grammar (.invalidNumber token.value), position := token.start }
          state := by
  cases value <;> rfl

theorem literalExpr_atom (isLiteral : token.kind.exprStart? = some .literal)
    (coming : state.upcoming = token :: rest) :
    literalExpr state =
      match token.atom? with
      | some expr => .ok expr state.tail
      | none =>
        .error { cause := .grammar (.invalidNumber token.value), position := token.start }
          state := by
  have looked : current state = .ok token state := by
    rw [← state.current_of_cons coming]
    rfl
  rw [literalExpr, bind_of_ok looked, Token.atom?]
  cases kindIs : token.kind with
  | integerLiteral | floatLiteral => exact numeral_apply token _
  | stringLiteral | booleanLiteral | nullLiteral => rfl
  | _ => simp [kindIs, Kind.exprStart?] at isLiteral

theorem identifierExpr_atom (isName : token.kind = .identifier)
    (coming : state.upcoming = token :: rest) (notEntity : Kind.ahead rest ≠ .openCurly) :
    identifierExpr whole state = .ok (.identifier token.value) state.tail := by
  have ahead : Kind.ahead state.upcoming = .identifier := by
    rw [coming]
    exact isName
  have passed : expect .identifier state = .ok token state.tail := by
    rw [expect, expectOr_of_kind ahead, state.current_of_cons coming]
  have read : identifier state = .ok token.value state.tail := by
    rw [identifier, bind_of_ok passed]
    rfl
  have next := kind_apply state.tail
  rw [state.upcoming_tail_of_cons coming] at next
  rw [identifierExpr, bind_of_ok read, bind_of_ok next, if_neg notEntity]
  rfl

/-- A literal or a name is read as what it is, unless it is a numeral that denotes no number. -/
theorem exprStart_atom (isAtom : token.kind.isAtom = true)
    (coming : state.upcoming = token :: rest) (notEntity : Kind.ahead rest ≠ .openCurly) :
    exprStart whole state =
      match token.atom? with
      | some expr => .ok expr state.tail
      | none =>
        .error { cause := .grammar (.invalidNumber token.value), position := token.start }
          state := by
  have ahead : kind state = .ok token.kind state := by
    rw [kind_apply, coming]
    rfl
  rw [exprStart, bind_of_ok ahead]
  by_cases isName : token.kind = .identifier
  · rw [isName, Token.atom?, isName]
    exact identifierExpr_atom isName coming notEntity
  · have isLiteral : token.kind.exprStart? = some .literal := by
      cases kindIs : token.kind <;> simp_all [Kind.isAtom, Kind.exprStart?]
    rw [isLiteral]
    exact literalExpr_atom isLiteral coming

/-- An operator takes what binds tighter from behind it. -/
theorem exprTail_sign (link : Link) (left : Expr) (coming : state.upcoming = link.sign :: rest) :
    exprTail whole left state =
      (parseExpr link.operator.power >>= fun right =>
        pure (.binary link.operator left right)) state.tail := by
  have ahead : kind state = .ok link.operator.kind state := by
    rw [kind_apply, coming, ← link.sign_kind]
    rfl
  rw [exprTail, bind_of_ok ahead, exprTail?_kind]
  show binaryExpr whole left link.operator.power state = _
  rw [binaryExpr, bind_of_ok ahead, binaryOp?_kind]
  exact bind_of_ok (advance_apply state) _

/-- A tree that an operand has grown into by some links, up to an operator that binds no tighter
than a power. -/
structure Grown (power : Power) (left : Expr) (taken : List Link) (next : Option Link)
    (tree : Expr) : Prop where
  reads : tree.inOrder.map some = left.inOrder.map some ++ taken.flatMap Link.symbols
  grouped : tree.Grouped
  above : tree.Above power
  ends : ∀ link ∈ next, link.operator.power.rank ≤ power.rank

/-- The first operand that is none. -/
def invalidNumeral? (operands : List Token) : Option Token :=
  operands.find? (·.atom?.isNone)

def invalidNumber (numeral : Token) : Diagnostic :=
  { cause := .grammar (.invalidNumber numeral.value), position := numeral.start }

/-- What reading on from an operand in front of links comes to. -/
def Climbs (power : Power) (left : Expr) (links : List Link) (behind : List Token)
    (state : ParserState) : EStateM.Result Diagnostic ParserState Expr → Prop
  | .ok tree after => ∃ taken others, links = taken ++ others ∧
      Grown power left taken others.head? tree ∧
      after = { state with upcoming := others.flatMap Link.tokens ++ behind }
  | .error diagnostic _ => ∃ numeral,
      invalidNumeral? (links.map Link.operand) = some numeral ∧ diagnostic = invalidNumber numeral

/-- What reading an operand with links behind it comes to. -/
def ReadsChain (power : Power) (first : Token) (links : List Link) (behind : List Token)
    (state : ParserState) : EStateM.Result Diagnostic ParserState Expr → Prop
  | .ok tree after => ∃ leaf ∈ first.atom?, Climbs power leaf links behind state (.ok tree after)
  | .error diagnostic _ => ∃ numeral,
      invalidNumeral? (first :: links.map Link.operand) = some numeral ∧
        diagnostic = invalidNumber numeral

variable {left right leaf tree : Expr} {link : Link} {taken others links : List Link}
  {next : Option Link} {first : Token}

theorem inOrder_of_atom? (isLeaf : leaf ∈ first.atom?) : leaf.inOrder = [.inl leaf] :=
  Expr.inOrder_of_operand (operator?_of_atom? isLeaf)

/-- A tree takes no numeral that denotes no number. -/
theorem Grown.valid (grown : Grown power left taken next tree) (operands : List Token) :
    invalidNumeral? (taken.map Link.operand ++ operands) = invalidNumeral? operands := by
  have clear : invalidNumeral? (taken.map Link.operand) = none := by
    apply List.find?_eq_none.mpr
    intro operand member isInvalid
    rcases List.mem_map.mp member with ⟨link, among, rfl⟩
    have listed : none ∈ tree.inOrder.map some := by
      rw [grown.reads]
      apply List.mem_append_right
      apply List.mem_flatMap.mpr
      exact ⟨link, among, by simp_all [Link.symbols]⟩
    simp at listed
  rw [invalidNumeral?, List.find?_append]
  rw [invalidNumeral?] at clear
  rw [clear]
  rfl

/-- An operand that the next operator does not bind to grows no more. -/
theorem climbs_stop (grouped : left.Grouped) (above : left.Above power)
    (coming : state.upcoming = links.flatMap Link.tokens ++ behind)
    (ends : ∀ link ∈ links.head?, link.operator.power.rank ≤ power.rank) :
    Climbs power left links behind state (.ok left state) := by
  refine ⟨[], links, rfl, ⟨by simp, grouped, above, ends⟩, ?_⟩
  rw [← coming]

/-- An operand grows by an operator and what that operator has taken, and then goes on growing. -/
theorem Climbs.grow {result : EStateM.Result Diagnostic ParserState Expr}
    (isLeaf : leaf ∈ link.operand.atom?)
    (grown : Grown link.operator.power leaf taken others.head? right)
    (climbs : Climbs power (.binary link.operator left right) others behind
      { state with upcoming := others.flatMap Link.tokens ++ behind } result) :
    Climbs power left (link :: (taken ++ others)) behind state result := by
  have leafRead := inOrder_of_atom? isLeaf
  cases result with
  | error diagnostic after =>
      rcases climbs with ⟨numeral, found, same⟩
      refine ⟨numeral, ?_, same⟩
      rw [List.map_cons, List.map_append, invalidNumeral?, List.find?_cons_of_neg]
      · exact (grown.valid _).trans found
      · simp_all
  | ok tree after =>
      rcases climbs with ⟨more, rest, rfl, grownOn, rfl⟩
      refine ⟨link :: (taken ++ more), rest, by simp, ?_, rfl⟩
      refine ⟨?_, grownOn.grouped, grownOn.above, grownOn.ends⟩
      rw [grownOn.reads, Expr.inOrder, List.map_append, List.map_cons, grown.reads, leafRead]
      simp_all [Link.symbols]

theorem ahead_links (ends : Kind.ahead behind = .semicolon) :
    Kind.ahead (links.flatMap Link.tokens ++ behind) =
      (links.head?.map (·.operator.kind)).getD .semicolon := by
  cases links with
  | nil => exact ends
  | cons link others => exact link.sign_kind

/-- A chain is read as it is read from its first operand on. -/
theorem readsChain_of_climbs
    (climbs : ∀ leaf (state : ParserState), leaf.operator? = none →
      state.upcoming = links.flatMap Link.tokens ++ behind →
      Climbs power leaf links behind state
        (repeatWhile (Kind.continuesExpr power) (exprTail whole) leaf state))
    (ends : Kind.ahead behind = .semicolon) (isAtom : first.kind.isAtom = true)
    (coming : state.upcoming = first :: (links.flatMap Link.tokens ++ behind)) :
    ReadsChain power first links behind state (parseExpr power state) := by
  have notEntity : Kind.ahead (links.flatMap Link.tokens ++ behind) ≠ .openCurly := by
    rw [ahead_links ends]
    cases links with
    | nil => simp
    | cons link others => cases named : link.operator <;> simp [named, BinaryOp.kind]
  have start := exprStart_atom isAtom coming notEntity
  rw [← exprForm_whole, exprForm, bind_apply, start]
  cases isLeaf : first.atom? with
  | none => exact ⟨first, by simp [invalidNumeral?, isLeaf], rfl⟩
  | some leaf =>
      have climbed := climbs leaf state.tail (operator?_of_atom? isLeaf)
        (state.upcoming_tail_of_cons coming)
      simp only
      cases ran : repeatWhile (Kind.continuesExpr power) (exprTail whole) leaf state.tail with
      | ok tree after =>
          rw [ran] at climbed
          exact ⟨leaf, isLeaf, climbed⟩
      | error diagnostic after =>
          rw [ran] at climbed
          rcases climbed with ⟨numeral, found, same⟩
          refine ⟨numeral, ?_, same⟩
          rw [invalidNumeral?, List.find?_cons_of_neg]
          · exact found
          · simp [isLeaf]

theorem loopEnds_exprTail (power : Power) :
    LoopEnds (Kind.continuesExpr power) (exprTail whole) :=
  loopEnds_of_tracks fun left => (tracks_exprTail tracksInside_whole left).mono (Nat.le_succ _)

theorem climbs_loop (ends : Kind.ahead behind = .semicolon) (bound : Nat) :
    ∀ {power left links} {state : ParserState}, links.length < bound →
      left.Grouped → left.Above power →
      (∀ link ∈ links.head?, left.AtLeast link.operator.power) →
      state.upcoming = links.flatMap Link.tokens ++ behind →
      Climbs power left links behind state
        (repeatWhile (Kind.continuesExpr power) (exprTail whole) left state) := by
  induction bound with
  | zero => exact fun few => absurd few (Nat.not_lt_zero _)
  | succ bound ih =>
      intro power left links state few grouped above atLeast coming
      rw [(loopEnds_exprTail power).unroll, coming, ahead_links ends]
      cases links with
      | nil =>
          rw [if_neg (by simp [Kind.continuesExpr, Kind.exprTail?])]
          exact climbs_stop grouped above coming (by simp)
      | cons link others =>
          simp only [List.head?_cons, Option.map_some, Option.getD_some, continuesExpr_kind,
            decide_eq_true_eq]
          split
          · rename_i tighter
            -- What the operator takes and what comes behind that are both shorter than the links.
            have rightRead : ReadsChain link.operator.power link.operand others behind state.tail
                (parseExpr link.operator.power state.tail) := by
              apply readsChain_of_climbs _ ends link.operand_isAtom
                (state.upcoming_tail_of_cons coming)
              intro leaf inner isOperand comingInner
              apply ih (Nat.lt_of_succ_lt_succ few) (Expr.grouped_of_operand isOperand)
                (Expr.above_of_operand isOperand _) _ comingInner
              simp [Expr.AtLeast, isOperand]
            rw [bind_apply, exprTail_sign link left coming, bind_apply]
            cases ran : parseExpr link.operator.power state.tail with
            | error diagnostic after =>
                rw [ran] at rightRead
                exact rightRead
            | ok right between =>
                rw [ran] at rightRead
                rcases rightRead with ⟨leaf, isLeaf, taken, rest, rfl, grown, rfl⟩
                apply Climbs.grow isLeaf grown
                apply ih
                · simp at few
                  omega
                · exact ⟨grouped, grown.grouped, atLeast link rfl, grown.above⟩
                · simpa [Expr.Above, Expr.operator?] using tighter
                · simpa [Expr.AtLeast, Expr.operator?] using grown.ends
                · rfl
          · rename_i looser
            apply climbs_stop grouped above coming
            intro next same
            rw [← Option.some.inj same]
            exact Nat.not_lt.mp looser

end Reading

/-- A chain in front of a semicolon is read into the grouped tree that reads like it, and there is
no other one. A chain with a numeral that denotes no number is refused at the first such numeral. -/
theorem chain_grouped_by_powers (chain : Chain) (stop : Token) (later : List Token)
    (state : ParserState) (ends : stop.kind = .semicolon)
    (coming : state.upcoming = chain.tokens ++ stop :: later) :
    ((∀ operand ∈ chain.operands, operand.atom?.isSome = true) →
      ∃ tree, parseExpr .lowest state = .ok tree { state with upcoming := stop :: later } ∧
        tree.inOrder.map some = chain.symbols ∧ tree.Grouped ∧
        ∀ other : Expr, other.inOrder.map some = chain.symbols → other.Grouped → other = tree) ∧
    ∀ numeral, invalidNumeral? chain.operands = some numeral →
      ∃ after, parseExpr .lowest state = .error (invalidNumber numeral) after := by
  have ahead : Kind.ahead (stop :: later) = .semicolon := ends
  have loops (leaf : Expr) (inner : ParserState) (isOperand : leaf.operator? = none)
      (comingInner : inner.upcoming = chain.links.flatMap Link.tokens ++ stop :: later) :
      Climbs .lowest leaf chain.links (stop :: later) inner
        (repeatWhile (Kind.continuesExpr .lowest) (exprTail whole) leaf inner) := by
    apply climbs_loop ahead _ (Nat.lt_succ_self _) (Expr.grouped_of_operand isOperand)
      (Expr.above_of_operand isOperand _) _ comingInner
    simp [Expr.AtLeast, isOperand]
  have read := readsChain_of_climbs loops ahead chain.first_isAtom coming
  cases ran : parseExpr .lowest state with
  | error diagnostic after =>
      rw [ran] at read
      rcases read with ⟨invalid, found, rfl⟩
      refine ⟨fun valid => ?_, fun numeral first => ?_⟩
      · have isInvalid := List.find?_some found
        have isValid := valid invalid (List.mem_of_find?_eq_some found)
        simp_all
      · rw [Option.some.inj (first.symm.trans found)]
        exact ⟨after, rfl⟩
  | ok tree after =>
      rw [ran] at read
      rcases read with ⟨leaf, isLeaf, taken, others, split, grown, rfl⟩
      -- Every operator binds tighter than the lowest power, so nothing is left.
      have all : others = [] := by
        cases others with
        | nil => rfl
        | cons link rest =>
            have none := grown.ends link rfl
            cases named : link.operator <;> simp [named, BinaryOp.power, Power.rank] at none
      subst all
      rw [List.append_nil] at split
      subst split
      have reads : tree.inOrder.map some = chain.symbols := by
        rw [grown.reads, inOrder_of_atom? isLeaf, Chain.symbols, Option.mem_def.mp isLeaf]
        rfl
      refine ⟨fun _ => ⟨tree, rfl, reads, grown.grouped, ?_⟩, fun numeral first => ?_⟩
      · intro other readsOther grouped
        apply grouped.unique grown.grouped
        exact (List.map_inj_right fun _ _ => Option.some.inj).mp (readsOther.trans reads.symm)
      · have valid := grown.valid []
        rw [List.append_nil] at valid
        rw [Chain.operands, invalidNumeral?, List.find?_cons_of_neg] at first
        · have clash : some numeral = none := first.symm.trans valid
          contradiction
        · simp_all

/-- The state in front of a chain and a semicolon, if its tokens stand nowhere. -/
def inFrontOf (chain : Chain) : ParserState :=
  { placelessEnd ParserState.firstId with upcoming := chain.tokens ++ [placeless .semicolon ";"] }

/-- A product between two differences. -/
def mixedChain : Chain where
  first := placeless .integerLiteral "2"
  links :=
    [⟨.subtract, placeless .dash "-", placeless .identifier "x", rfl, rfl⟩,
      ⟨.multiply, placeless .star "*", placeless .integerLiteral "3", rfl, rfl⟩,
      ⟨.subtract, placeless .dash "-", placeless .identifier "y", rfl, rfl⟩]
  first_isAtom := rfl

theorem mixedChain_grouped :
    ∃ tree, parseExpr .lowest (inFrontOf mixedChain) =
        .ok tree { inFrontOf mixedChain with upcoming := [placeless .semicolon ";"] } ∧
      tree.inOrder.map some = mixedChain.symbols ∧ tree.Grouped ∧
      ∀ other : Expr, other.inOrder.map some = mixedChain.symbols → other.Grouped →
        other = tree := by
  have valid : ∀ operand ∈ mixedChain.operands, operand.atom?.isSome = true := by
    simp only [Chain.operands, mixedChain, List.map_cons, List.map_nil, List.forall_mem_cons]
    exact ⟨by cbv, rfl, by cbv, rfl, nofun⟩
  exact (chain_grouped_by_powers mixedChain (placeless .semicolon ";") []
    (inFrontOf mixedChain) rfl rfl).1 valid

/-- A sum with a numeral that is one more than the largest integer. -/
def overflowingChain : Chain where
  first := placeless .integerLiteral "1"
  links := [⟨.add, placeless .plus "+", placeless .integerLiteral "9223372036854775808", rfl, rfl⟩]
  first_isAtom := rfl

theorem overflowingChain_refused :
    ¬∃ tree after, parseExpr .lowest (inFrontOf overflowingChain) = .ok tree after := by
  have failed : ∃ after, parseExpr .lowest (inFrontOf overflowingChain) =
      .error (invalidNumber (placeless .integerLiteral "9223372036854775808")) after := by
    refine ⟨{ placelessEnd ParserState.firstId with
      upcoming := [placeless .integerLiteral "9223372036854775808", placeless .semicolon ";"] }, ?_⟩
    cbv
  rintro ⟨tree, after, ran⟩
  rcases failed with ⟨stopped, refused⟩
  rw [refused] at ran
  contradiction

end Parser

end ScriptCheck
