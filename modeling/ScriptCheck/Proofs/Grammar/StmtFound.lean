import ScriptCheck.Proofs.Grammar.ExprFound

/-!
# Statements that the parser finds

Whatever statement the parser finds is readable. Most forms say so by their parts alone. A
declaration also depends on the tokens in front of which it was found, since these made the parser
take it for one, and a template depends on the check for members of the same name.
-/

namespace ScriptCheck.Parser

variable {spell : Number.Binary64 → String} {inside : Inside}

theorem yields_expressionStmt (finds : Finds spell inside) :
    Yields (Stmt.Readable spell) (expressionStmt inside) := by
  refine yields_next fun start => (finds.expr _).bind fun expr readable => ?_
  exact yields_next fun _ => yields_pure (Stmt.readable_expression start readable)

theorem yields_entityDeclStmt (finds : Finds spell inside) :
    Yields (Stmt.Readable spell) (entityDeclStmt inside) := by
  refine yields_next fun start => yields_next fun _ => yields_next fun name => ?_
  refine yields_next fun _ => yields_next fun template => ?_
  refine (yields_entityLiteral finds template.value).bind fun value readable => ?_
  refine yields_next fun _ => yields_next fun id => yields_pure ?_
  have declares : (Ty.named template.value).Declares := ⟨_, _, rfl, .inl ⟨rfl, rfl⟩⟩
  exact Stmt.readable_varDecl start id name (Ty.readable_named _) declares readable

theorem yields_blockStmt (finds : Finds spell inside) :
    Yields (Stmt.Readable spell) (blockStmt inside) :=
  (yields_block finds).bind fun _ readable => yields_pure (Stmt.readable_block readable)

theorem yields_condition (finds : Finds spell inside) :
    Yields (Expr.Readable spell) (condition inside) := by
  refine yields_next fun _ => (finds.expr _).bind fun expr readable => ?_
  exact yields_next fun _ => yields_pure readable

theorem yields_elseBlock (finds : Finds spell inside) :
    Yields (fun found => ∀ block ∈ found, Block.Readable spell block) (elseBlock inside) := by
  refine yields_next fun kind => ?_
  split
  · refine yields_next fun _ => (yields_block finds).bind fun block readable => yields_pure ?_
    rintro _ ⟨⟩
    exact readable
  · exact yields_pure (by simp)

theorem yields_ifStmt (finds : Finds spell inside) :
    Yields (Stmt.Readable spell) (ifStmt inside) := by
  refine yields_next fun start => yields_next fun _ => ?_
  refine (yields_condition finds).bind fun decision readable => ?_
  refine (yields_block finds).bind fun thenBlock readableThen => ?_
  refine (yields_elseBlock finds).bind fun otherwise readableElse => yields_pure ?_
  exact Stmt.readable_ifElse start readable readableThen readableElse

theorem yields_whileStmt (finds : Finds spell inside) :
    Yields (Stmt.Readable spell) (whileStmt inside) := by
  refine yields_next fun start => yields_next fun _ => ?_
  refine (yields_condition finds).bind fun decision readable => ?_
  refine (yields_block finds).bind fun body readableBody => yields_pure ?_
  exact Stmt.readable_whileLoop start readable readableBody

/-- Where no step is given, the step that is written is one. -/
theorem yields_rangeStep (finds : Finds spell inside) :
    Yields (Expr.Readable spell) (rangeStep inside) := by
  refine yields_next fun kind => ?_
  split
  · exact yields_next fun _ => finds.expr _
  · refine yields_pure (Expr.readable_integer ?_)
    exact Number.readInteger?_toString (by decide) (by decide)

theorem yields_rangeStmt (finds : Finds spell inside) :
    Yields (Stmt.Readable spell) (rangeStmt inside) := by
  refine yields_next fun start => yields_next fun _ => yields_next fun _ => ?_
  refine yields_next fun name => yields_next fun _ => ?_
  refine (finds.expr _).bind fun first readableFirst => yields_next fun _ => ?_
  refine (finds.expr _).bind fun last readableLast => ?_
  refine (yields_rangeStep finds).bind fun step readableStep => yields_next fun _ => ?_
  refine (yields_block finds).bind fun body readableBody => yields_pure ?_
  exact Stmt.readable_range start name readableFirst readableLast readableStep readableBody

theorem yields_eachStmt (finds : Finds spell inside) :
    Yields (Stmt.Readable spell) (eachStmt inside) := by
  refine yields_next fun start => yields_next fun _ => yields_next fun _ => ?_
  refine yields_next fun name => yields_next fun _ => ?_
  refine (finds.expr _).bind fun iterable readable => yields_next fun _ => ?_
  refine (yields_block finds).bind fun body readableBody => yields_pure ?_
  exact Stmt.readable_each start name readable readableBody

theorem yields_haltStmt : Yields (Stmt.Readable spell) haltStmt :=
  yields_next fun start => yields_next fun _ => yields_next fun _ =>
    yields_pure (Stmt.readable_halt start)

theorem yields_skipStmt : Yields (Stmt.Readable spell) skipStmt :=
  yields_next fun start => yields_next fun _ => yields_next fun _ =>
    yields_pure (Stmt.readable_skip start)

theorem yields_returnedValue (finds : Finds spell inside) :
    Yields (fun found => ∀ expr ∈ found, Expr.Readable spell expr) (returnedValue inside) := by
  refine yields_next fun kind => ?_
  split
  · exact yields_pure (by simp)
  · refine (finds.expr _).bind fun expr readable => yields_pure ?_
    rintro _ ⟨⟩
    exact readable

theorem yields_returnStmt (finds : Finds spell inside) :
    Yields (Stmt.Readable spell) (returnStmt inside) := by
  refine yields_next fun start => yields_next fun _ => ?_
  refine (yields_returnedValue finds).bind fun value readable => ?_
  exact yields_next fun _ => yields_pure (Stmt.readable_returning start readable)

theorem yields_echoStmt (finds : Finds spell inside) :
    Yields (Stmt.Readable spell) (echoStmt inside) := by
  refine yields_next fun start => yields_next fun _ => (finds.expr _).bind fun expr readable => ?_
  exact yields_next fun _ => yields_pure (Stmt.readable_echo start readable)

theorem yields_resultType (spell : Number.Binary64 → String) :
    Yields (fun type => type.ReadableResult spell) (withTypes resultType) := by
  refine yields_withTypes fun depth => Consumes.yields ?_
  exact (consumes_resultType (findsType_nestedType depth)).mono fun _ _ found => found.1

theorem yields_fnDecl (finds : Finds spell inside) :
    Yields (FnDecl.Readable spell) (fnDecl inside) := by
  refine yields_next fun start => yields_next fun _ => yields_next fun name => ?_
  refine yields_next fun _ => (yields_resultType spell).bind fun result readableResult => ?_
  refine yields_next fun _ => (yields_parameters spell).bind fun params readableParams => ?_
  refine yields_next fun _ => (yields_block finds).bind fun body readableBody => ?_
  exact yields_next fun id => yields_pure ⟨⟨readableResult, readableParams⟩, readableBody⟩

/-- Every successful run of the parser from a state gives a good value. -/
def YieldsFrom {α : Type} (state : ParserState) (good : α → Prop) (parser : Parser α) : Prop :=
  ∀ value after, parser state = .ok value after → good value

section Declarations

variable {state : ParserState}

theorem yieldsFrom_look {α β : Type} (value : α) {good : β → Prop} {look : Parser α}
    {next : α → Parser β} (looked : look state = .ok value state)
    (yields : YieldsFrom state good (next value)) : YieldsFrom state good (look >>= next) := by
  intro found after ran
  rw [bind_of_ok looked] at ran
  exact yields found after ran

theorem kinds_ahead (state : ParserState) :
    ((state.upcoming.map Token.kind).head?).getD .eof = state.current.kind := by
  rw [List.head?_map, state.kind_current, Kind.ahead]

/-- A declaration of a variable is readable if the type in front of the name is recognised. -/
theorem yieldsFrom_varDeclStmt (finds : Finds spell inside)
    (declares : ∀ (declared : Ty) rest,
      state.upcoming.map Token.kind = kinds declared.pieces ++ .identifier :: rest →
        declared.Declares) :
    YieldsFrom state (Stmt.Readable spell) (varDeclStmt inside) := by
  -- What the type and the name have consumed is what stood in front of the statement.
  refine yieldsFrom_look state.current.start rfl fun stmt after ran => ?_
  rcases ok_of_bind_eq_ok ran with ⟨declared, second, ranType, ran⟩
  have findsType : FindsType spell anywhere (parseType .lowest) := findsType_parseType .lowest
  rcases findsType state declared second trivial ranType with ⟨_, consumed, readable, rfl⟩
  rcases ok_of_bind_eq_ok ran with ⟨name, third, ranName, ran⟩
  have consumes : Consumes anywhere identifier fun used _ => used = [.identifier] :=
    consumes_identifier
  rcases consumes second name third trivial ranName with ⟨_, consumedName, rfl⟩
  rw [consumedName] at consumed
  refine yields_next (fun _ => ?_) third stmt after ran
  refine (finds.expr _).bind fun value readableValue => yields_next fun _ => ?_
  refine yields_next fun id => yields_pure ?_
  exact Stmt.readable_varDecl _ id name readable (declares declared _ consumed) readableValue

/-- A name with suffixes that is taken for the start of a declaration. -/
theorem yieldsFrom_named (finds : Finds spell inside)
    (starts : startsDeclaration state = .ok true state) :
    YieldsFrom state (Stmt.Readable spell) (varDeclStmt inside) := by
  refine yieldsFrom_varDeclStmt finds fun declared rest upcoming => ?_
  have both := Bool.and_eq_true_iff.mp (EStateM.Result.ok.inj starts).1
  rcases both with ⟨isName, opens⟩
  rcases exists_cons_pieces declared with ⟨piece, pieces, same⟩
  refine ⟨piece.kind, kinds pieces, by rw [same, kinds_cons], .inl ⟨?_, ?_⟩⟩
  · rw [← of_decide_eq_true isName, ← kinds_ahead, upcoming, same]
    rfl
  · rw [List.map_drop, upcoming, List.drop_one, tail_kinds_append, opensDeclaration_tail] at opens
    exact (Bool.and_eq_true_iff.mp opens).1

theorem yieldsFrom_varDecl (finds : Finds spell inside)
    (form : state.current.kind.stmtForm? = some .varDecl) :
    YieldsFrom state (Stmt.Readable spell) (varDeclStmt inside) := by
  refine yieldsFrom_varDeclStmt finds fun declared rest upcoming => ?_
  rcases exists_cons_pieces declared with ⟨piece, pieces, same⟩
  rw [← kinds_ahead, upcoming, same] at form
  exact ⟨piece.kind, kinds pieces, by rw [same, kinds_cons], .inr (.inl form)⟩

/-- The type of a function, which is known by its second token. -/
theorem yieldsFrom_functionType (finds : Finds spell inside)
    (isFunction : state.current.kind = .funcWord) (isLess : (state.peek 1).kind = .less) :
    YieldsFrom state (Stmt.Readable spell) (varDeclStmt inside) := by
  refine yieldsFrom_varDeclStmt finds fun declared rest upcoming => ?_
  rcases exists_cons_pieces declared with ⟨piece, pieces, same⟩
  have second : (state.upcoming.map Token.kind)[1]? = some .less := by
    rw [ParserState.peek] at isLess
    rw [List.getElem?_map]
    cases found : state.upcoming[1]? with
    | none =>
        rw [found, Option.getD_none, state.final_kind] at isLess
        contradiction
    | some token =>
        rw [found] at isLess
        exact congrArg some isLess
  rw [← kinds_ahead, upcoming, same] at isFunction
  rw [upcoming, same] at second
  refine ⟨piece.kind, kinds pieces, by rw [same, kinds_cons], .inr (.inr ⟨isFunction, ?_⟩)⟩
  cases pieces with
  | nil => exact absurd (Option.some.inj second) (by simp)
  | cons next pieces => exact second

theorem yieldsFrom_functionStmt (finds : Finds spell inside)
    (isFunction : state.current.kind = .funcWord) :
    YieldsFrom state (Stmt.Readable spell) (functionStmt inside) := by
  refine yieldsFrom_look state rfl ?_
  split
  · rename_i isLess
    exact yieldsFrom_functionType finds isFunction isLess
  · exact yields_expressionStmt finds state
  · exact ((yields_fnDecl finds).bind fun declaration readable =>
      yields_pure (Stmt.readable_fnDecl readable)) state

end Declarations

section Members

variable {members : Members}

/-- The type of an attribute starts with no token of a method. -/
theorem yieldsFrom_attributeType (spell : Number.Binary64 → String) {state : ParserState}
    (notMethod : state.current.kind ≠ .funcWord) :
    YieldsFrom state (fun type => type.Readable spell ∧ (kinds type.pieces).head? ≠ some .funcWord)
      (parseType .lowest) := by
  intro type after ran
  have findsType : FindsType spell anywhere (parseType .lowest) := findsType_parseType .lowest
  rcases findsType state type after trivial ran with ⟨_, consumed, readable, rfl⟩
  refine ⟨readable, fun isMethod => notMethod ?_⟩
  rw [← kinds_ahead, consumed, List.head?_append, isMethod]
  rfl

/-- What is found for one more member: the name and the members with it. -/
inductive FoundMember (spell : Number.Binary64 → String) (members : Members) :
    String × Members → Prop where
  | ofAttribute (entry : String × Ty) (readable : entry.2.Readable spell)
      (notMethod : (kinds entry.2.pieces).head? ≠ some .funcWord) :
      FoundMember spell members
        (entry.1, { members with attributes := members.attributes ++ [entry] })
  | ofMethod (method : FnDecl) (readable : method.Readable spell) :
      FoundMember spell members
        (method.name, { members with methods := members.methods ++ [method] })

theorem yields_member (finds : Finds spell inside) (members : Members) :
    Yields (FoundMember spell members) (member inside members) := by
  intro state
  refine yieldsFrom_look state.current.kind rfl ?_
  split
  · refine ((yields_fnDecl finds).bind fun method readable => yields_pure ?_) state
    exact .ofMethod method readable
  · rename_i notMethod
    -- The type has to be followed from this state, where no method starts.
    intro found after ran
    rcases ok_of_bind_eq_ok ran with ⟨type, second, ranType, ran⟩
    rcases yieldsFrom_attributeType spell notMethod type second ranType with
      ⟨readable, notMethod⟩
    refine yields_next (fun name => yields_next fun _ => yields_pure ?_) second found after ran
    exact .ofAttribute (name, type) readable notMethod

/-- Only the name of the new member occurs more often than before. -/
theorem FoundMember.count_eq {name other : String} {longer : Members}
    (found : FoundMember spell members (name, longer)) (differs : name ≠ other) :
    longer.count other = members.count other := by
  cases found with
  | ofAttribute entry _ _ => simp [Members.count, differs]
  | ofMethod method _ => simp [Members.count, differs]

theorem FoundMember.readable {name : String} {longer : Members}
    (found : FoundMember spell members (name, longer)) (readable : members.Readable spell)
    (single : longer.count name ≤ 1) : longer.Readable spell := by
  have distinct other : longer.count other ≤ 1 := by
    by_cases same : name = other
    · rw [← same]
      exact single
    · rw [found.count_eq same]
      exact readable.distinct other
  cases found with
  | ofAttribute entry readableType notMethod =>
      refine ⟨fun entry mem => ?_, readable.methods, distinct⟩
      rcases List.mem_append.mp mem with mem | mem
      · exact readable.attributes entry mem
      · rw [List.mem_singleton.mp mem]
        exact ⟨readableType, notMethod⟩
  | ofMethod method readableMethod =>
      refine ⟨readable.attributes, fun method mem => ?_, distinct⟩
      rcases List.mem_append.mp mem with mem | mem
      · exact readable.methods method mem
      · rw [List.mem_singleton.mp mem]
        exact readableMethod

theorem yields_freshMember (finds : Finds spell inside) (template : String)
    (readable : members.Readable spell) :
    Yields (Members.Readable spell) (freshMember inside template members) := by
  refine yields_next fun start => (yields_member finds members).bind fun found isMember => ?_
  rcases found with ⟨name, longer⟩
  dsimp only
  split
  · exact yields_failAt
  · rename_i single
    exact yields_pure (isMember.readable readable (Nat.not_lt.mp single))

theorem yields_templateStmt (finds : Finds spell inside) :
    Yields (Stmt.Readable spell) (templateStmt inside) := by
  have none : Members.Readable spell { attributes := [], methods := [] } :=
    ⟨by simp, by simp, fun name => Nat.zero_le 1⟩
  refine yields_next fun start => yields_next fun _ => yields_next fun name => ?_
  refine yields_next fun _ => yields_next fun _ => ?_
  refine (yields_repeatWhile none fun members readable =>
    yields_freshMember finds name readable).bind fun members readable => ?_
  refine yields_next fun _ => yields_next fun _ => yields_pure ?_
  exact Stmt.readable_templateDecl start name readable

end Members

/-- A statement of any form, in front of the token by which its form is known. -/
theorem yieldsFrom_formStmt (finds : Finds spell inside) (state : ParserState) :
    YieldsFrom state (Stmt.Readable spell) (formStmt inside state.current.kind.stmtForm?) := by
  cases form : state.current.kind.stmtForm? with
  | none => exact yields_expressionStmt finds state
  | some known =>
      cases known with
      | varDecl => exact yieldsFrom_varDecl finds form
      | entityDecl => exact yields_entityDeclStmt finds state
      | block => exact yields_blockStmt finds state
      | ifElse => exact yields_ifStmt finds state
      | whileLoop => exact yields_whileStmt finds state
      | range => exact yields_rangeStmt finds state
      | each => exact yields_eachStmt finds state
      | halt => exact yields_haltStmt state
      | skip => exact yields_skipStmt state
      | returning => exact yields_returnStmt finds state
      | function =>
          refine yieldsFrom_functionStmt finds ?_
          cases same : state.current.kind <;> rw [same] at form <;> first | rfl | contradiction
      | echo => exact yields_echoStmt finds state
      | templateDecl => exact yields_templateStmt finds state

theorem yields_stmtForm (finds : Finds spell inside) :
    Yields (Stmt.Readable spell) (stmtForm inside) := by
  intro state
  rw [stmtForm_eq]
  have looked : ∃ opens, startsDeclaration state = .ok opens state := ⟨_, rfl⟩
  rcases looked with ⟨opens, looked⟩
  refine yieldsFrom_look opens looked ?_
  cases opens with
  | true => exact yieldsFrom_named finds looked
  | false => exact yieldsFrom_look state.current.kind rfl (yieldsFrom_formStmt finds state)

/-- However deep the parsers are nested, they find only what is readable. -/
theorem finds_nested (spell : Number.Binary64 → String) (depth : Nat) :
    Finds spell (nested depth) := by
  induction depth with
  | zero => exact ⟨fun _ => yields_unexpected, yields_unexpected⟩
  | succ depth ih => exact ⟨fun power => yields_exprForm ih power, yields_stmtForm ih⟩

end ScriptCheck.Parser
