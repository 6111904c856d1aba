import ScriptCheck.Proofs.Grammar.StmtReading
import ScriptCheck.Proofs.Number.Numeral

/-!
# Expressions that the parser finds

Whatever expression the parser finds is readable, however it was written: with or without
parentheses, with arrows, or with an operator before an equals sign.
-/

namespace ScriptCheck.Parser

variable {spell : Number.Binary64 → String} {inside : Inside}

/-- The parsers for what stands inside of a form find only what is readable. -/
structure Finds (spell : Number.Binary64 → String) (inside : Inside) : Prop where
  expr : ∀ power, Yields (Expr.Readable spell) (inside.expr power)
  stmt : Yields (Stmt.Readable spell) inside.stmt

theorem yields_block (finds : Finds spell inside) :
    Yields (Block.Readable spell) (block inside) := by
  refine yields_next fun start => yields_next fun _ => ?_
  refine (yields_collectWhile finds.stmt).bind fun body readable => ?_
  exact yields_next fun _ => yields_pure readable

theorem yields_numeral {token : Token} {value : Option Expr} {good : Expr → Prop}
    (isGood : ∀ expr, value = some expr → good expr) : Yields good (numeral token value) := by
  cases value with
  | none => exact yields_failAt
  | some expr => exact yields_next fun _ => yields_pure (isGood expr rfl)

theorem yields_literalExpr : Yields (Expr.Readable spell) literalExpr := by
  refine yields_next fun token => ?_
  split
  · refine yields_numeral fun expr found => ?_
    rcases Option.map_eq_some_iff.mp found with ⟨value, read, rfl⟩
    have bounds := Number.bounds_of_readInteger? read
    exact Expr.readable_integer (Number.readInteger?_toString bounds.1 bounds.2)
  · refine yields_numeral fun expr found => ?_
    rcases Option.map_eq_some_iff.mp found with ⟨value, _, rfl⟩
    exact Expr.readable_float value
  · exact yields_next fun _ => yields_pure (Expr.readable_string _)
  · exact yields_next fun _ => yields_pure (Expr.readable_boolean _)
  · exact yields_next fun _ => yields_pure Expr.readable_null
  · exact yields_unexpected

theorem yields_entityLiteral (finds : Finds spell inside) (name : String) :
    Yields (Expr.Readable spell) (entityLiteral inside name) := by
  have yieldsOne : Yields (fun entry => entry.2.Readable spell) (attributeValue inside) := by
    refine yields_next fun name => yields_next fun _ => (finds.expr _).bind fun value readable => ?_
    exact yields_next fun _ => yields_pure readable
  refine yields_next fun _ => (yields_collectWhile yieldsOne).bind fun attributes readable => ?_
  exact yields_next fun _ => yields_pure (Expr.readable_entity name readable)

theorem yields_identifierExpr (finds : Finds spell inside) :
    Yields (Expr.Readable spell) (identifierExpr inside) := by
  refine yields_next fun name => yields_next fun kind => ?_
  split
  · exact yields_entityLiteral finds name
  · exact yields_pure (Expr.readable_identifier name)

theorem yields_leadingExpr (finds : Finds spell inside) :
    Yields (Expr.Readable spell) (leadingExpr inside) := by
  refine yields_next fun kind => ?_
  split
  · exact yields_unexpected
  · refine yields_next fun _ => (finds.expr _).bind fun operand readable => yields_pure ?_
    exact Expr.readable_leading _ readable

theorem yields_groupingExpr (finds : Finds spell inside) :
    Yields (Expr.Readable spell) (groupingExpr inside) := by
  refine yields_next fun _ => (finds.expr _).bind fun expr readable => ?_
  exact yields_next fun _ => yields_pure readable

theorem yields_arguments (finds : Finds spell inside) :
    Yields (fun values => ∀ value ∈ values, Expr.Readable spell value) (arguments inside) := by
  refine yields_next fun _ => (yields_itemsUntil (finds.expr _)).bind fun values readable => ?_
  exact yields_next fun _ => yields_pure readable

theorem yields_pipeStage (finds : Finds spell inside) {piped : List Expr}
    (readable : ∀ value ∈ piped, Expr.Readable spell value) :
    Yields (Expr.Readable spell) (pipeStage inside piped) := by
  refine yields_next fun _ => yields_next fun callee => yields_next fun kind => ?_
  split
  · refine (yields_arguments finds).bind fun values readableValues => yields_pure ?_
    refine Expr.readable_call (Expr.readable_identifier callee) fun value mem => ?_
    exact (List.mem_append.mp mem).elim (readable value) (readableValues value)
  · exact yields_pure (Expr.readable_call (Expr.readable_identifier callee) readable)

theorem yields_arrayExpr (finds : Finds spell inside) :
    Yields (Expr.Readable spell) (arrayExpr inside) := by
  refine yields_next fun _ => (yields_itemsUntil (finds.expr _)).bind fun elements readable => ?_
  refine yields_next fun _ => yields_next fun kind => ?_
  split
  · refine (yields_pipeStage finds readable).bind fun first readableFirst => ?_
    refine yields_repeatWhile readableFirst fun call readableCall => ?_
    refine yields_pipeStage finds fun value mem => ?_
    rw [List.mem_singleton.mp mem]
    exact readableCall
  · exact yields_pure (Expr.readable_array readable)

theorem yields_setOrMapExpr (finds : Finds spell inside) :
    Yields (Expr.Readable spell) (setOrMapExpr inside) := by
  refine yields_next fun _ => yields_next fun kind => ?_
  split
  · exact yields_next fun _ => yields_pure (Expr.readable_set (by simp))
  · refine (finds.expr _).bind fun first readableFirst => yields_next fun kind => ?_
    split
    · have yieldsPair : Yields (fun pair => pair.1.Readable spell ∧ pair.2.Readable spell)
          (keyValue inside) := by
        refine (finds.expr _).bind fun key readableKey => yields_next fun _ => ?_
        exact (finds.expr _).bind fun value readableValue =>
          yields_pure ⟨readableKey, readableValue⟩
      refine yields_next fun _ => (finds.expr _).bind fun value readableValue => ?_
      refine (yields_moreItems yieldsPair).bind fun pairs readablePairs => ?_
      refine yields_next fun _ => yields_pure (Expr.readable_map (by simp) ?_)
      exact List.forall_mem_cons.mpr ⟨⟨readableFirst, readableValue⟩, readablePairs⟩
    · refine (yields_moreItems (finds.expr _)).bind fun elements readable => ?_
      refine yields_next fun _ => yields_pure (Expr.readable_set ?_)
      exact List.forall_mem_cons.mpr ⟨readableFirst, readable⟩

theorem yields_parameters (spell : Number.Binary64 → String) :
    Yields (fun params => ∀ param ∈ params, param.2.Readable spell) (withTypes parameters) := by
  refine yields_withTypes fun depth => Consumes.yields ?_
  exact (consumes_parameters (findsType_nestedType depth)).mono fun _ _ found => found.1

theorem yields_functionExpr (finds : Finds spell inside) :
    Yields (Expr.Readable spell) (functionExpr inside) := by
  refine yields_next fun _ => (yields_parameters spell).bind fun params readable => ?_
  refine yields_next fun _ => (yields_block finds).bind fun body readableBody => yields_pure ?_
  exact Expr.readable_function readable readableBody

theorem yields_exprStart (finds : Finds spell inside) :
    Yields (Expr.Readable spell) (exprStart inside) := by
  refine yields_next fun kind => ?_
  split
  · exact yields_unexpected
  · exact yields_literalExpr
  · exact yields_identifierExpr finds
  · exact yields_leadingExpr finds
  · exact yields_groupingExpr finds
  · exact yields_arrayExpr finds
  · exact yields_setOrMapExpr finds
  · exact yields_functionExpr finds

section Tails

variable {left : Expr}

theorem yields_assignmentExpr (finds : Finds spell inside) (readable : left.Readable spell) :
    Yields (Expr.Readable spell) (assignmentExpr inside left) := by
  refine yields_next fun operator => ?_
  split
  · rename_i isTarget
    refine (finds.expr _).bind fun right readableRight => ?_
    have yieldsValue : Yields (Expr.Readable spell) (assignedValue operator left right) := by
      rw [assignedValue]
      split
      · exact yields_pure readableRight
      · split
        · exact yields_pure (Expr.readable_binary _ readable readableRight)
        · exact yields_failAt
    exact yieldsValue.bind fun value readableValue =>
      yields_pure (Expr.readable_assignment isTarget readable readableValue)
  · exact yields_failAt

theorem yields_binaryExpr (finds : Finds spell inside) (readable : left.Readable spell)
    (power : Power) : Yields (Expr.Readable spell) (binaryExpr inside left power) := by
  refine yields_next fun kind => ?_
  split
  · exact yields_unexpected
  · refine yields_next fun _ => (finds.expr _).bind fun right readableRight => yields_pure ?_
    exact Expr.readable_binary _ readable readableRight

theorem yields_trailingExpr (readable : left.Readable spell) :
    Yields (Expr.Readable spell) (trailingExpr left) := by
  refine yields_next fun kind => ?_
  split
  · exact yields_unexpected
  · rename_i operator names
    have steps : operator.isStep = true := by
      cases kind <;> simp [Kind.trailingOp?] at names <;> subst names <;> rfl
    exact yields_next fun _ => yields_pure (Expr.readable_trailing operator steps readable)

theorem yields_callExpr (finds : Finds spell inside) (readable : left.Readable spell) :
    Yields (Expr.Readable spell) (callExpr inside left) :=
  (yields_arguments finds).bind fun _ readableValues =>
    yields_pure (Expr.readable_call readable readableValues)

theorem yields_indexExpr (finds : Finds spell inside) (readable : left.Readable spell) :
    Yields (Expr.Readable spell) (indexExpr inside left) := by
  refine yields_next fun _ => (finds.expr _).bind fun index readableIndex => ?_
  exact yields_next fun _ => yields_pure (Expr.readable_index readable readableIndex)

theorem yields_memberExpr (finds : Finds spell inside) (readable : left.Readable spell) :
    Yields (Expr.Readable spell) (memberExpr inside left) := by
  refine yields_next fun _ => yields_next fun name => yields_next fun kind => ?_
  split
  · exact (yields_arguments finds).bind fun values readableValues =>
      yields_pure (Expr.readable_methodCall name readable readableValues)
  · exact yields_pure (Expr.readable_member name readable)

theorem yields_exprTail (finds : Finds spell inside) (readable : left.Readable spell) :
    Yields (Expr.Readable spell) (exprTail inside left) := by
  refine yields_next fun kind => ?_
  split
  · exact yields_unexpected
  · exact yields_assignmentExpr finds readable
  · exact yields_binaryExpr finds readable _
  · exact yields_trailingExpr readable
  · exact yields_callExpr finds readable
  · exact yields_indexExpr finds readable
  · exact yields_memberExpr finds readable

theorem yields_exprForm (finds : Finds spell inside) (power : Power) :
    Yields (Expr.Readable spell) (exprForm inside power) := by
  refine (yields_exprStart finds).bind fun left readable => ?_
  exact yields_repeatWhile readable fun left readable => yields_exprTail finds readable

end Tails

end ScriptCheck.Parser
