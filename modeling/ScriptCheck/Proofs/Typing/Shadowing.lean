import ScriptCheck.Proofs.Typing.Binding
import ScriptCheck.Proofs.Typing.Heeding

/-!
# Names that are bound again

A variable may have the name of a variable outside of the function, but not that of one around it in
the same function. Parameters are bound in the scope of their function, where nothing lies around
them. The loop variable of `range` and `each` is bound without a look at the scopes around the loop,
and so is a function around its declaration: these two may shadow.

The binders of a visit are divided into those of each scope. An accepted statement adds its binders
to those of the innermost scope and changes the names of no scope otherwise.
-/

namespace ScriptCheck

open Checker

/-- What is bound without a look at the scopes around. -/
def Binder.mayShadow : Binder → Bool
  | .function | .loopVariable => true
  | .template | .method | .variable | .parameter | .attribute => false

/-- Whether a scope is that of a function, and the names that it binds, the latest first. -/
def Scope.outline (scope : Scope) : Bool × List String :=
  (scope.isFunction, scope.symbols.map (·.1))

theorem Scope.lookup?_eq_none_iff {scope : Scope} {name : String} :
    scope.lookup? name = none ↔ name ∉ scope.symbols.map (·.1) := by
  rw [Scope.lookup?, List.lookup_eq_none_iff, List.mem_map]
  constructor
  · rintro missing ⟨symbol, among, rfl⟩
    simpa using missing symbol among
  · intro missing symbol among
    rw [bne_iff_ne]
    rintro rfl
    exact missing ⟨symbol, among, rfl⟩

/-- Scopes from the inside out with the binders of each of them. A name that is bound in a scope is
not bound in the scopes around it, as far as the nearest function, unless what binds it may
shadow. -/
inductive Unshadowed : List Scope → List (List (String × Binder)) → Prop where
  | nil : Unshadowed [] []
  | cons {scope : Scope} {outer : List Scope} {binders : List (String × Binder)}
      {around : List (List (String × Binder))}
      (names : binders.map (·.1) = scope.symbols.map (·.1))
      (apart : scope.isFunction = false → ∀ entry ∈ binders, entry.2.mayShadow = false →
        ScopeStack.locateIn .function entry.1 outer = none)
      (rest : Unshadowed outer around) : Unshadowed (scope :: outer) (binders :: around)

namespace ScopeStack

def outline (stack : ScopeStack) : List (Bool × List String) :=
  stack.scopes.map Scope.outline

/-- The binders can be divided into those of each scope, and none shadows that may not. -/
def Unshadowed (stack : ScopeStack) (binders : List (String × Binder)) : Prop :=
  ∃ layers, layers.flatten = binders ∧ ScriptCheck.Unshadowed stack.scopes layers

/-! ### Lookups in the same function -/

theorem locateIn_function_eq_none_iff {name : String} {scope : Scope} {outer : List Scope} :
    locateIn .function name (scope :: outer) = none ↔
      name ∉ scope.symbols.map (·.1) ∧
        (scope.isFunction = false → locateIn .function name outer = none) := by
  rw [← Scope.lookup?_eq_none_iff, locateIn]
  cases scope.lookup? name with
  | some type => simp
  | none => cases scope.isFunction <;> simp

/-- What is found nowhere is not found in the same function. -/
theorem locate?_of_lookup? {stack : ScopeStack} {name : String}
    (missing : stack.lookup? .everywhere name = none) : stack.locate? .function name = none := by
  have through (scopes : List Scope) (missing : locateIn .everywhere name scopes = none) :
      locateIn .function name scopes = none := by
    induction scopes with
    | nil => rfl
    | cons scope outer ih =>
        rw [locateIn] at missing ⊢
        cases here : scope.lookup? name with
        | some type => simp [here] at missing
        | none =>
            simp only [here] at missing ⊢
            split
            · rfl
            · exact ih (by simpa using missing)
  exact through stack.scopes (Option.map_eq_none_iff.mp missing)

/-- Whether a name is found in the same function depends on the names alone. -/
theorem locateIn_function_congr {name : String} {scopes others : List Scope}
    (same : others.map Scope.outline = scopes.map Scope.outline)
    (missing : locateIn .function name scopes = none) :
    locateIn .function name others = none := by
  induction scopes generalizing others with
  | nil =>
      rw [List.map_eq_nil_iff.mp same]
      exact missing
  | cons scope outer ih =>
      rcases List.map_eq_cons_iff.mp same with ⟨other, rest, rfl, sameScope, sameRest⟩
      rcases Prod.mk.inj sameScope with ⟨sameKind, sameNames⟩
      rw [locateIn_function_eq_none_iff] at missing ⊢
      rw [sameNames, sameKind]
      exact ⟨missing.1, fun passed => ih sameRest (missing.2 passed)⟩

end ScopeStack

theorem Unshadowed.congr {scopes others : List Scope} {layers : List (List (String × Binder))}
    (unshadowed : Unshadowed scopes layers)
    (same : others.map Scope.outline = scopes.map Scope.outline) : Unshadowed others layers := by
  induction unshadowed generalizing others with
  | nil =>
      rw [List.map_eq_nil_iff.mp same]
      exact .nil
  | @cons scope outer binders around names apart rest ih =>
      rcases List.map_eq_cons_iff.mp same with ⟨other, others, rfl, sameScope, sameRest⟩
      rcases Prod.mk.inj sameScope with ⟨sameKind, sameNames⟩
      apply Unshadowed.cons
      · rw [names, sameNames]
      · intro passed entry among mayNot
        rw [sameKind] at passed
        exact ScopeStack.locateIn_function_congr sameRest (apart passed entry among mayNot)
      · exact ih sameRest

namespace ScopeStack

variable {stack before after : ScopeStack} {binders : List (String × Binder)}

theorem Unshadowed.congr (unshadowed : stack.Unshadowed binders)
    (same : after.outline = stack.outline) : after.Unshadowed binders := by
  rcases unshadowed with ⟨layers, flat, layered⟩
  exact ⟨layers, flat, layered.congr same⟩

theorem Unshadowed.enter (unshadowed : stack.Unshadowed binders) (kind : ScopeKind) :
    (stack.enter kind).Unshadowed binders := by
  rcases unshadowed with ⟨layers, flat, layered⟩
  refine ⟨[] :: layers, flat, .cons rfl ?_ layered⟩
  exact fun _ _ none => nomatch none

/-- One more name in the innermost scope, which is free in the same function where it may not
shadow. -/
theorem Unshadowed.bound {name : String} {binder : Binder} (unshadowed : stack.Unshadowed binders)
    (free : binder.mayShadow = false → stack.locate? .function name = none) (type : Ty) :
    (stack.bound name type).Unshadowed ((name, binder) :: binders) := by
  rcases unshadowed with ⟨layers, rfl, layered⟩
  rcases stack with ⟨inner, outer⟩
  cases layered with
  | @cons _ _ own around names apart rest =>
      refine ⟨((name, binder) :: own) :: around, rfl, .cons ?_ ?_ rest⟩
      · exact congrArg (name :: ·) names
      · intro passed entry among mayNot
        rcases List.mem_cons.mp among with rfl | earlier
        · exact (locateIn_function_eq_none_iff.mp (free mayNot)).2 passed
        · exact apart passed entry earlier mayNot

theorem map_symbols_eq (stack : ScopeStack) :
    stack.symbols.map (·.1) = stack.outline.flatMap (·.2) := by
  rw [symbols, outline, List.map_flatMap, List.flatMap_map]
  rfl

theorem outline_update (stack : ScopeStack) (name : String) (type : Ty) :
    (stack.update name type).outline = stack.outline := by
  apply map_modifyInnermost
  intro scope
  have names : (scope.rebind name type).symbols.map (·.1) = scope.symbols.map (·.1) := by
    rw [Scope.rebind, List.map_map]
    apply List.map_congr_left
    intro symbol _
    by_cases here : symbol.1 = name <;> simp [here]
  exact congrArg (Prod.mk _) names

theorem outline_of_settles {returns : Prop} (settles : before.Settles returns after) :
    after.outline = before.outline :=
  Settled.map_eq settles Scope.outline fun _ _ _ _ => rfl

/-- Nothing but the names of the innermost scope has changed. -/
theorem Kept.outline_eq {returns : Prop} (kept : before.Kept returns after) :
    after.outline = { before with
      inner := { before.inner with symbols := after.inner.symbols } }.outline := by
  have same := Settled.map_eq kept Scope.outline fun _ _ _ _ => rfl
  simp only [scopes, restored, List.map_cons, List.cons.injEq] at same
  rcases same with ⟨sameInner, sameOuter⟩
  have sameKind : after.inner.isFunction = before.inner.isFunction := congrArg Prod.fst sameInner
  simp only [outline, scopes, List.map_cons, sameOuter]
  exact congrArg (· :: _) (congrArg (Prod.mk · _) sameKind)

end ScopeStack

section Steps

variable {state after : CheckState}

theorem unshadowed_of_define {binders : List (String × Binder)} {name : String} {type : Ty}
    {binder : Binder} (defined : define name type state = .ok () after)
    (unshadowed : state.scopes.Unshadowed binders)
    (free : binder.mayShadow = false → state.scopes.locate? .function name = none) :
    after.scopes.Unshadowed ((name, binder) :: binders) := by
  rw [(scopes_of_define defined).2]
  exact unshadowed.bound free type

theorem unshadowed_of_loop {between : CheckState} {binders : List (String × Binder)}
    {name : String} {type : Ty} (unshadowed : state.scopes.Unshadowed binders)
    (same : state.scopes = between.scopes)
    (defined : define name type (between.entered .loop) = .ok () after) :
    after.scopes.Unshadowed ((name, .loopVariable) :: binders) := by
  rw [same] at unshadowed
  have entered : (between.entered .loop).scopes.Unshadowed binders := unshadowed.enter .loop
  exact unshadowed_of_define defined entered nofun

/-- A statement that may not shadow has found its name free in the same function. -/
theorem free_of_checkStmt {stmt : Stmt} (ran : checkStmt stmt state = .ok () after)
    {name : String} {binder : Binder} (binds : stmt.binders = [(name, binder)])
    (mayNot : binder.mayShadow = false) : state.scopes.locate? .function name = none := by
  cases stmt with
  | varDecl position id declaredName declared initializer =>
      cases binds
      rcases ok_of_checkStmt_varDecl ran with ⟨actual, between, last, ranExpr, declares, rfl⟩
      rcases ok_of_bind_eq_ok declares with ⟨_, _, free, _⟩
      have same := ((keeps_checkExpr initializer).of_ok ranExpr).2
      have missing := locate?_of_requireUnbound free
      rw [← same] at missing
      exact missing
  | fnDecl declaration =>
      cases binds
      contradiction
  | templateDecl position declaredName attributes methods =>
      cases binds
      rcases ok_of_checkStmt_templateDecl ran with ⟨declared, _, _, _, ranDeclare, _⟩
      exact ScopeStack.locate?_of_lookup? (ok_of_declareTemplate ranDeclare).1
  | _ => contradiction

/-- An accepted statement adds what it binds to the names of the innermost scope. -/
theorem outline_of_checkStmt {stmt : Stmt} (ran : checkStmt stmt state = .ok () after) :
    (stmt.binders = [] ∧ after.scopes.outline = state.scopes.outline) ∨
      ∃ name binder type, stmt.binders = [(name, binder)] ∧
        after.scopes.outline = (state.scopes.bound name type).outline := by
  have gained := ((keeps_checkStmt stmt).of_ok ran).2
  have kept := gained.kept.outline_eq
  rcases gained.symbols with same | ⟨name, type, declared, _, added⟩
  · rw [same] at kept
    refine .inl ⟨?_, kept⟩
    rcases adds_of_checkStmt ran with ⟨added, whole, stand⟩
    have names : after.scopes.symbols.map (·.1) = state.scopes.symbols.map (·.1) := by
      rw [ScopeStack.map_symbols_eq, kept]
      exact (ScopeStack.map_symbols_eq state.scopes).symm
    rw [whole, List.map_append, List.append_left_eq_self, List.map_eq_nil_iff] at names
    subst names
    exact List.forall₂_nil_right_iff.mp stand
  · rw [added] at kept
    cases stmt with
    | varDecl | fnDecl | templateDecl =>
        cases declared
        exact .inr ⟨_, _, type, rfl, kept⟩
    | _ => contradiction

theorem names_of_stand {binders : List (String × Binder)} {symbols : List (String × Ty)}
    (stand : List.Forall₂ Stands binders symbols) : binders.map (·.1) = symbols.map (·.1) := by
  induction stand with
  | nil => rfl
  | cons stands _ ih => simp only [List.map_cons, stands.1, ih]

/-- The scope of a function binds its parameters, and the members of its template. Around it the
scopes stay as they are. -/
theorem scopes_of_enterFunction {signature : Signature} {template : Option Template}
    (ran : enterFunction signature template state = .ok () after) :
    after.scopes.outer = state.scopes.scopes ∧ after.scopes.inner.isFunction = true ∧
      (functionBinders signature template).map (·.1) = after.scopes.inner.symbols.map (·.1) := by
  have entered : Inside (.function signature) True state.scopes after.scopes :=
    ((keeps_enterFunction signature template).of_ok ran).2
  have sameOuter : after.scopes.outer = state.scopes.scopes :=
    Settled.outer_eq_of_function entered rfl
  rcases adds_of_enterFunction ran with ⟨added, whole, stand⟩
  have own : after.scopes.inner.symbols = added := by
    have split : after.scopes.symbols = after.scopes.inner.symbols ++ state.scopes.symbols := by
      rw [ScopeStack.symbols, ScopeStack.scopes, List.flatMap_cons, sameOuter]
      rfl
    rw [split] at whole
    exact List.append_cancel_right whole
  exact ⟨sameOuter, ScopeStack.Kept.inner_isFunction entered, own ▸ names_of_stand stand⟩

/-- Around the scope of a function that is entered nothing is shadowed that was not before. -/
theorem unshadowed_of_enterFunction {signature : Signature} {template : Option Template}
    {binders : List (String × Binder)} (unshadowed : state.scopes.Unshadowed binders)
    (ran : enterFunction signature template state = .ok () after) :
    after.scopes.Unshadowed (functionBinders signature template ++ binders) := by
  rcases unshadowed with ⟨layers, rfl, layered⟩
  rcases scopes_of_enterFunction ran with ⟨sameOuter, isFunction, names⟩
  refine ⟨functionBinders signature template :: layers, rfl, ?_⟩
  rw [ScopeStack.scopes, sameOuter]
  apply Unshadowed.cons names _ layered
  intro passed
  rw [isFunction] at passed
  contradiction

end Steps

namespace Visit

variable {visit next : Visit}

/-- No binder of a visit shadows that may not. -/
def Unshadowed (visit : Visit) : Prop :=
  visit.state.scopes.Unshadowed visit.binders

theorem Leads.unshadowed (leads : visit.Leads next) (accepted : visit.Accepted)
    (unshadowed : visit.Unshadowed) : next.Unshadowed := by
  cases leads with
  | firstExpr expr rest state binders => exact unshadowed
  | laterExprs rest binders ranFirst =>
      have same := ((keeps_checkExpr _).of_ok ranFirst).2
      exact unshadowed.congr (by rw [same])
  | operands expr state binders => exact unshadowed
  | literalType params body state binders => exact unshadowed
  | literal binders prepares => exact unshadowed
  | firstStmt stmt rest state binders => exact unshadowed
  | @laterStmts stmt rest state after binders ranFirst =>
      show after.scopes.Unshadowed (stmt.binders ++ binders)
      rcases outline_of_checkStmt ranFirst with ⟨none, same⟩ | ⟨name, binder, type, one, same⟩
      · rw [none]
        exact unshadowed.congr same
      · rw [one]
        exact (unshadowed.bound (free_of_checkStmt ranFirst one) type).congr same
  | stmtOperands stmt state binders => exact unshadowed
  | declaredType id name declared binders ranFirst =>
      have same := ((keeps_checkExpr _).of_ok ranFirst).2
      exact unshadowed.congr (by rw [← same]; rfl)
  | block content state binders => exact unshadowed.enter .block
  | thenBlock thenBlock elseBlock binders ranCondition =>
      have same := ((keeps_checkExpr _).of_ok ranCondition).2
      exact (unshadowed.enter .branch).congr (by rw [CheckState.entered, ← same]; rfl)
  | elseBlock elseBlock binders ranCondition ranThen =>
      have same := ((keeps_checkExpr _).of_ok ranCondition).2
      have settles := ((keeps_within (keeps_checkBody _)).of_ok ranThen).2
      have settled := ScopeStack.outline_of_settles settles
      rw [← same] at settled
      exact (unshadowed.congr settled).enter .branch
  | whileBody body binders ranCondition =>
      have same := ((keeps_checkExpr _).of_ok ranCondition).2
      exact (unshadowed.enter .loop).congr (by rw [CheckState.entered, ← same]; rfl)
  | rangeBody body binders ranParts defined =>
      have same := ((keeps_checkExprs _).of_ok ranParts).2
      exact unshadowed_of_loop unshadowed same defined
  | eachBody body binders ranIterable defined =>
      have same := ((keeps_checkExpr _).of_ok ranIterable).2
      exact unshadowed_of_loop unshadowed same defined
  | functionType declaration state binders => exact unshadowed
  | @function declaration state declared prepared binders defined prepares =>
      have bound : declared.scopes.Unshadowed ((declaration.name, .function) :: binders) :=
        unshadowed_of_define defined unshadowed (by simp [Binder.mayShadow])
      exact bound.congr (ScopeStack.outline_update _ _ _)
  | attributeType binders member defined =>
      rcases accepted with ⟨_, ran⟩
      rcases ok_of_checkStmt_templateDecl ran with ⟨_, _, _, _, ranDeclare, _⟩
      have free := ScopeStack.locate?_of_lookup? (ok_of_declareTemplate ranDeclare).1
      exact unshadowed_of_define defined unshadowed fun _ => free
  | signatures binders ranDeclare =>
      rcases ok_of_declareTemplate ranDeclare with ⟨missing, defined, _⟩
      have free := ScopeStack.locate?_of_lookup? missing
      exact unshadowed_of_define defined unshadowed fun _ => free
  | methods binders ranDeclare prepares =>
      rcases ok_of_declareTemplate ranDeclare with ⟨missing, defined, _⟩
      rcases scopes_of_define defined with ⟨unbound, bound⟩
      rcases scopes_of_prepareMethods unbound bound prepares with ⟨_, _, boundReady⟩
      have free := ScopeStack.locate?_of_lookup? missing
      apply (unshadowed.bound (fun _ => free) _).congr
      rw [boundReady]
      rfl
  | methodType template index method rest state binders => exact unshadowed
  | @laterSignatures template index method rest state prepared binders prepares =>
      exact unshadowed.congr (ScopeStack.outline_update _ _ _)
  | method template index method rest state binders => exact unshadowed
  | @laterMethods template index method rest state after resolved binders ranFirst =>
      have same := ((keeps_inFunction _ _ (keeps_checkBody _)).of_ok ranFirst).2
      apply unshadowed.congr
      rw [same]
      exact ScopeStack.outline_update _ _ _
  | body body binders ranEnter => exact unshadowed_of_enterFunction unshadowed ranEnter

theorem Reaches.unshadowed (reaches : visit.Reaches next) (accepted : visit.Accepted)
    (unshadowed : visit.Unshadowed) : next.Unshadowed := by
  induction reaches with
  | refl => exact unshadowed
  | tail before leads ih => exact leads.unshadowed (Reaches.accepted before accepted) ih

end Visit

/-- While an accepted program is checked, a name that is bound in a scope is not bound in the scopes
around it in the same function. Excepted are the loop variables of `range` and `each`, and
functions. Everything that stands in the program is checked at such a moment. -/
theorem only_loops_and_functions_shadow {program : Program} {analysis : Analysis}
    (accepted : program.check = .ok analysis) :
    (∀ part, program.Contains part → ∃ visit, program.Visits visit ∧ visit.part = part) ∧
      ∀ visit, program.Visits visit → ∃ layers, layers.flatten = visit.binders ∧
        Unshadowed visit.state.scopes.scopes layers := by
  refine ⟨fun part contains => Program.visits_of_contains accepted contains, ?_⟩
  intro visit visits
  apply visits.unshadowed (Program.start_accepted accepted)
  exact ⟨[[]], rfl, .cons rfl (fun _ _ among => nomatch among) .nil⟩

/-- A variable outside of a function and one of the same name in it, with a block behind. -/
def reusedName : Program :=
  ⟨[.varDecl Position.unknown 1024 "x" .int (.integer 1),
    .fnDecl
      { position := Position.unknown, id := 1027, name := "f"
        signature := { result := .void, params := [("y", .int)] }
        body := ⟨Position.unknown,
          [.varDecl Position.unknown 1025 "x" .str (.string "a"),
            .block ⟨Position.unknown, [.varDecl Position.unknown 1026 "z" .int (.integer 2)]⟩]⟩ }]⟩

theorem reusedName_unshadowed :
    ∃ analysis, reusedName.check = .ok analysis ∧
      (∀ part, reusedName.Contains part → ∃ visit, reusedName.Visits visit ∧ visit.part = part) ∧
      ∀ visit, reusedName.Visits visit → ∃ layers, layers.flatten = visit.binders ∧
        Unshadowed visit.state.scopes.scopes layers := by
  have accepted : ∃ analysis, reusedName.check = .ok analysis := ⟨_, rfl⟩
  rcases accepted with ⟨analysis, ran⟩
  exact ⟨analysis, ran, only_loops_and_functions_shadow ran⟩

/-- A loop whose variable has the name of a variable around it. -/
def reboundByLoop : Program :=
  ⟨[.varDecl Position.unknown 1024 "i" .int (.integer 1),
    .range Position.unknown "i" (.integer 0) (.integer 3) (.integer 1)
      ⟨Position.unknown, [.echo Position.unknown (.identifier "i")]⟩]⟩

/-- The body of the loop is checked where its own scope and the global one around it bind `i`. -/
theorem loop_variable_shadows :
    (∃ analysis, reboundByLoop.check = .ok analysis) ∧ ∃ visit, reboundByLoop.Visits visit ∧
      ∃ scope outer rest, visit.state.scopes.scopes = scope :: outer ∧
        scope.isFunction = false ∧ scope.binds "i" = true ∧
          visit.binders = ("i", .loopVariable) :: rest ∧
            ScopeStack.locateIn .function "i" outer ≠ none := by
  have visits : reboundByLoop.Visits _ :=
    .head (.laterStmts _ _ rfl) (.head (.firstStmt _ _ _ _) (.single (.rangeBody _ _ rfl rfl)))
  exact ⟨⟨_, rfl⟩, _, visits, _, _, _, rfl, rfl, rfl, rfl, by decide⟩

end ScriptCheck
