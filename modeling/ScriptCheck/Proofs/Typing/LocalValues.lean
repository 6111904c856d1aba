import ScriptCheck.Proofs.Typing.Abandoned
import ScriptCheck.Proofs.Typing.Prepared
import ScriptCheck.Proofs.Typing.Uniformity
import ScriptCheck.Proofs.Typing.UnusedCheck

/-!
# Returned values behind local variables

The result of a function is searched for in scopes that hold the parameters and the variables
declared on the way to the return statement. Variables whose first values have no type at that stage
are passed over. A returned value that uses none of the variables has the same type behind them as
in front of them, whether their first values have types or not.

This depends on the faults that are passed over. A fault inside of a function without a name leaves
the scope of this function on top of all others, and it hides the parameters.
-/

namespace ScriptCheck

open Checker

/-- The declaration of a variable in the body of a function. -/
structure LocalDecl where
  position : Position
  id : Nat
  name : String
  declared : Ty
  initializer : Expr

def LocalDecl.stmt (decl : LocalDecl) : Stmt :=
  .varDecl decl.position decl.id decl.name decl.declared decl.initializer

/-- The type of the variable is written, or no function without a name stands in the value that it
is taken from. -/
def LocalDecl.IsFlat (decl : LocalDecl) : Prop :=
  decl.declared.isInfer = true → decl.initializer.IsFlat

/-- Unless scopes have been left behind, no more has changed than what the names are bound to. No
scopes are left behind by flat code. -/
structure ScopeStack.BindsOnly (flat : Prop) (names : List String) (before after : ScopeStack) :
    Prop where
  depth : before.depth ≤ after.depth
  same : after.depth = before.depth → after.without names = before.without names
  level : flat → after.depth = before.depth

namespace ScopeStack.BindsOnly

variable {flat : Prop} {names : List String} {before between after : ScopeStack}

theorem refl (stack : ScopeStack) : stack.BindsOnly flat names stack :=
  ⟨Nat.le_refl _, fun _ => rfl, fun _ => rfl⟩

theorem trans (first : before.BindsOnly flat names between)
    (second : between.BindsOnly flat names after) : before.BindsOnly flat names after := by
  have lower := first.depth
  have upper := second.depth
  refine ⟨by omega, fun level => ?_, fun isFlat => ?_⟩
  · rw [second.same (by omega), first.same (by omega)]
  · rw [second.level isFlat, first.level isFlat]

theorem of_bound {name : String} (among : name ∈ names) (stack : ScopeStack) (type : Ty) :
    stack.BindsOnly flat names (stack.bound name type) := by
  refine ⟨Nat.le_refl _, fun _ => ?_, fun _ => rfl⟩
  simp only [without, bound, stack.inner.without_bind_hidden among]

end ScopeStack.BindsOnly

section Passing

variable {flat : Prop} {names : List String}

/-- An attempt changes no scope, whether it succeeds or not. -/
theorem Checker.Unwinds.attempt {α : Type} {action : Checker α} (unwinds : Unwinds flat action)
    (state : CheckState) :
    ∃ found after, Checker.attempt action state = .ok found after ∧
      state.scopes.BindsOnly flat names after.scopes := by
  rw [attempt_apply]
  cases ran : action state with
  | ok value after =>
      refine ⟨some value, after, rfl, ?_⟩
      rw [← (unwinds.keeps.of_ok ran).2]
      exact .refl _
  | error diagnostic after =>
      have entered := unwinds.leaves state diagnostic after ran
      refine ⟨none, after, rfl, entered.depth_le, fun level => ?_, fun isFlat => ?_⟩
      · rw [entered.eq_of_depth level]
      · rw [← unwinds.level isFlat state diagnostic after ran]

/-- A name that a search comes by gets bound or keeps its type. -/
theorem defineFound_passes {name : String} (among : name ∈ names) (type : Option Ty)
    (state : CheckState) :
    ∃ after, defineFound name type state = .ok () after ∧
      state.scopes.BindsOnly flat names after.scopes := by
  cases type with
  | none => exact ⟨state, rfl, .refl _⟩
  | some type =>
      have attempted : defineFound name (some type) state =
          (attempt (define name type) >>= fun _ => pure ()) state := rfl
      rw [attempted, bind_apply, attempt_apply, define_apply]
      cases defined : state.scopes.define? name type with
      | none => exact ⟨state, rfl, .refl _⟩
      | some extended =>
          rcases ScopeStack.declared_of_define? defined with ⟨_, found, rfl⟩
          exact ⟨_, rfl, .of_bound among _ found⟩

/-- A local variable is passed over, whether its first value has a type or not. -/
theorem searchStmt_passes {decl : LocalDecl} (among : decl.name ∈ names)
    (plain : flat → decl.IsFlat) (state : CheckState) :
    ∃ after, searchStmt decl.stmt state = .ok none after ∧
      state.scopes.BindsOnly flat names after.scopes := by
  rcases decl with ⟨position, id, name, declared, initializer⟩
  have unwinds : Unwinds flat
      (if declared.isInfer then checkExpr initializer else resolve declared) := by
    split
    · rename_i isInfer
      exact unwinds_checkExpr initializer fun isFlat => plain isFlat isInfer
    · exact unwinds_resolve declared
  rcases unwinds.attempt (state.movedTo position) with ⟨type, between, ran, passes⟩
  rcases defineFound_passes among type between with ⟨after, defines, binds⟩
  refine ⟨after, ?_, passes.trans binds⟩
  rw [LocalDecl.stmt, searchStmt]
  have moves : moveTo (Stmt.position (.varDecl position id name declared initializer)) state =
      .ok () (state.movedTo position) := rfl
  rw [bind_of_ok moves, bind_of_ok ran, bind_of_ok defines]
  rfl

/-- The search goes on behind local variables as if it had begun there. -/
theorem searchStmts_passes {locals : List LocalDecl} (among : ∀ decl ∈ locals, decl.name ∈ names)
    (plain : ∀ decl ∈ locals, flat → decl.IsFlat) (state : CheckState) :
    ∃ after, (∀ rest, searchStmts (locals.map LocalDecl.stmt ++ rest) state =
        searchStmts rest after) ∧
      state.scopes.BindsOnly flat names after.scopes := by
  induction locals generalizing state with
  | nil => exact ⟨state, fun _ => rfl, .refl _⟩
  | cons decl locals ih =>
      rcases List.forall_mem_cons.mp among with ⟨amongFirst, amongRest⟩
      rcases List.forall_mem_cons.mp plain with ⟨plainFirst, plainRest⟩
      rcases searchStmt_passes amongFirst plainFirst state with ⟨between, passed, binds⟩
      rcases ih amongRest plainRest between with ⟨after, searches, bindsRest⟩
      refine ⟨after, fun rest => ?_, binds.trans bindsRest⟩
      rw [List.map_cons, List.cons_append, searchStmts, bind_of_ok passed]
      exact searches rest

/-- No scope is left behind by local variables whose first values hold no functions. -/
theorem depth_behind_flat_locals {locals : List LocalDecl}
    (plain : ∀ decl ∈ locals, decl.IsFlat) {state reached : CheckState} {found : Option Ty}
    (ran : searchStmts (locals.map LocalDecl.stmt) state = .ok found reached) :
    reached.scopes.depth = state.scopes.depth := by
  have among (decl : LocalDecl) (member : decl ∈ locals) : decl.name ∈ locals.map (·.name) :=
    List.mem_map_of_mem member
  rcases searchStmts_passes among (fun decl member (_ : True) => plain decl member) state with
    ⟨after, searches, binds⟩
  have passed := searches []
  rw [List.append_nil, ran] at passed
  rw [(EStateM.Result.ok.inj passed).2]
  exact binds.level trivial

end Passing

theorem ScopeStack.mem_symbols_of_without {names : List String} {stack : ScopeStack}
    {symbol : String × Ty} (member : symbol ∈ (stack.without names).symbols) :
    symbol ∈ stack.symbols := by
  rw [symbols, scopes_without, List.flatMap_map] at member
  rcases List.mem_flatMap.mp member with ⟨scope, among, bound⟩
  exact List.mem_flatMap.mpr ⟨scope, among, List.mem_of_mem_filter bound⟩

/-- An expression has the same type wherever only names that it does not use are bound in another
way, unless the types in scope mention them. -/
theorem CheckState.type?_of_unused {names : List String} {expr : Expr} {state other : CheckState}
    (unused : Unused.Fits names (.expr expr))
    (unmentioned : ∀ symbol ∈ state.scopes.symbols, ∀ name ∈ names,
      Mention.name name ∉ symbol.2.mentions)
    (position : state.position = other.position)
    (same : other.scopes.without names = state.scopes.without names) :
    other.type? expr = state.type? expr := by
  have overlooks : Unused.Overlooks names false _ (checkExpr expr) :=
    Unused.overlooks_checkExpr expr unused
  have obeyed : (Unused.limits names).Obeyed false (state.without names) := by
    refine ⟨fun symbol member mention mentioned => ?_, nofun, trivial⟩
    cases mention with
    | name name =>
        exact fun among => unmentioned symbol (ScopeStack.mem_symbols_of_without member) name among
          mentioned
    | template copy => trivial
  have sameScopes : (other.without names).scopes = (state.without names).scopes := same
  have obeyedOther : (Unused.limits names).Obeyed false (other.without names) :=
    ⟨sameScopes ▸ obeyed.symbols, nofun, trivial⟩
  have without {start : CheckState}
      (obeyed : (Unused.limits names).Obeyed false (start.without names)) :
      (start.without names).type? expr = start.type? expr := by
    rw [type?, type?, overlooks.same start obeyed]
    cases checkExpr expr start <;> rfl
  rw [← without obeyed, ← without obeyedOther]
  have samePosition : (other.without names).position = (state.without names).position :=
    position.symm
  exact type?_congr samePosition sameScopes expr

section Returning

variable {signature : Signature} {template : Option Template} {locals : List LocalDecl}
variable {position returned : Position} {value : Expr} {state entered : CheckState} {type : Ty}

theorem firstReturn?_behind_locals :
    Block.firstReturn? ⟨position, locals.map LocalDecl.stmt ++ [.returning returned (some value)]⟩ =
      some (some value) := by
  rw [Block.firstReturn?]
  induction locals with
  | nil => rfl
  | cons decl locals ih => exact ih

/-- A search that has come to a return statement ends with the type of the returned value. -/
theorem searchStmts_returning {reached : CheckState}
    (typed : (reached.movedTo returned).type? value = some type) :
    ∃ after, searchStmts [.returning returned (some value)] reached = .ok (some type) after := by
  rcases CheckState.type?_eq_some.mp typed with ⟨after, ran⟩
  have moves : moveTo (Stmt.position (.returning returned (some value))) reached =
      .ok () (reached.movedTo returned) := rfl
  have searched : searchStmt (.returning returned (some value)) reached =
      .ok (some type) after := by
    rw [searchStmt, bind_of_ok moves, checkReturned, bind_of_ok ran]
    rfl
  refine ⟨after, ?_⟩
  rw [searchStmts, bind_of_ok searched]
  rfl

/-- The search finds the type of a returned value that uses no variable declared before it, if no
fault that is passed over leaves a scope behind, and no type in scope mentions a template that a
variable hides. -/
theorem prepared_behind_locals (isOpen : signature.result.isInfer = true)
    (enters : enterFunction signature template state = .ok () entered)
    (typed : (entered.movedTo returned).type? value = some type) (known : type.isInfer = false)
    (unused : ∀ decl ∈ locals, ¬ (Part.expr value).Uses decl.name)
    (unmentioned : ∀ symbol ∈ entered.scopes.symbols, ∀ decl ∈ locals,
      Mention.name decl.name ∉ symbol.2.mentions)
    (level : ∀ found reached, searchStmts (locals.map LocalDecl.stmt) entered =
      .ok found reached → reached.scopes.depth = entered.scopes.depth) :
    prepareSignature signature template
        ⟨position, locals.map LocalDecl.stmt ++ [.returning returned (some value)]⟩ state =
      .ok (signature.withResult type) state := by
  have among (decl : LocalDecl) (member : decl ∈ locals) : decl.name ∈ locals.map (·.name) :=
    List.mem_map_of_mem member
  rcases searchStmts_passes among (fun _ _ => False.elim) entered with ⟨reached, searches, binds⟩
  have stays : reached.scopes.depth = entered.scopes.depth := by
    have passed := searches []
    rw [List.append_nil] at passed
    exact level none reached passed
  have fits : Unused.Fits (locals.map (·.name)) (.expr value) := by
    intro name uses member
    rcases List.mem_map.mp member with ⟨decl, declared, rfl⟩
    exact unused decl declared uses
  have typedBehind : (reached.movedTo returned).type? value = some type := by
    rw [← typed]
    refine CheckState.type?_of_unused fits (fun symbol member name declared => ?_) rfl
      (binds.same stays)
    rcases List.mem_map.mp declared with ⟨decl, isLocal, rfl⟩
    exact unmentioned symbol member decl isLocal
  rcases searchStmts_returning typedBehind with ⟨after, searched⟩
  have found : (enterFunction signature template >>= fun _ => searchBody
      ⟨position, locals.map LocalDecl.stmt ++ [.returning returned (some value)]⟩) state =
        .ok (some type) after := by
    rw [bind_of_ok enters, searchBody_eq, searches, searched]
  have returns : Block.returnsValue
      ⟨position, locals.map LocalDecl.stmt ++ [.returning returned (some value)]⟩ = true := by
    rw [Block.returnsValue, firstReturn?_behind_locals]
    rfl
  rw [prepareSignature_of_value isOpen returns, found]
  simp [Signature.withFound, known]

end Returning

/-- A function with a parameter whose result is still to be found. -/
def openSignature : Signature :=
  { result := .infer, params := [("p", .int)] }

/-- The state in which the result of the function is searched for. It is bound already. -/
def openState : CheckState :=
  { CheckState.initial with
    scopes := ScopeStack.initial.bound "f" (.function openSignature) }

/-- The scope of the function has been entered. -/
def openEntered : CheckState :=
  { openState with
    scopes := (openState.scopes.enter (.function openSignature)).bound "p" .int }

def openLocal (initializer : Expr) : LocalDecl :=
  { position := Position.unknown, id := 1, name := "g", declared := .infer, initializer }

/-- The parameter is returned behind the declaration of a variable. -/
def returnsBehind (initializer : Expr) : Block :=
  ⟨Position.unknown, [openLocal initializer].map LocalDecl.stmt ++
    [.returning Position.unknown (some (.identifier "p"))]⟩

/-- A call of the function itself, which has no type while the result is searched for. -/
def openCall : Expr :=
  .call (.identifier "f") [.integer 1]

theorem notUses_of_ne {name other : String} (different : other ≠ name) :
    ¬ (Part.expr (.identifier name)).Uses other := by
  rintro ⟨inner, within, member⟩
  rcases Relation.ReflTransGen.cases_head within with rfl | ⟨next, holds, _⟩
  · exact different (by simpa [Part.names, Part.usedNames, Part.functions]
      using member)
  · simpa [Part.inner, Expr.operands] using holds.mem_inner

theorem openCall_isFlat : openCall.IsFlat := by
  intro params body within
  rcases Relation.ReflTransGen.cases_head within with same | ⟨next, holds, within⟩
  · simp [openCall] at same
  · cases List.mem_singleton.mp holds.mem_inner
    rcases Relation.ReflTransGen.cases_head within with same | ⟨last, holds, _⟩
    · simp at same
    · exact List.not_mem_nil holds.mem_inner

/-- A variable is passed over whose first value is a call of the function itself. -/
theorem openCall_prepared :
    openEntered.type? openCall = none ∧
    prepareSignature openSignature none (returnsBehind openCall) openState =
      .ok (openSignature.withResult .int) openState := by
  refine ⟨rfl, ?_⟩
  have enters : enterFunction openSignature none openState = .ok () openEntered := rfl
  have typed : (openEntered.movedTo Position.unknown).type? (.identifier "p") = some .int := rfl
  refine prepared_behind_locals rfl enters typed rfl ?_ ?_ ?_
  · intro decl member
    cases List.mem_singleton.mp member
    exact notUses_of_ne (by decide)
  · intro symbol member decl _
    have listed : openEntered.scopes.symbols =
      [("p", .int), ("f", .function openSignature)] := rfl
    rw [listed] at member
    rcases List.mem_pair.mp member with rfl | rfl
    · exact List.not_mem_nil
    · exact List.not_mem_nil
  · intro found reached ran
    refine depth_behind_flat_locals (fun decl member _ => ?_) ran
    cases List.mem_singleton.mp member
    exact openCall_isFlat

/-- The call fails inside of a function without a name, and the scope of this function hides the
parameter. So the result stays open, and the whole function is refused. -/
theorem literal_hides_parameter :
    let literal : Expr := .function [] ⟨Position.unknown,
      [.returning Position.unknown (some openCall)]⟩
    enterFunction openSignature none openState = .ok () openEntered ∧
    (openEntered.movedTo Position.unknown).type? (.identifier "p") = some .int ∧
    ¬ (Part.expr (.identifier "p")).Uses "g" ∧
    prepareSignature openSignature none (returnsBehind literal) openState ≠
      .ok (openSignature.withResult .int) openState ∧
    (Program.mk [.fnDecl ⟨Position.unknown, 2, "f", openSignature, returnsBehind literal⟩]).check =
      .error { cause := .typing (.returnTypeNotInferred "f"), position := Position.unknown } := by
  intro literal
  have stays : prepareSignature openSignature none (returnsBehind literal) openState =
    .ok openSignature openState := rfl
  refine ⟨rfl, rfl, notUses_of_ne (by decide), ?_, rfl⟩
  rw [stays]
  nofun

end ScriptCheck
