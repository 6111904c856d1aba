import ScriptCheck.Proofs.Typing.Answers
import ScriptCheck.Proofs.Typing.RenamedBlocks
import ScriptCheck.Proofs.Typing.Settling

/-!
# Renamed code is checked alike

The check of every form and that of its renamed form, and the search for a first returned value in
both, come out alike where the new name is harmless. The states between the steps of a form are
known from the steps before, so that every step starts at a moment of the check of the program.
-/

namespace ScriptCheck

open Checker

section Answers

variable {type : Ty} {state after : CheckState} {name : String}

theorem ne_named_of_resolve {found : Ty} (ran : resolve found state = .ok type after) :
    type ≠ .named name := by
  unfold resolve at ran
  split at ran
  · rcases ok_of_bind_eq_ok ran with ⟨template, _, _, ended⟩
    rw [← (EStateM.Result.ok.inj ended).1]
    exact nofun
  · rename_i other
    rw [← (EStateM.Result.ok.inj ran).1]
    exact other name

/-- An expression never has a bare name as its type. -/
theorem ne_named_of_checkExpr {expr : Expr} (ran : checkExpr expr state = .ok type after) :
    type ≠ .named name := by
  rw [checkExpr.eq_def] at ran
  rcases ok_of_bind_eq_ok ran with ⟨_, _, _, resolved⟩
  exact ne_named_of_resolve resolved

/-- An action that never finds a bare name. -/
def Unnamed (action : Checker Ty) : Prop :=
  ∀ state name after, action state ≠ .ok (.named name) after

theorem unnamed_pure {found : Ty} (other : ∀ name, found ≠ .named name) : Unnamed (pure found) :=
  fun _ name _ ran => other name (EStateM.Result.ok.inj ran).1

theorem unnamed_bind {α : Type} {action : Checker α} {rest : α → Checker Ty}
    (unnamed : ∀ value, Unnamed (rest value)) : Unnamed (action >>= rest) := by
  intro state name after ran
  rcases ok_of_bind_eq_ok ran with ⟨value, between, _, ran⟩
  exact unnamed value between name after ran

theorem unnamed_checkMap (entries : List (Expr × Expr)) : Unnamed (checkMap entries) := by
  cases entries with
  | nil =>
      rw [checkMap]
      exact unnamed_pure nofun
  | cons pair rest =>
      rw [checkMap]
      exact unnamed_bind fun _ => unnamed_bind fun _ => unnamed_bind fun _ => unnamed_bind fun _ =>
        unnamed_pure nofun

end Answers

namespace Renaming

theorem boundNames_of_settles {signature prepared : Signature}
    (settles : signature.Settles prepared) :
    boundNames prepared none = boundNames signature none := by
  simp only [boundNames, settles.params]

theorem boundNames_of_version {written current : Template} (version : written.Version current)
    {signature prepared : Signature} (settles : signature.Settles prepared) :
    boundNames prepared (some current) = boundNames signature (some written) := by
  have methods : current.methods.map (·.1) = written.methods.map (·.1) := by
    apply List.ext_getElem?
    intro index
    have related := version.methods index
    rw [List.getElem?_map, List.getElem?_map]
    generalize written.methods[index]? = before, current.methods[index]? = after at related
    cases related with
    | none => rfl
    | some same => exact congrArg some same.1.symm
  simp only [boundNames, Option.elim_some, settles.params, methods, version.attributes]

variable {names : Renaming} {program : Program}

theorem calls_of_name? {callee : Expr} {name : String} (isName : callee.name? = some name)
    (arguments : List Expr) (state : CheckState) :
    Moment.Calls name (.check (.expr (.call callee arguments)) state) := by
  cases callee with
  | identifier written =>
      cases isName
      exact .call arguments state
  | _ => contradiction

section Searches

variable {shape : Shape} {first second : CheckState} {rest : List Stmt}

/-- The initializer of a variable is tried alike, since no scopes are left behind where it
matters. -/
theorem outcomes_tried (harmless : names.Harmless program) {position : Position} {id : Nat}
    {name : String} {initializer : Expr}
    (place : names.At program shape
      (.search (.varDecl position id name .infer initializer :: rest) first))
    (states : names.States (names.Called program) shape (first.movedTo position)
      (second.movedTo position))
    (outcomes : names.Outcomes (names.Called program) shape Eq
      (checkExpr initializer (first.movedTo position))
      (checkExpr (names.expr shape initializer) (second.movedTo position))) :
    names.Outcomes (names.Called program) shape Eq
      (attempt (checkExpr initializer) (first.movedTo position))
      (attempt (checkExpr (names.expr shape initializer)) (second.movedTo position)) := by
  by_cases unchanged : shape = [] ∧ names.expr shape initializer = initializer
  · rcases unchanged with ⟨rfl, same⟩
    rw [same]
    exact outcomes_same _ states
  refine outcomes_attempt (unwinds_checkExpr _ False.elim) (unwinds_checkExpr _ False.elim)
    (fun diagnostic after failed => ?_) states outcomes
  by_contra deeper
  have strands : Moment.Strands
      (.search (.varDecl position id name .infer initializer :: rest) first) :=
    .initializer failed deeper
  by_cases outside : shape = []
  · subst outside
    exact harmless.around _ _ _ _ _ _ place.comes (fun same => unchanged ⟨rfl, same⟩) strands
  · exact harmless.stays _ (place.inside outside) strands

/-- Around a variable that a search has passed over, neither name is bound where it matters. -/
theorem unbound_of_passed (harmless : names.Harmless program) {position : Position} {id : Nat}
    {declared : Ty} {initializer : Expr} {after : CheckState}
    (place : names.At program shape
      (.search (.varDecl position id names.old declared initializer :: rest) first))
    (ran : searchStmt (.varDecl position id names.old declared initializer) first =
      .ok none after)
    (called : names.Called program) (unbound : after.scopes.inner.binds names.old = false)
    (either : names.declared shape id = .renamed ∨ shape.Hides) :
    names.Unbound after.scopes.outer := by
  by_contra around
  have misses : names.Misses
      (.search (.varDecl position id names.old declared initializer :: rest) first) :=
    .passed ran unbound around
  refine harmless.bound called _ ?_ misses
  by_cases hides : shape.Hides
  · exact .inl (place.inScope hides)
  · cases At.number_of_declared (either.resolve_right hides) hides
    exact .inr ⟨_, place.comes, .search ran⟩

/-- A function is searched before its name is bound, which is known to be bound around it. -/
theorem around_searched (harmless : names.Harmless program) {declaration : FnDecl}
    (place : names.At program shape (.search (.fnDecl declaration :: rest) first))
    (states : names.States (names.Called program) shape (first.movedTo declaration.position)
      (second.movedTo declaration.position))
    (isOpen : declaration.signature.result.isInfer = true)
    (returns : declaration.body.firstReturn?.any (·.isSome) = true) :
    names.Around (names.Called program) (names.bound shape declaration.name .kept)
      (first.movedTo declaration.position) (second.movedTo declaration.position) := by
  refine ⟨states.position, states.analysis, ?_⟩
  by_cases isOld : declaration.name = names.old
  case neg =>
    rw [names.bound_of_ne isOld]
    exact states.around.scopes
  rw [isOld, names.bound_old]
  refine states.around.scopes.skip False.elim False.elim fun called unbound either => ?_
  by_contra around
  exact harmless.bound called _ (.inl (place.inScope (either.resolve_left (by simp))))
    (.function isOld isOpen returns unbound around)

/-- A search comes by a template without binding it. In the scope of the variable, the template has
another name. -/
theorem States.passTemplate (states : names.States (names.Called program) shape first second)
    {name : String} (steady : names.Steady shape name) :
    names.States (names.Called program) (names.bound shape name .kept) first second := by
  refine ⟨states.position, states.analysis, ?_⟩
  by_cases isOld : name = names.old
  case neg =>
    rw [names.bound_of_ne isOld]
    exact states.scopes
  subst isOld
  rw [names.bound_old]
  have free (hides : shape.Hides) : False := (steady hides).1 rfl
  exact states.scopes.skip (fun _ => allowed_kept)
    (fun _ _ => Shape.read_ne_of_not_hides free) fun _ _ either => (free (either.resolve_left
      (by simp))).elim

end Searches

mutual

theorem alike_checkExpr (harmless : names.Harmless program) (expr : Expr) {shape : Shape}
    {first second : CheckState} (fits : names.Fits shape (.expr expr))
    (place : names.At program shape (.check (.expr expr) first))
    (states : names.States (names.Called program) shape first second) :
    names.Outcomes (names.Called program) shape Eq (checkExpr expr first)
      (checkExpr (names.expr shape expr) second) := by
  have inner {operand : Expr} (member : operand ∈ expr.operands) :
      names.Fits shape (.expr operand) := fits.of_holds (.operand member) Iff.rfl
  have operands := place.operands
  cases expr with
  | integer value => exact outcomes_resolved (outcomes_pure rfl states) nofun
  | float value => exact outcomes_resolved (outcomes_pure rfl states) nofun
  | string value => exact outcomes_resolved (outcomes_pure rfl states) nofun
  | boolean value => exact outcomes_resolved (outcomes_pure rfl states) nofun
  | null => exact outcomes_resolved (outcomes_pure rfl states) nofun
  | array elements =>
      rw [checkExpr, Renaming.expr, checkExpr]
      refine outcomes_resolved ((alike_checkElements harmless "array" elements (fun _ => inner)
        operands states).then fun _ _ _ _ => outcomes_pure rfl) fun name after ran => ?_
      exact absurd ran (unnamed_bind (fun _ => unnamed_pure (by simp)) first name after)
  | set elements =>
      rw [checkExpr, Renaming.expr, checkExpr, isEmpty_exprs]
      refine outcomes_resolved ((alike_checkElements harmless "set" elements (fun _ => inner)
        operands states).then fun _ _ _ _ states => ?_) fun name after ran => ?_
      · exact (outcomes_follow rfl states).then fun _ _ _ _ => outcomes_pure rfl
      · exact absurd ran (unnamed_bind (fun _ => unnamed_bind fun _ => unnamed_pure (by simp))
          first name after)
  | map entries =>
      rw [checkExpr, Renaming.expr, checkExpr]
      refine outcomes_resolved (alike_checkMap harmless entries (fun pair member =>
        ⟨inner ?_, inner ?_⟩) operands states) fun name after ran =>
          absurd ran (unnamed_checkMap entries first name after)
      · exact List.mem_flatMap.mpr ⟨pair, member, List.mem_cons_self⟩
      · exact List.mem_flatMap.mpr ⟨pair, member, List.mem_cons_of_mem _ List.mem_cons_self⟩
  | entity name attributes =>
      rw [checkExpr, Renaming.expr, checkExpr]
      have steady : names.Steady shape name :=
        place.steady_written harmless List.mem_cons_self
      refine outcomes_resolved ((outcomes_templateOr _ steady states).then ?_) ?_
      · intro template after after' ran states
        cases (state_of_templateOr ran).1
        have values (entry : String × Expr) (member : entry ∈ attributes) :
            names.Fits shape (.expr entry.2) := inner (List.mem_map_of_mem member)
        exact (alike_checkAttributes harmless template attributes values operands states).then
          fun _ _ _ _ => outcomes_pure rfl
      · intro name after ran
        exact absurd ran (unnamed_bind (fun _ => unnamed_bind fun _ => unnamed_pure (by simp))
          first name after)
  | function params body =>
      rw [checkExpr, Renaming.expr, checkExpr]
      have function := fits.function List.mem_cons_self fun stmt member =>
        .literalBody params member
      have steady (name : String)
          (mentioned : name ∈ Signature.referencedNames { result := .infer, params }) :
          names.Steady shape name := place.steady_written harmless mentioned
      refine outcomes_resolved ((outcomes_mentions steady states).then ?_) ?_
      · intro _ after after' ran states
        cases (ok_of_mentions ran).1
        refine (alike_prepared harmless body rfl function
          (fun name among => steady name ((Part.mem_of_entered among).resolve_left (by simp)))
          (fun inside seeks => place.search (.literal seeks)) states
          fun _ _ => states.around).then fun prepared ready _ ranPrepare states => ?_
        cases state_of_inferResult ranPrepare
        have sameNames := boundNames_of_settles (settles_of_prepareSignature ranPrepare)
        refine (alike_checked harmless body sameNames function
          (place.function (.visit (.literal [] ranPrepare))) states).then ?_
        exact fun _ _ _ _ => outcomes_pure rfl
      · intro name after ran
        exact absurd ran (unnamed_bind (fun _ => unnamed_bind fun _ => unnamed_bind fun _ =>
          unnamed_pure (by simp)) first name after)
  | identifier name =>
      rw [checkExpr, Renaming.expr, checkExpr]
      have usable : shape ≠ [] → name ≠ names.new := fits.usable List.mem_cons_self
      have located := states.locate?_read usable
      refine outcomes_resolved ?_ fun found after ran => ?_
      · rw [bind_of_ok (lookup?_apply _ _ _), bind_of_ok (lookup?_apply _ _ _), ScopeStack.lookup?,
          ScopeStack.lookup?, located]
        rcases second.scopes.locate? .function (names.name shape.read name) with _ | found
        · exact outcomes_fail _ _ states
        · exact outcomes_pure rfl states
      · rw [bind_of_ok (lookup?_apply _ _ _)] at ran
        cases bound : first.scopes.lookup? .function name with
        | none =>
            rw [bound] at ran
            contradiction
        | some type =>
            rw [bound] at ran
            cases (EStateM.Result.ok.inj ran).1
            exact place.steady_resolved harmless (.read bound)
  | unary operator fixity operand =>
      rw [checkExpr, Renaming.expr, checkExpr, stepOperand_expr]
      refine outcomes_resolved (outcomes_afterFollow states fun _ _ => ?_) fun name after ran => ?_
      · exact (alike_checkExpr harmless operand (inner List.mem_cons_self) operands.head
          states).then fun _ _ _ _ => outcomes_follow rfl
      · rcases ok_of_bind_eq_ok ran with ⟨_, _, _, ran⟩
        rcases ok_of_bind_eq_ok ran with ⟨type, _, ranOperand, followed⟩
        exact absurd (Rule.eq_of_unary (ok_of_follow followed).1).symm
          (ne_named_of_checkExpr ranOperand)
  | binary operator left right =>
      rw [checkExpr, Renaming.expr, checkExpr]
      refine outcomes_resolved ((alike_checkExpr harmless left (inner List.mem_cons_self)
        operands.head states).then fun _ _ _ ran states => ?_) fun name after ran => ?_
      · exact (alike_checkExpr harmless right (inner (by simp [Expr.operands]))
          (operands.tail ran).head states).then fun _ _ _ _ => outcomes_follow rfl
      · rcases ok_of_bind_eq_ok ran with ⟨_, _, ranLeft, ran⟩
        rcases ok_of_bind_eq_ok ran with ⟨_, _, _, followed⟩
        rcases Rule.eq_of_binary (ok_of_follow followed).1 with same | same
        · exact absurd same.symm (ne_named_of_checkExpr ranLeft)
        · contradiction
  | assignment target value =>
      rw [checkExpr, Renaming.expr, checkExpr]
      refine outcomes_resolved ((alike_checkExpr harmless target (inner List.mem_cons_self)
        operands.head states).then fun _ _ _ ran states => ?_) fun name after ran => ?_
      · exact (alike_checkExpr harmless value (inner (by simp [Expr.operands]))
          (operands.tail ran).head states).then fun _ _ _ _ => outcomes_follow rfl
      · rcases ok_of_bind_eq_ok ran with ⟨_, _, ranTarget, ran⟩
        rcases ok_of_bind_eq_ok ran with ⟨_, _, _, followed⟩
        exact absurd (Rule.eq_of_assignment (ok_of_follow followed).1).symm
          (ne_named_of_checkExpr ranTarget)
  | index base index =>
      rw [checkExpr, Renaming.expr, checkExpr]
      refine outcomes_resolved ((alike_checkExpr harmless base (inner List.mem_cons_self)
        operands.head states).then fun _ _ _ ran states => ?_) fun name after ran => ?_
      · exact (alike_checkExpr harmless index (inner (by simp [Expr.operands]))
          (operands.tail ran).head states).then fun _ _ _ _ => outcomes_follow rfl
      · rcases ok_of_bind_eq_ok ran with ⟨_, _, ranBase, ran⟩
        rcases ok_of_bind_eq_ok ran with ⟨_, _, _, followed⟩
        rw [Rule.eq_of_index (ok_of_follow followed).1] at ranBase
        exact place.steady_resolved harmless (.element ranBase)
  | call callee arguments =>
      rw [checkExpr, expr_call, checkExpr, name?_callee, length_exprs]
      have values (argument : Expr) (member : argument ∈ arguments) :
          names.Fits shape (.expr argument) := inner (by
        rw [Expr.operands]
        split
        · exact member
        · exact List.mem_cons_of_mem _ member)
      rw [Expr.operands] at operands
      have signatures : names.Outcomes (names.Called program) shape Eq
          (calleeSignature callee.name? arguments.length (checkExpr callee) first)
          (calleeSignature (callee.name?.map (names.name shape.call)) arguments.length
            (checkExpr (names.callee shape callee)) second) := by
        cases isName : callee.name? with
        | some name =>
            refine outcomes_calledByName _ (fun hides same => ?_) (fits.usable ?_) states
            · exact ⟨_, place.inScope hides, calls_of_name? (same ▸ isName) arguments first⟩
            · exact Option.mem_toList.mpr isName
        | none =>
            rw [callee_of_nameless names shape isName]
            rw [isName] at operands
            have calleeFits : names.Fits shape (.expr callee) :=
              inner (by simp [Expr.operands, isName])
            exact (alike_checkExpr harmless callee calleeFits operands.head states).then
              fun _ _ _ _ => outcomes_follow rfl
      refine outcomes_resolved (signatures.then fun signature after _ ran states => ?_)
        fun found after ran => ?_
      · have argumentsPlace : names.At program shape (.check (.exprs arguments) after) := by
          cases isName : callee.name? with
          | some name =>
              rw [isName] at operands ran
              cases (ok_of_calledByName ran).1
              exact operands
          | none =>
              rw [isName] at operands ran
              rcases ok_of_bind_eq_ok ran with ⟨_, _, ranCallee, followed⟩
              cases (ok_of_follow followed).2
              exact operands.tail ranCallee
        exact (alike_checkArguments harmless signature.params arguments values argumentsPlace
          states).then fun _ _ _ _ => outcomes_pure rfl
      · rcases ok_of_bind_eq_ok ran with ⟨_, _, ranCallee, ran⟩
        rcases ok_of_bind_eq_ok ran with ⟨_, _, _, ended⟩
        exact place.steady_resolved harmless (.result ranCallee (EStateM.Result.ok.inj ended).1)
  | member object name =>
      rw [checkExpr, Renaming.expr, checkExpr]
      refine outcomes_resolved ((alike_checkExpr harmless object (inner List.mem_cons_self)
        operands.head states).then fun _ _ _ _ => outcomes_follow rfl) fun found after ran => ?_
      rcases ok_of_bind_eq_ok ran with ⟨_, _, ranObject, followed⟩
      exact place.steady_resolved harmless (.member ranObject (ok_of_follow followed).1)
  | methodCall object name arguments =>
      rw [checkExpr, Renaming.expr, checkExpr, length_exprs]
      have values (argument : Expr) (member : argument ∈ arguments) :
          names.Fits shape (.expr argument) := inner (List.mem_cons_of_mem _ member)
      refine outcomes_resolved ((alike_checkExpr harmless object (inner List.mem_cons_self)
        operands.head states).then fun _ _ _ ran states =>
          outcomes_afterFollow states fun signature _ => ?_) fun found after ran => ?_
      · exact (alike_checkArguments harmless signature.params arguments values (operands.tail ran)
          states).then fun _ _ _ _ => outcomes_pure rfl
      · rcases ok_of_bind_eq_ok ran with ⟨_, _, ranObject, ran⟩
        rcases ok_of_bind_eq_ok ran with ⟨_, _, followed, ran⟩
        rcases ok_of_bind_eq_ok ran with ⟨_, _, _, ended⟩
        exact place.steady_resolved harmless (.methodResult ranObject (ok_of_follow followed).1
          (EStateM.Result.ok.inj ended).1)
  termination_by structural expr

theorem alike_checkElements (harmless : names.Harmless program) (collection : String)
    (elements : List Expr) {shape : Shape} {first second : CheckState}
    (fits : ∀ expr ∈ elements, names.Fits shape (.expr expr))
    (place : names.At program shape (.check (.exprs elements) first))
    (states : names.States (names.Called program) shape first second) :
    names.Outcomes (names.Called program) shape Eq (checkElements collection elements first)
      (checkElements collection (names.exprs shape elements) second) := by
  cases elements with
  | nil =>
      rw [checkElements, Renaming.exprs, checkElements]
      exact outcomes_pure rfl states
  | cons expr rest =>
      rcases List.forall_mem_cons.mp fits with ⟨fitsFirst, fitsRest⟩
      rw [checkElements, Renaming.exprs, checkElements]
      refine (alike_checkExpr harmless expr fitsFirst place.head states).then ?_
      intro expected _ _ ran states
      exact (alike_checkRest harmless collection expected rest fitsRest (place.tail ran)
        states).then fun _ _ _ _ => outcomes_pure rfl
  termination_by structural elements

theorem alike_checkRest (harmless : names.Harmless program) (collection : String) (expected : Ty)
    (elements : List Expr) {shape : Shape} {first second : CheckState}
    (fits : ∀ expr ∈ elements, names.Fits shape (.expr expr))
    (place : names.At program shape (.check (.exprs elements) first))
    (states : names.States (names.Called program) shape first second) :
    names.Outcomes (names.Called program) shape Eq (checkRest collection expected elements first)
      (checkRest collection expected (names.exprs shape elements) second) := by
  cases elements with
  | nil =>
      rw [checkRest, Renaming.exprs, checkRest]
      exact outcomes_pure rfl states
  | cons next rest =>
      rcases List.forall_mem_cons.mp fits with ⟨fitsNext, fitsRest⟩
      rw [checkRest, Renaming.exprs, checkRest]
      refine (alike_checkExpr harmless next fitsNext place.head states).then ?_
      intro _ _ _ ran states
      refine outcomes_afterFollow states fun _ _ => ?_
      exact alike_checkRest harmless collection expected rest fitsRest (place.tail ran) states
  termination_by structural elements

theorem alike_checkMap (harmless : names.Harmless program) (entries : List (Expr × Expr))
    {shape : Shape} {first second : CheckState}
    (fits : ∀ pair ∈ entries, names.Fits shape (.expr pair.1) ∧ names.Fits shape (.expr pair.2))
    (place : names.At program shape
      (.check (.exprs (entries.flatMap fun pair => [pair.1, pair.2])) first))
    (states : names.States (names.Called program) shape first second) :
    names.Outcomes (names.Called program) shape Eq (checkMap entries first)
      (checkMap (names.pairs shape entries) second) := by
  cases entries with
  | nil =>
      rw [checkMap, Renaming.pairs, checkMap]
      exact outcomes_pure rfl states
  | cons pair rest =>
      rcases pair with ⟨key, value⟩
      rcases List.forall_mem_cons.mp fits with ⟨⟨fitsKey, fitsValue⟩, fitsRest⟩
      rw [checkMap, Renaming.pairs, checkMap]
      refine (alike_checkExpr harmless key fitsKey place.head states).then ?_
      intro keyType _ _ ranKey states
      refine (alike_checkExpr harmless value fitsValue (place.tail ranKey).head states).then ?_
      intro valueType _ _ ranValue states
      refine outcomes_afterFollow states fun _ _ => ?_
      exact (alike_checkPairs harmless keyType valueType rest fitsRest
        ((place.tail ranKey).tail ranValue) states).then fun _ _ _ _ => outcomes_pure rfl
  termination_by structural entries

theorem alike_checkPairs (harmless : names.Harmless program) (key value : Ty)
    (entries : List (Expr × Expr)) {shape : Shape} {first second : CheckState}
    (fits : ∀ pair ∈ entries, names.Fits shape (.expr pair.1) ∧ names.Fits shape (.expr pair.2))
    (place : names.At program shape
      (.check (.exprs (entries.flatMap fun pair => [pair.1, pair.2])) first))
    (states : names.States (names.Called program) shape first second) :
    names.Outcomes (names.Called program) shape Eq (checkPairs key value entries first)
      (checkPairs key value (names.pairs shape entries) second) := by
  cases entries with
  | nil =>
      rw [checkPairs, Renaming.pairs, checkPairs]
      exact outcomes_pure rfl states
  | cons pair rest =>
      rcases pair with ⟨nextKey, nextValue⟩
      rcases List.forall_mem_cons.mp fits with ⟨⟨fitsKey, fitsValue⟩, fitsRest⟩
      rw [checkPairs, Renaming.pairs, checkPairs]
      refine (alike_checkExpr harmless nextKey fitsKey place.head states).then ?_
      intro _ _ _ ranKey states
      refine outcomes_afterFollow states fun _ _ => ?_
      refine (alike_checkExpr harmless nextValue fitsValue (place.tail ranKey).head states).then ?_
      intro _ _ _ ranValue states
      refine outcomes_afterFollow states fun _ _ => ?_
      exact alike_checkPairs harmless key value rest fitsRest
        ((place.tail ranKey).tail ranValue) states
  termination_by structural entries

theorem alike_checkAttributes (harmless : names.Harmless program) (template : Template)
    (attributes : List (String × Expr)) {shape : Shape} {first second : CheckState}
    (fits : ∀ entry ∈ attributes, names.Fits shape (.expr entry.2))
    (place : names.At program shape (.check (.exprs (attributes.map (·.2))) first))
    (states : names.States (names.Called program) shape first second) :
    names.Outcomes (names.Called program) shape Eq (checkAttributes template attributes first)
      (checkAttributes template (names.values shape attributes) second) := by
  cases attributes with
  | nil =>
      rw [checkAttributes, Renaming.values, checkAttributes]
      exact outcomes_pure rfl states
  | cons entry rest =>
      rcases entry with ⟨name, expr⟩
      rcases List.forall_mem_cons.mp fits with ⟨fitsFirst, fitsRest⟩
      rw [checkAttributes, Renaming.values, checkAttributes]
      refine (outcomes_declaredAttribute template name states).then fun _ _ _ ran states => ?_
      cases state_of_declaredAttribute ran
      refine (alike_checkExpr harmless expr fitsFirst place.head states).then ?_
      intro _ _ _ ran states
      refine outcomes_afterFollow states fun _ _ => ?_
      exact alike_checkAttributes harmless template rest fitsRest (place.tail ran) states
  termination_by structural attributes

theorem alike_checkArguments (harmless : names.Harmless program) (params : List (String × Ty))
    (arguments : List Expr) {shape : Shape} {first second : CheckState}
    (fits : ∀ expr ∈ arguments, names.Fits shape (.expr expr))
    (place : names.At program shape (.check (.exprs arguments) first))
    (states : names.States (names.Called program) shape first second) :
    names.Outcomes (names.Called program) shape Eq (checkArguments params arguments first)
      (checkArguments params (names.exprs shape arguments) second) := by
  cases arguments with
  | nil =>
      rw [checkArguments, Renaming.exprs, checkArguments]
      exact outcomes_pure rfl states
  | cons next rest =>
      rcases List.forall_mem_cons.mp fits with ⟨fitsNext, fitsRest⟩
      cases params with
      | nil =>
          rw [checkArguments, Renaming.exprs, checkArguments]
          exact outcomes_pure rfl states
      | cons param others =>
          rcases param with ⟨name, expected⟩
          rw [checkArguments, Renaming.exprs, checkArguments]
          refine (alike_checkExpr harmless next fitsNext place.head states).then ?_
          intro _ _ _ ran states
          refine outcomes_afterFollow states fun _ _ => ?_
          exact alike_checkArguments harmless others rest fitsRest (place.tail ran) states
  termination_by structural arguments

theorem alike_checkStmt (harmless : names.Harmless program) (stmt : Stmt) {shape : Shape}
    {first second : CheckState} (fits : names.Fits shape (.stmt stmt))
    (place : names.At program shape (.check (.stmt stmt) first))
    (states : names.States (names.Called program) shape first second) :
    names.Outcomes (names.Called program) (names.after shape stmt) Eq (checkStmt stmt first)
      (checkStmt (names.stmt shape stmt) second) := by
  have operand {expr : Expr} (member : expr ∈ stmt.operands) : names.Fits shape (.expr expr) :=
    fits.of_holds (.stmtOperand member) Iff.rfl
  have nested {block : Block} {inner : Shape} (among : block ∈ stmt.blocks)
      (same : inner = [] ↔ shape = []) (held : Stmt) (member : held ∈ block.body) :
      names.Fits inner (.stmt held) := fits.of_holds (.nested among member) same
  have operands := place.stmtOperands
  have moved := states.movedTo stmt.position
  cases stmt with
  | varDecl position id name declared initializer =>
      rw [checkStmt, Renaming.stmt, checkStmt]
      have steady (mentioned : String) (member : mentioned ∈ declared.referencedNames) :
          names.Steady shape mentioned := place.steady_written harmless member
      exact outcomes_atStmt position states ((alike_checkExpr harmless initializer
        (operand List.mem_cons_self) operands.head moved).then fun actual _ _ _ states =>
          outcomes_declareVariable id actual (fits.usable List.mem_cons_self) steady states)
  | expression position expression =>
      rw [checkStmt, Renaming.stmt, checkStmt]
      exact outcomes_atStmt position states (alike_checkExpr harmless expression
        (operand List.mem_cons_self) operands.head moved).discard
  | block content =>
      rw [checkStmt, Renaming.stmt, checkStmt, position_block]
      have contentPlace := place.enter (.visit (.block content first []))
      exact outcomes_atStmt content.position states (outcomes_within (within_enter shape none)
        (alike_checkBody harmless content (nested List.mem_cons_self Shape.enter_eq_nil)
          contentPlace (moved.entered rfl))).discard
  | ifElse position condition thenBlock elseBlock =>
      rw [checkStmt, Renaming.stmt, checkStmt]
      simp only [isBoolean_expr, isEmpty_body_block, isSome_elseBranch]
      refine outcomes_atStmt position states ((alike_checkExpr harmless condition
        (operand List.mem_cons_self) operands.head moved).then fun _ between _ ran states => ?_)
      refine outcomes_afterFollow states fun _ _ => ?_
      refine (outcomes_require _ _ _ states).then fun _ same _ required states => ?_
      cases (ok_of_require required).2
      have thenPlace := place.enter (.visit (.thenBlock thenBlock elseBlock [] ran))
      refine (outcomes_within (within_enter shape none) (alike_checkBody harmless thenBlock
          (nested List.mem_cons_self Shape.enter_eq_nil) thenPlace (states.entered rfl))).bind ?_
      intro scope other past _ ranThen _ ends states
      refine (outcomes_require _ _ _ states).then fun _ _ _ required states => ?_
      cases (ok_of_require required).2
      refine (alike_checkElse harmless elseBlock (fun block among => nested ?_ Shape.enter_eq_nil)
        (fun block same => ?_) states).then fun goesOn _ _ _ states => ?_
      · exact List.mem_cons_of_mem _ (Option.mem_toList.mpr among)
      · cases same
        exact place.enter (.visit (.elseBlock block [] ran ranThen))
      · rw [ends]
        split
        · exact outcomes_pure rfl states
        · exact outcomes_setUnreachable states
  | whileLoop position condition body =>
      rw [checkStmt, Renaming.stmt, checkStmt]
      refine outcomes_atStmt position states ((alike_checkExpr harmless condition
        (operand List.mem_cons_self) operands.head moved).then fun _ between _ ran states => ?_)
      refine outcomes_afterFollow states fun _ _ => ?_
      have bodyPlace := place.enter (.visit (.whileBody body [] ran))
      exact (outcomes_within (within_enter shape none) (alike_checkBody harmless body
        (nested List.mem_cons_self Shape.enter_eq_nil) bodyPlace (states.entered rfl))).discard
  | range position name start stop step body =>
      rw [checkStmt, Renaming.stmt, checkStmt]
      have usable : shape ≠ [] → name ≠ names.new := fits.usable List.mem_cons_self
      refine outcomes_atStmt position states ((alike_checkExpr harmless start
        (operand List.mem_cons_self) operands.head moved).then fun _ _ _ ranStart states => ?_)
      refine outcomes_afterFollow states fun _ _ => ?_
      refine (alike_checkExpr harmless stop (operand (by simp [Stmt.operands]))
        (operands.tail ranStart).head states).then fun _ _ _ ranStop states => ?_
      refine outcomes_afterFollow states fun _ _ => ?_
      refine (alike_checkExpr harmless step (operand (by simp [Stmt.operands]))
        ((operands.tail ranStart).tail ranStop).head states).then ?_
      intro _ between _ ranStep states
      refine outcomes_afterFollow states fun _ _ => ?_
      have ranParts : checkExprs [start, stop, step] (first.movedTo position) = .ok () between :=
        (checkExprs_cons _ ranStart).trans
          ((checkExprs_cons _ ranStop).trans (checkExprs_cons [] ranStep))
      exact (outcomes_within (within_loop shape name) ((outcomes_defineLoop usable .int
        (states.entered rfl)).then fun _ inside _ defined states =>
          alike_checkBody harmless body (nested List.mem_cons_self names.loop_eq_nil)
            (place.loop (.visit (.rangeBody body [] ranParts defined))) states)).discard
  | each position name iterable body =>
      rw [checkStmt, Renaming.stmt, checkStmt]
      have usable : shape ≠ [] → name ≠ names.new := fits.usable List.mem_cons_self
      refine outcomes_atStmt position states ((alike_checkExpr harmless iterable
        (operand List.mem_cons_self) operands.head moved).then fun type _ _ ran states => ?_)
      refine outcomes_afterFollow states fun element typed => ?_
      cases Rule.eq_of_iterated typed
      exact (outcomes_within (within_loop shape name) ((outcomes_defineLoop usable element
        (states.entered rfl)).then fun _ inside _ defined states =>
          alike_checkBody harmless body (nested List.mem_cons_self names.loop_eq_nil)
            (place.loop (.visit (.eachBody body [] ran defined))) states)).discard
  | halt position =>
      rw [checkStmt, Renaming.stmt, checkStmt]
      exact outcomes_atStmt position states (outcomes_leaveRound _ moved)
  | skip position =>
      rw [checkStmt, Renaming.stmt, checkStmt]
      exact outcomes_atStmt position states (outcomes_leaveRound _ moved)
  | returning position value =>
      rw [checkStmt, Renaming.stmt, checkStmt]
      refine outcomes_atStmt position states ((outcomes_expectedResult moved).then ?_)
      intro expected same _ ran states
      cases state_of_expectedResult ran
      refine (alike_checkReturned harmless value (fun expr among => operand ?_)
        (fun expr same => ?_) states).then fun actual _ _ _ => outcomes_returnType expected actual
      · exact Option.mem_toList.mpr among
      · cases same
        exact operands.head
  | fnDecl declaration =>
      rw [checkStmt, Renaming.stmt, checkStmt]
      have samePosition : (names.fnDecl shape declaration).position = declaration.position := by
        rcases declaration with ⟨position, id, name, signature, body⟩
        rfl
      rw [samePosition]
      exact outcomes_atStmt declaration.position states
        (alike_checkFnDecl harmless declaration fits place moved)
  | echo position expression =>
      rw [checkStmt, Renaming.stmt, checkStmt]
      exact outcomes_atStmt position states (alike_checkExpr harmless expression
        (operand List.mem_cons_self) operands.head moved).discard
  | templateDecl position name attributes methods =>
      rw [checkStmt, Renaming.stmt, checkStmt]
      simp only [asMethod_methods]
      have steady (mentioned : String)
          (member : mentioned ∈ (Part.stmt (.templateDecl position name attributes
            methods)).templateNames) : names.Steady shape mentioned :=
        place.steady_written harmless member
      have types (entry : String × Ty) (member : entry ∈ attributes) (mentioned : String)
          (among : mentioned ∈ entry.2.referencedNames) : names.Steady shape mentioned :=
        steady mentioned (List.mem_cons_of_mem _ (mem_paramNames member among))
      have functions (method : FnDecl) (among : method ∈ methods) :
          names.FunctionFits (names.bound shape name .kept) (boundNames method.signature
            (some (declaredTemplate name attributes methods))) method.body :=
        (fits.congr names.bound_eq_nil).function (List.mem_map_of_mem among)
          fun stmt member => .methodBody position name attributes among member
      refine outcomes_atStmt position states (Outcomes.then (outcomes_declareTemplate
        (declaredTemplate name attributes methods) (fits.usable List.mem_cons_self)
        (steady name List.mem_cons_self) types moved) fun _ declared _ ran states => ?_)
      have declares := declares_declaredTemplate name attributes methods
      refine (alike_prepareMethods harmless _ _ 0 methods (.refl _) declares functions
        (place.kept (.visit (.signatures [] ran))) states).then ?_
      intro prepared _ _ prepares states
      exact alike_checkMethods harmless _ prepared 0 methods
        (.of_prepareMethods (.refl _) declares prepares) declares functions
        (place.kept (.visit (.methods [] ran prepares))) states
  termination_by structural stmt

theorem alike_checkElse (harmless : names.Harmless program) (elseBlock : Option Block)
    {shape : Shape} {first second : CheckState}
    (fits : ∀ block ∈ elseBlock, ∀ stmt ∈ block.body, names.Fits (shape.enter none) (.stmt stmt))
    (place : ∀ block, elseBlock = some block →
      names.At program (shape.enter none) (.check (.stmts block.body) (first.entered .branch)))
    (states : names.States (names.Called program) shape first second) :
    names.Outcomes (names.Called program) shape Eq (checkElse elseBlock first)
      (checkElse (names.elseBranch (shape.enter none) elseBlock) second) := by
  cases elseBlock with
  | none =>
      rw [Renaming.elseBranch, checkElse]
      exact outcomes_pure rfl states
  | some block =>
      rw [checkElse, Renaming.elseBranch, checkElse]
      refine (outcomes_within (within_enter shape none)
        (alike_checkBody harmless block (fits block rfl) (place block rfl)
          (states.entered rfl))).bind ?_
      intro scope other _ _ _ _ ends states
      exact outcomes_pure ends states
  termination_by structural elseBlock

theorem alike_checkReturned (harmless : names.Harmless program) (value : Option Expr)
    {shape : Shape} {first second : CheckState}
    (fits : ∀ expr ∈ value, names.Fits shape (.expr expr))
    (place : ∀ expr, value = some expr → names.At program shape (.check (.expr expr) first))
    (states : names.States (names.Called program) shape first second) :
    names.Outcomes (names.Called program) shape Eq (checkReturned value first)
      (checkReturned (names.returned shape value) second) := by
  cases value with
  | none =>
      rw [Renaming.returned, checkReturned]
      exact outcomes_pure rfl states
  | some expr =>
      rw [checkReturned, Renaming.returned, checkReturned]
      exact alike_checkExpr harmless expr (fits expr rfl) (place expr rfl) states
  termination_by structural value

theorem alike_checkBody (harmless : names.Harmless program) (block : Block) {shape : Shape}
    {first second : CheckState} (fits : ∀ stmt ∈ block.body, names.Fits shape (.stmt stmt))
    (place : names.At program shape (.check (.stmts block.body) first))
    (states : names.States (names.Called program) shape first second) :
    names.Outcomes (names.Called program) (names.afterAll shape block.body) Eq
      (checkBody block first) (checkBody (names.block shape block) second) := by
  rcases block with ⟨position, body⟩
  rw [checkBody, Renaming.block, checkBody]
  exact alike_checkStmts harmless body fits place states
  termination_by structural block

theorem alike_checkStmts (harmless : names.Harmless program) (body : List Stmt) {shape : Shape}
    {first second : CheckState} (fits : ∀ stmt ∈ body, names.Fits shape (.stmt stmt))
    (place : names.At program shape (.check (.stmts body) first))
    (states : names.States (names.Called program) shape first second) :
    names.Outcomes (names.Called program) (names.afterAll shape body) Eq (checkStmts body first)
      (checkStmts (names.stmts shape body) second) := by
  cases body with
  | nil =>
      rw [checkStmts, Renaming.stmts, checkStmts]
      exact outcomes_pure rfl states
  | cons stmt rest =>
      rcases List.forall_mem_cons.mp fits with ⟨fitsFirst, fitsRest⟩
      rw [checkStmts, Renaming.stmts, checkStmts, afterAll_cons_list]
      refine (alike_checkStmt harmless stmt fitsFirst place.firstStmt states).then ?_
      intro _ _ _ ran states
      exact alike_checkStmts harmless rest
        (fun later member => (fitsRest later member).congr names.after_eq_nil)
        (place.laterStmts ran) states
  termination_by structural body

theorem alike_checkFnDecl (harmless : names.Harmless program) (declaration : FnDecl)
    {shape : Shape} {first second : CheckState}
    (fits : names.Fits shape (.stmt (.fnDecl declaration)))
    (place : names.At program shape (.check (.stmt (.fnDecl declaration)) first))
    (states : names.States (names.Called program) shape (first.movedTo declaration.position)
      (second.movedTo declaration.position)) :
    names.Outcomes (names.Called program) (names.bound shape declaration.name .kept) Eq
      (checkFnDecl declaration (first.movedTo declaration.position))
      (checkFnDecl (names.fnDecl shape declaration) (second.movedTo declaration.position)) := by
  have usable : shape ≠ [] → declaration.name ≠ names.new := fits.usable List.mem_cons_self
  have steady (name : String) (member : name ∈ declaration.signature.referencedNames) :
      names.Steady shape name := place.steady_written harmless member
  have function := (fits.named declaration.name).function List.mem_cons_self
    fun stmt member => .functionBody member
  have around : names.At program (names.bound shape declaration.name .kept) _ := place.named
  rcases declaration with ⟨position, id, name, signature, body⟩
  rw [checkFnDecl, Renaming.fnDecl, checkFnDecl, bind_of_ok (scopes_apply _),
    bind_of_ok (scopes_apply _), states.inner_binds usable]
  refine (outcomes_require _ _ _ states).then fun _ same _ required states => ?_
  cases (ok_of_require required).2
  refine (outcomes_mentions steady states).then fun _ same _ mentions states => ?_
  cases (ok_of_mentions mentions).1
  refine outcomes_afterFollow states fun _ _ => ?_
  have defines := outcomes_define usable allowed_kept (.function signature) states
  rw [name_own_bound_kept] at defines
  refine defines.then fun _ declared _ defined states => ?_
  have binds : declared.scopes.inner.binds name = true := by
    rw [(scopes_of_define defined).2, ScopeStack.bound, binds_bind, beq_self_eq_true, Bool.true_or]
  have usableBound : names.bound shape name .kept ≠ [] → name ≠ names.new :=
    fun inside => usable (names.bound_eq_nil.not.mp inside)
  have entered (mentioned : String) (among : mentioned ∈ Part.enteredNames signature none) :
      names.Steady (names.bound shape name .kept) mentioned := fun hides =>
    steady mentioned ((Part.mem_of_entered among).resolve_left (by simp))
      (names.hides_bound_kept.mp hides)
  refine (alike_prepared harmless body rfl function entered
    (fun inside seeks => around.search (.function defined seeks)) states
    fun _ _ => states.around).then fun prepared ready _ ranPrepare states => ?_
  cases state_of_inferResult ranPrepare
  have updates := outcomes_updateInner usableBound binds (.function prepared) states
  rw [name_own_bound_kept] at updates
  refine updates.then fun _ updated _ ranUpdate states => ?_
  cases (EStateM.Result.ok.inj ranUpdate).2
  have sameNames := boundNames_of_settles (settles_of_prepareSignature ranPrepare)
  refine (alike_checked harmless body sameNames function
    (around.function (.visit (.function [] defined ranPrepare))) states).then ?_
  intro resolved last _ ranBody states
  have bindsLast : last.scopes.inner.binds name = true := by
    rw [← ((keeps_inFunction prepared none (keeps_checkBody body)).of_ok ranBody).2]
    change (declared.scopes.update name _).inner.binds name = true
    rw [ScopeStack.update, ScopeStack.modifyInnermost, if_pos binds, binds_rebind, binds]
  have replaces := outcomes_replaceFunction prepared resolved usableBound bindsLast states
  rw [name_own_bound_kept] at replaces
  exact replaces.then fun _ _ _ _ states => outcomes_addFunction id resolved states
  termination_by structural declaration

theorem alike_prepareMethods (harmless : names.Harmless program) (written template : Template)
    (index : Nat) (methods : List FnDecl) {shape : Shape} {first second : CheckState}
    (version : written.Version template) (declares : template.Declares index methods)
    (functions : ∀ method ∈ methods, names.FunctionFits shape
      (boundNames method.signature (some written)) method.body)
    (place : names.At program shape (.check (.signatures template index methods) first))
    (states : names.States (names.Called program) shape first second) :
    names.Outcomes (names.Called program) shape Eq (prepareMethods template index methods first)
      (prepareMethods template index (names.methods shape written methods) second) := by
  cases methods with
  | nil =>
      rw [prepareMethods, Renaming.methods, prepareMethods]
      exact outcomes_pure rfl states
  | cons method rest =>
      rcases List.forall_mem_cons.mp functions with ⟨function, functionsRest⟩
      have steady (name : String) (member : name ∈ (Part.signatures template index
          (method :: rest)).templateNames) : names.Steady shape name :=
        place.steady_written harmless member
      have sameNames := boundNames_of_version version (Signature.Settles.refl method.signature)
      have entered (name : String)
          (among : name ∈ Part.enteredNames method.signature (some template)) :
          names.Steady shape name := by
        rcases Part.mem_of_entered among with
          ⟨declared, isTemplate, inTemplate⟩ | mentioned
        · cases Option.some.inj isTemplate
          exact steady name (List.mem_append_left _ (List.mem_cons_of_mem _ inTemplate))
        · exact steady name (List.mem_append_right _ (List.mem_append_left _ mentioned))
      have searches (inside : CheckState)
          (seeks : Seeks method.signature (some template) method.body first inside) :
          names.At program (names.function shape (boundNames method.signature (some written))
            method.body) (.search method.body.body inside) := place.search (.method seeks)
      have mentioned (name : String) (member : name ∈ method.signature.referencedNames) :
          names.Steady shape name :=
        steady name (List.mem_append_right _ (List.mem_append_left _ member))
      rcases method with ⟨position, id, name, signature, body⟩
      rw [prepareMethods, Renaming.methods, prepareMethods]
      refine (outcomes_mentions mentioned states).then fun _ same _ mentions states => ?_
      cases (ok_of_mentions mentions).1
      refine (alike_prepared harmless body sameNames function entered searches states
        fun _ _ => states.around).then fun prepared ready _ ranPrepare states => ?_
      cases state_of_inferResult ranPrepare
      have settled := Template.settles_of_declared declares.head
        (settles_of_prepareSignature ranPrepare)
      refine (outcomes_updateMethod template index prepared (steady _ List.mem_cons_self)
        states).then fun updated after _ ran states => ?_
      rcases EStateM.Result.ok.inj ran with ⟨rfl, rfl⟩
      exact alike_prepareMethods harmless written _ (index + 1) rest (version.setMethod settled)
        declares.tail.setMethod functionsRest
        (place.same (.visit (.laterSignatures rest [] ranPrepare))) states
  termination_by structural methods

theorem alike_checkMethods (harmless : names.Harmless program) (written template : Template)
    (index : Nat) (methods : List FnDecl) {shape : Shape} {first second : CheckState}
    (version : written.Version template) (declares : written.Declares index methods)
    (functions : ∀ method ∈ methods, names.FunctionFits shape
      (boundNames method.signature (some written)) method.body)
    (place : names.At program shape (.check (.methods template index methods) first))
    (states : names.States (names.Called program) shape first second) :
    names.Outcomes (names.Called program) shape Eq (checkMethods template index methods first)
      (checkMethods template index (names.methods shape written methods) second) := by
  cases methods with
  | nil =>
      rw [checkMethods, Renaming.methods, checkMethods]
      exact outcomes_pure rfl states
  | cons method rest =>
      rcases List.forall_mem_cons.mp functions with ⟨function, functionsRest⟩
      have steady : names.Steady shape template.name :=
        place.steady_written harmless List.mem_cons_self
      have sameNames :=
        boundNames_of_version version (version.settles_preparedMethod declares.head)
      have methodPlace : names.At program (names.function shape (boundNames method.signature
          (some written)) method.body) (.check (.function (template.preparedMethod index method)
            (some template) method.body) first) :=
        place.function (.visit (.method template index method rest first []))
      rcases method with ⟨position, id, name, signature, body⟩
      rw [checkMethods, Renaming.methods, checkMethods]
      refine (alike_checked harmless body sameNames function methodPlace states).then ?_
      intro resolved last _ ranFunction states
      have settled := Template.settles_of_prepared (settles_of_checkFunction ranFunction)
      refine (outcomes_updateMethod template index resolved steady states).then ?_
      intro updated after _ ran states
      rcases EStateM.Result.ok.inj ran with ⟨rfl, rfl⟩
      refine (outcomes_addFunction id resolved states).then fun _ recorded _ ran states => ?_
      cases (EStateM.Result.ok.inj ran).2
      exact alike_checkMethods harmless written _ (index + 1) rest (version.setMethod settled)
        declares.tail functionsRest (place.same (.visit (.laterMethods rest [] ranFunction))) states
  termination_by structural methods

/-- The signature of a function is prepared alike. -/
theorem alike_prepared (harmless : names.Harmless program) (body : Block) {shape around : Shape}
    {first second : CheckState} {signature : Signature} {template : Option Template}
    {bound : List String} (sameNames : boundNames signature template = bound)
    (function : names.FunctionFits around bound body)
    (steady : ∀ name ∈ Part.enteredNames signature template, names.Steady around name)
    (place : ∀ inside, Seeks signature template body first inside →
      names.At program (names.function around bound body) (.search body.body inside))
    (states : names.States (names.Called program) shape first second)
    (outside : signature.result.isInfer = true → body.firstReturn?.any (·.isSome) = true →
      names.Around (names.Called program) around first second) :
    names.Outcomes (names.Called program) shape Eq
      (inferResult signature template body.firstReturn? (searchBody body) first)
      (inferResult signature template
        (names.block (names.function around bound body) body).firstReturn?
        (searchBody (names.block (names.function around bound body) body)) second) := by
  subst sameNames
  refine outcomes_inferResult (names.returns_block _ body) function.fresh steady states outside ?_
  intro inside inside' isOpen returns entered states
  rcases body with ⟨position, body⟩
  rw [searchBody, Renaming.block, searchBody]
  rcases alike_searchStmts harmless body function.body (place inside ⟨isOpen, returns, entered⟩)
    states with ⟨ended, _, outcomes⟩
  exact ⟨ended, outcomes⟩
  termination_by structural body

/-- The body of a function is checked alike. -/
theorem alike_checked (harmless : names.Harmless program) (body : Block) {shape : Shape}
    {first second : CheckState} {signature : Signature} {template : Option Template}
    {bound : List String} (sameNames : boundNames signature template = bound)
    (function : names.FunctionFits shape bound body)
    (place : names.At program (names.function shape bound body)
      (.check (.function signature template body) first))
    (states : names.States (names.Called program) shape first second) :
    names.Outcomes (names.Called program) shape Eq
      (inFunction signature template (checkBody body) first)
      (inFunction signature template
        (checkBody (names.block (names.function shape bound body) body)) second) := by
  subst sameNames
  refine outcomes_inFunction (keeps_checkBody _) (keeps_checkBody _) function.fresh
    (fun name among hides => ?_) states fun inside inside' ran states => ?_
  · exact place.steady_written harmless among (names.hides_function.mpr hides)
  · have bodyPlace := place.same (.visit (.body body [] ran))
    rcases body with ⟨position, body⟩
    rw [checkBody, Renaming.block, checkBody]
    exact ⟨_, alike_checkStmts harmless body function.body bodyPlace states⟩
  termination_by structural body

theorem alike_searchBody (harmless : names.Harmless program) (block : Block) {shape : Shape}
    {first second : CheckState} (fits : ∀ stmt ∈ block.body, names.Fits shape (.stmt stmt))
    (place : names.At program shape (.search block.body first))
    (states : names.States (names.Called program) shape first second) :
    ∃ ended, Beside shape ended ∧ names.Outcomes (names.Called program) ended Eq
      (searchBody block first) (searchBody (names.block shape block) second) := by
  rcases block with ⟨position, body⟩
  rw [searchBody, Renaming.block, searchBody]
  exact alike_searchStmts harmless body fits place states
  termination_by structural block

theorem alike_searchStmts (harmless : names.Harmless program) (body : List Stmt) {shape : Shape}
    {first second : CheckState} (fits : ∀ stmt ∈ body, names.Fits shape (.stmt stmt))
    (place : names.At program shape (.search body first))
    (states : names.States (names.Called program) shape first second) :
    ∃ ended, Beside shape ended ∧ names.Outcomes (names.Called program) ended Eq
      (searchStmts body first) (searchStmts (names.stmts shape body) second) := by
  cases body with
  | nil =>
      rw [searchStmts, Renaming.stmts, searchStmts]
      exact ⟨shape, .refl shape, outcomes_pure rfl states⟩
  | cons stmt rest =>
      rcases List.forall_mem_cons.mp fits with ⟨fitsFirst, fitsRest⟩
      rw [searchStmts, Renaming.stmts, searchStmts, bind_apply, bind_apply]
      have outcomes := alike_searchStmt harmless stmt fitsFirst place states
      have beside : Beside shape (names.after shape stmt) := beside_after shape stmt
      generalize ran : searchStmt stmt first = result,
        searchStmt (names.stmt shape stmt) second = result' at outcomes
      cases outcomes with
      | error diagnostic other position analysis depth =>
          exact ⟨shape, .refl shape, .error _ _ position analysis depth⟩
      | @ok found _ after after' same states =>
          subst same
          cases found with
          | some type => exact ⟨_, beside, .ok rfl states⟩
          | none =>
              rcases alike_searchStmts harmless rest
                (fun later member => (fitsRest later member).congr names.after_eq_nil)
                (place.later ran) states with ⟨ended, besideRest, outcomes⟩
              exact ⟨ended, beside.trans besideRest, outcomes⟩
  termination_by structural body

theorem alike_searchStmt (harmless : names.Harmless program) (stmt : Stmt) {rest : List Stmt}
    {shape : Shape} {first second : CheckState} (fits : names.Fits shape (.stmt stmt))
    (place : names.At program shape (.search (stmt :: rest) first))
    (states : names.States (names.Called program) shape first second) :
    names.Outcomes (names.Called program) (names.after shape stmt) Eq (searchStmt stmt first)
      (searchStmt (names.stmt shape stmt) second) := by
  have operand {expr : Expr} (member : expr ∈ stmt.operands) : names.Fits shape (.expr expr) :=
    fits.of_holds (.stmtOperand member) Iff.rfl
  have nested {block : Block} {inner : Shape} (among : block ∈ stmt.blocks)
      (same : inner = [] ↔ shape = []) (held : Stmt) (member : held ∈ block.body) :
      names.Fits inner (.stmt held) := fits.of_holds (.nested among member) same
  have atPlace := states.movedTo stmt.position
  have moved {ended : Shape} {action action' : Checker (Option Ty)}
      (outcomes : names.Outcomes (names.Called program) ended Eq
        (action (first.movedTo stmt.position)) (action' (second.movedTo stmt.position))) :
      names.Outcomes (names.Called program) ended Eq
        ((moveTo stmt.position >>= fun _ => action) first)
        ((moveTo (names.stmt shape stmt).position >>= fun _ => action') second) := by
    rw [position_stmt, bind_of_ok (moveTo_apply _ _), bind_of_ok (moveTo_apply _ _)]
    exact outcomes
  -- A block is searched in a scope that binds nothing yet.
  have inBlock {block : Block} {before before' : CheckState}
      (states : names.States (names.Called program) shape before before')
      (searches : ∀ inside', names.States (names.Called program) (shape.enter none)
        (before.entered .block) inside' → ∃ ended, Beside (shape.enter none) ended ∧
          names.Outcomes (names.Called program) ended Eq
            (searchBody block (before.entered .block))
            (searchBody (names.block (shape.enter none) block) inside')) :
      names.Outcomes (names.Called program) shape Eq
        (searchBlock none (searchBody block) before)
        (searchBlock none (searchBody (names.block (shape.enter none) block)) before') := by
    refine outcomes_searchBlock (within_enter shape none)
      (outcomes_pure rfl (states.entered rfl)) fun inside inside' ran entered => ?_
    cases (EStateM.Result.ok.inj ran).2
    exact searches inside' entered
  cases stmt with
  | returning position value =>
      rw [searchStmt, Renaming.stmt, searchStmt]
      refine moved ((alike_checkReturned harmless value (fun expr among => operand ?_)
        (fun expr same => ?_) atPlace).then fun _ _ _ _ => outcomes_pure rfl)
      · exact Option.mem_toList.mpr among
      · cases same
        exact place.same (.returned position expr rest first)
  | varDecl position id name declared initializer =>
      rw [searchStmt, Renaming.stmt, searchStmt]
      have typed : names.Outcomes (names.Called program) shape Eq
          (attempt (if declared.isInfer then checkExpr initializer else resolve declared)
            (first.movedTo position))
          (attempt (if declared.isInfer then checkExpr (names.expr shape initializer)
            else resolve declared) (second.movedTo position)) := by
        split
        · rename_i isOpen
          cases Ty.eq_infer_of_isInfer isOpen
          exact outcomes_tried harmless place atPlace (alike_checkExpr harmless initializer
            (operand List.mem_cons_self)
            (place.same (.initializer position id name initializer rest first)) atPlace)
        · refine outcomes_attempt (unwinds_resolve _) (unwinds_resolve _) (fun _ _ failed => ?_)
            atPlace (outcomes_resolve (fun written isName => ?_) atPlace)
          · exact congrArg ScopeStack.depth ((unwinds_resolve _).level trivial _ _ _ failed).symm
          · exact place.steady_written harmless (by simp [Moment.typeNames, Part.templateNames,
              isName, Ty.referencedNames])
      refine moved (typed.then fun type after _ tried states => ?_)
      rw [← name_declared]
      refine (outcomes_defineFound type (fits.usable List.mem_cons_self) read_of_declared
        (fun _ => read_of_declared_kept) (fun isNone called isOld unbound either => ?_)
        states).then fun _ _ _ _ => outcomes_pure rfl
      subst isNone isOld
      refine unbound_of_passed harmless place ?_ called unbound either
      rw [searchStmt, bind_of_ok (moveTo_apply _ _)]
      exact bind_of_ok tried _
  | fnDecl declaration =>
      have usable : shape ≠ [] → declaration.name ≠ names.new := fits.usable List.mem_cons_self
      have function := (fits.named declaration.name).function List.mem_cons_self
        fun stmt member => .functionBody member
      have entered (name : String)
          (among : name ∈ Part.enteredNames declaration.signature none) :
          names.Steady (names.bound shape declaration.name .kept) name := fun hides =>
        place.steady_written harmless ((Part.mem_of_entered among).resolve_left (by simp))
          (names.hides_bound_kept.mp hides)
      have around : names.At program (names.bound shape declaration.name .kept) _ := place.named
      have outside := around_searched harmless place atPlace
      rcases declaration with ⟨position, id, name, signature, body⟩
      rw [searchStmt, Renaming.stmt, Renaming.fnDecl, searchStmt]
      refine moved ((alike_prepared harmless body rfl function entered
        (fun inside seeks => around.search (.innerFunction seeks)) atPlace outside).then ?_)
      intro prepared _ _ _ states
      have defines := outcomes_defineFound (some (.function prepared)) usable allowed_kept
        nofun nofun states
      rw [name_own_bound_kept] at defines
      exact defines.then fun _ _ _ _ => outcomes_pure rfl
  | block content =>
      rw [searchStmt, Renaming.stmt, searchStmt]
      exact moved (inBlock atPlace fun inside' entered => alike_searchBody harmless content
        (nested List.mem_cons_self Shape.enter_eq_nil) (place.enter (.block content rest first))
        entered)
  | ifElse position condition thenBlock elseBlock =>
      rw [searchStmt, Renaming.stmt, searchStmt]
      refine moved ((inBlock atPlace fun inside' entered => alike_searchBody harmless thenBlock
        (nested List.mem_cons_self Shape.enter_eq_nil)
        (place.enter (.thenBlock position condition thenBlock elseBlock rest first))
        entered).then fun found between _ ran states => ?_)
      cases found with
      | some type => exact outcomes_pure rfl states
      | none =>
          refine alike_searchElse harmless elseBlock
            (fun block among => nested ?_ Shape.enter_eq_nil) (fun block same => ?_) states
          · exact List.mem_cons_of_mem _ (Option.mem_toList.mpr among)
          · cases same
            exact place.enter (.elseBlock ran)
  | whileLoop position condition body =>
      rw [searchStmt, Renaming.stmt, searchStmt]
      exact moved (inBlock atPlace fun inside' entered => alike_searchBody harmless body
        (nested List.mem_cons_self Shape.enter_eq_nil)
        (place.enter (.whileBody position condition body rest first)) entered)
  | range position name start stop step body =>
      rw [searchStmt, Renaming.stmt, searchStmt]
      have usable : shape ≠ [] → name ≠ names.new := fits.usable List.mem_cons_self
      refine moved (outcomes_searchBlock (within_loop shape name) (outcomes_defineLoop usable .int
        (atPlace.entered rfl)) fun inside inside' defined entered => ?_)
      exact alike_searchBody harmless body (nested List.mem_cons_self names.loop_eq_nil)
        (place.loop (.rangeBody defined)) entered
  | each position name iterable body =>
      rw [searchStmt, Renaming.stmt, searchStmt]
      have usable : shape ≠ [] → name ≠ names.new := fits.usable List.mem_cons_self
      refine moved ((alike_checkExpr harmless iterable (operand List.mem_cons_self)
        (place.same (.iterable position name iterable body rest first)) atPlace).then ?_)
      intro type _ _ ran states
      refine outcomes_afterFollow states fun element typed => ?_
      cases Rule.eq_of_iterated typed
      refine outcomes_searchBlock (within_loop shape name) (outcomes_defineLoop usable element
        (states.entered rfl)) fun inside inside' defined entered => ?_
      exact alike_searchBody harmless body (nested List.mem_cons_self names.loop_eq_nil)
        (place.loop (.eachBody ran defined)) entered
  | expression position expression => exact moved (outcomes_pure rfl atPlace)
  | halt position => exact moved (outcomes_pure rfl atPlace)
  | skip position => exact moved (outcomes_pure rfl atPlace)
  | echo position expression => exact moved (outcomes_pure rfl atPlace)
  | templateDecl position name attributes methods =>
      exact moved (outcomes_pure rfl (atPlace.passTemplate
        (place.steady_written harmless List.mem_cons_self)))
  termination_by structural stmt

theorem alike_searchElse (harmless : names.Harmless program) (elseBlock : Option Block)
    {shape : Shape} {first second : CheckState}
    (fits : ∀ block ∈ elseBlock, ∀ stmt ∈ block.body, names.Fits (shape.enter none) (.stmt stmt))
    (place : ∀ block, elseBlock = some block →
      names.At program (shape.enter none) (.search block.body (first.entered .block)))
    (states : names.States (names.Called program) shape first second) :
    names.Outcomes (names.Called program) shape Eq (searchElse elseBlock first)
      (searchElse (names.elseBranch (shape.enter none) elseBlock) second) := by
  cases elseBlock with
  | none =>
      rw [Renaming.elseBranch, searchElse]
      exact outcomes_pure rfl states
  | some block =>
      rw [searchElse, Renaming.elseBranch, searchElse]
      refine outcomes_searchBlock (within_enter shape none)
        (outcomes_pure rfl (states.entered rfl)) fun inside inside' ran entered => ?_
      cases (EStateM.Result.ok.inj ran).2
      exact alike_searchBody harmless block (fits block rfl) (place block rfl) entered
  termination_by structural elseBlock

end

end Renaming

end ScriptCheck
