import ScriptCheck.Typing.Scope

/-!
# Scope stacks before and after

How the stack of scopes may differ before and after a part of a program is checked. A statement
adds at most one name to the innermost scope and may close it for what comes next. Below, nothing
moves, except that a return statement settles the result of the nearest function while that is
still open. `Settled` is the last exception alone, `ScopeStack.Kept` forgets the names and the
reachability of the innermost scope, and `ScopeStack.Gained` says which name may be new. Each of
them is told whether there are return statements at all.
-/

namespace ScriptCheck

/-- The same scopes from the inside out, except that the open result of the nearest function may
have been found where something returns. -/
inductive Settled (returns : Prop) : List Scope → List Scope → Prop where
  | same (scopes : List Scope) : Settled returns scopes scopes
  | found (signature : Signature) (result : Ty) (symbols : List (String × Ty)) (reachable : Bool)
      (outer : List Scope) (returning : returns) (opened : signature.result.isInfer = true) :
      Settled returns ({ kind := .function signature, symbols, reachable } :: outer)
        ({ kind := .function (signature.withResult result), symbols, reachable } :: outer)
  | around (scope : Scope) {before after : List Scope} (outside : scope.isFunction = false)
      (settled : Settled returns before after) : Settled returns (scope :: before) (scope :: after)

namespace Settled

variable {returns : Prop}

theorem length_eq {before after : List Scope} (settled : Settled returns before after) :
    after.length = before.length := by
  induction settled with
  | same scopes => rfl
  | found signature result symbols reachable outer returning opened => simp
  | around scope outside settled ih => simp [ih]

theorem mono {more : Prop} {before after : List Scope} (settled : Settled returns before after)
    (included : returns → more) : Settled more before after := by
  induction settled with
  | same scopes => exact .same scopes
  | found signature result symbols reachable outer returning opened =>
      exact .found signature result symbols reachable outer (included returning) opened
  | around scope outside settled ih => exact .around scope outside ih

/-- Where nothing returns, nothing has changed. -/
theorem eq_of_not_returns {before after : List Scope} (settled : Settled returns before after)
    (never : ¬ returns) : after = before := by
  induction settled with
  | same scopes => rfl
  | found signature result symbols reachable outer returning opened =>
      exact absurd returning never
  | around scope outside settled ih => rw [ih]

theorem trans {before between after : List Scope} (first : Settled returns before between)
    (second : Settled returns between after) : Settled returns before after := by
  induction first generalizing after with
  | same scopes => exact second
  | found signature result symbols reachable outer returning opened =>
      cases second with
      | same => exact .found signature result symbols reachable outer returning opened
      | found _ again _ _ _ _ _ =>
          exact .found signature again symbols reachable outer returning opened
      | around _ outside _ => simp [Scope.isFunction, Scope.signature?] at outside
  | around scope outside settled ih =>
      cases second with
      | same => exact .around scope outside settled
      | found => simp [Scope.isFunction, Scope.signature?] at outside
      | around _ _ rest => exact .around scope outside (ih rest)

/-- Names and reachability of the innermost scope play no part. -/
theorem replace_contents {kind kind' : ScopeKind} {symbols : List (String × Ty)} {reachable : Bool}
    {outer outer' : List Scope}
    (settled : Settled returns ({ kind, symbols, reachable } :: outer)
      ({ kind := kind', symbols, reachable } :: outer'))
    (others : List (String × Ty)) (flag : Bool) :
    Settled returns ({ kind, symbols := others, reachable := flag } :: outer)
      ({ kind := kind', symbols := others, reachable := flag } :: outer') := by
  cases settled with
  | same => exact .same _
  | found signature result _ _ _ returning opened =>
      exact .found signature result others flag outer returning opened
  | around _ outside rest =>
      refine .around _ ?_ rest
      simpa [Scope.isFunction, Scope.signature?] using outside

/-- Around the scope of a function nothing is settled from inside of it. -/
theorem outer_eq_of_function {scope scope' : Scope} {outer outer' : List Scope}
    (settled : Settled returns (scope :: outer) (scope' :: outer'))
    (inside : scope.isFunction = true) : outer' = outer := by
  cases settled with
  | same => rfl
  | found => rfl
  | around _ outside _ => simp [inside] at outside

theorem outer_settled {scope scope' : Scope} {outer outer' : List Scope}
    (settled : Settled returns (scope :: outer) (scope' :: outer')) :
    Settled returns outer outer' := by
  cases settled with
  | same => exact .same _
  | found => exact .same _
  | around _ _ rest => exact rest

/-- A result that is given to the nearest function settles it when it was open. -/
theorem of_modifyFirst (returning : returns) (result : Ty) (scopes : List Scope)
    (opened : ∀ signature, scopes.findSome? (·.signature?) = some signature →
      signature.result.isInfer = true) :
    Settled returns scopes
      (ScopeStack.modifyFirst (·.isFunction) (·.setResult result) scopes) := by
  induction scopes with
  | nil => exact .same []
  | cons scope outer ih =>
      rcases scope with ⟨kind, symbols, reachable⟩
      cases kind with
      | function signature =>
          have isOpen : signature.result.isInfer = true :=
            opened signature (by simp [Scope.signature?])
          simpa [ScopeStack.modifyFirst, Scope.isFunction, Scope.signature?, Scope.setResult]
            using Settled.found signature result symbols reachable outer returning isOpen
      | global | block | loop | branch =>
          simp only [ScopeStack.modifyFirst, Scope.isFunction, Scope.signature?,
            Option.isSome_none, Bool.false_eq_true, if_false]
          refine .around _ rfl (ih ?_)
          intro signature nearest
          exact opened signature (by simpa [Scope.signature?] using nearest)

end Settled

@[simp]
theorem Scope.symbols_setResult (scope : Scope) (result : Ty) :
    (scope.setResult result).symbols = scope.symbols := by
  rcases scope with ⟨kind, symbols, reachable⟩
  cases kind <;> rfl

namespace ScopeStack

/-- The stack with the names and the reachability that the innermost scope of another one has. -/
def restored (stack before : ScopeStack) : ScopeStack :=
  { stack with
    inner := { stack.inner with
      symbols := before.inner.symbols, reachable := before.inner.reachable } }

/-- No other scopes, apart from the result of the nearest function. -/
def Settles (returns : Prop) (before after : ScopeStack) : Prop :=
  Settled returns before.scopes after.scopes

/-- No other scopes, apart from the result of the nearest function and from what the innermost
scope binds and whether the next statement in it can be reached. -/
def Kept (returns : Prop) (before after : ScopeStack) : Prop :=
  Settled returns before.scopes (after.restored before).scopes

/-- The innermost scope has kept its names and their types, and binds at most one name more, the
declared one. All else is as before, apart from the result of the nearest function, where something
returns, and from whether the next statement in the innermost scope can be reached. -/
structure Gained (declared : Option String) (returns : Prop) (before after : ScopeStack) :
    Prop where
  kept : before.Kept returns after
  symbols : after.inner.symbols = before.inner.symbols ∨
    ∃ name type, declared = some name ∧ before.inner.binds name = false ∧
      after.inner.symbols = (name, type) :: before.inner.symbols

/-- The stack with one more binding in the innermost scope. -/
def bound (stack : ScopeStack) (name : String) (type : Ty) : ScopeStack :=
  { stack with inner := stack.inner.bind name type }

/-- What has happened when a name was declared that the innermost scope did not bind. -/
def Declared (name : String) (before after : ScopeStack) : Prop :=
  before.inner.binds name = false ∧ ∃ type, after = before.bound name type

/-- A name that has just been declared may have another type, and nothing else has changed. -/
def Retyped (name : String) (before after : ScopeStack) : Prop :=
  ∀ (base : ScopeStack) (type : Ty), base.inner.binds name = false →
    before = base.bound name type → ∃ other, after = base.bound name other

/-- The result of the nearest function, as far as it has been found. -/
def result? (stack : ScopeStack) : Option Ty :=
  stack.signature?.map (·.result)

variable {returns : Prop}

theorem Settles.refl (stack : ScopeStack) : stack.Settles returns stack :=
  Settled.same _

theorem Settles.mono {more : Prop} {before after : ScopeStack}
    (settles : before.Settles returns after) (included : returns → more) :
    before.Settles more after :=
  Settled.mono settles included

theorem Settles.kept {before after : ScopeStack} (settles : before.Settles returns after) :
    before.Kept returns after := by
  rcases before with ⟨⟨kind, symbols, reachable⟩, outer⟩
  rcases after with ⟨⟨kind', symbols', reachable'⟩, outer'⟩
  cases settles with
  | same => exact .same _
  | found signature result _ _ _ returning opened =>
      exact .found signature result _ _ _ returning opened
  | around _ outside rest => exact .around _ outside rest

theorem Settles.gained {before after : ScopeStack} (settles : before.Settles returns after)
    (declared : Option String) : before.Gained declared returns after := by
  refine ⟨settles.kept, Or.inl ?_⟩
  rcases before with ⟨⟨kind, symbols, reachable⟩, outer⟩
  rcases after with ⟨⟨kind', symbols', reachable'⟩, outer'⟩
  cases settles with
  | same => rfl
  | found => rfl
  | around => rfl

theorem Kept.refl (stack : ScopeStack) : stack.Kept returns stack :=
  Settled.same _

theorem Kept.trans {before between after : ScopeStack} (first : before.Kept returns between)
    (second : between.Kept returns after) : before.Kept returns after := by
  rcases before with ⟨⟨kind, symbols, reachable⟩, outer⟩
  rcases between with ⟨⟨kind', symbols', reachable'⟩, outer'⟩
  exact Settled.trans first (Settled.replace_contents second symbols reachable)

theorem Kept.mono {more : Prop} {before after : ScopeStack} (kept : before.Kept returns after)
    (included : returns → more) : before.Kept more after :=
  Settled.mono kept included

theorem Kept.depth_eq {before after : ScopeStack} (kept : before.Kept returns after) :
    after.depth = before.depth := by
  simpa [scopes, restored, depth] using Settled.length_eq kept

/-- What was gained after statements that only settled a result. -/
theorem Gained.of_settles {declared : Option String} {before between after : ScopeStack}
    (first : before.Settles returns between) (second : between.Gained declared returns after) :
    before.Gained declared returns after := by
  refine ⟨first.kept.trans second.kept, ?_⟩
  have sameInner : between.inner.symbols = before.inner.symbols := by
    rcases (first.gained none).symbols with same | ⟨name, type, impossible, _⟩
    · exact same
    · simp at impossible
  simpa only [Scope.binds, Scope.lookup?, sameInner] using second.symbols

theorem gained_setUnreachable (stack : ScopeStack) (declared : Option String) :
    stack.Gained declared returns stack.setUnreachable :=
  ⟨Settled.same _, Or.inl rfl⟩

/-- A declared name is the one that was gained, whatever type it gets in the end. -/
theorem Declared.gained {name : String} {before between after : ScopeStack}
    (first : before.Declared name between) (second : between.Retyped name after) :
    before.Gained (some name) returns after := by
  rcases first with ⟨unbound, type, rfl⟩
  rcases second before type unbound rfl with ⟨other, rfl⟩
  exact ⟨Settled.same _, Or.inr ⟨name, other, rfl, unbound, rfl⟩⟩

theorem Retyped.refl (name : String) (stack : ScopeStack) : stack.Retyped name stack :=
  fun _ type _ same => ⟨type, same⟩

theorem Retyped.trans {name : String} {before between after : ScopeStack}
    (first : before.Retyped name between) (second : between.Retyped name after) :
    before.Retyped name after := by
  intro base type unbound same
  rcases first base type unbound same with ⟨other, sameBetween⟩
  exact second base other unbound sameBetween

theorem settles_setResult {stack : ScopeStack} {signature : Signature} (returning : returns)
    (result : Ty) (nearest : stack.signature? = some signature)
    (opened : signature.result.isInfer = true) :
    stack.Settles returns (stack.setResult result) := by
  have settled := Settled.of_modifyFirst returning result stack.scopes (fun other found => by
    rw [signature?, found, Option.some.injEq] at nearest
    exact nearest ▸ opened)
  rcases stack with ⟨inner, outer⟩
  by_cases inside : inner.isFunction
  · simpa [Settles, setResult, modifyInnermost, scopes, modifyFirst, inside] using settled
  · simpa [Settles, setResult, modifyInnermost, scopes, modifyFirst, inside] using settled

theorem Declared.gained_self {name : String} {before after : ScopeStack}
    (declared : before.Declared name after) : before.Gained (some name) returns after :=
  declared.gained (Retyped.refl name after)

theorem Declared.kept {name : String} {before after : ScopeStack}
    (declared : before.Declared name after) : before.Kept returns after :=
  declared.gained_self.kept

theorem declared_of_define? {stack extended : ScopeStack} {name : String} {type : Ty}
    (defined : stack.define? name type = some extended) : stack.Declared name extended := by
  unfold define? at defined
  split at defined
  · contradiction
  · rename_i unbound
    simp only [Option.some.injEq] at defined
    exact ⟨by simpa using unbound, type, defined.symm⟩

/-- An update finds a name that has just been declared in the innermost scope. -/
theorem update_bound {stack : ScopeStack} {name : String} (unbound : stack.inner.binds name = false)
    (old type : Ty) : (stack.bound name old).update name type = stack.bound name type := by
  have missing : List.lookup name stack.inner.symbols = none := by
    simpa [Scope.binds, Scope.lookup?] using unbound
  have unchanged : stack.inner.symbols.map
      (fun symbol => if symbol.1 = name then (name, type) else symbol) = stack.inner.symbols := by
    refine (List.map_congr_left ?_).trans (List.map_id' _)
    intro symbol symbolMem
    have different := List.lookup_eq_none_iff.mp missing symbol symbolMem
    have other : symbol.1 ≠ name := fun same => by simp [same] at different
    simp [other]
  simp [update, modifyInnermost, bound, Scope.bind, Scope.binds, Scope.lookup?, Scope.rebind,
    unchanged]

theorem retyped_update (stack : ScopeStack) (name : String) (type : Ty) :
    stack.Retyped name (stack.update name type) := by
  intro base old unbound same
  rw [same]
  exact ⟨type, update_bound unbound old type⟩

theorem signature?_restored (stack before : ScopeStack) :
    (stack.restored before).signature? = stack.signature? := rfl

theorem signature?_setUnreachable (stack : ScopeStack) :
    stack.setUnreachable.signature? = stack.signature? := rfl

/-- A result that has been found stays. -/
theorem Kept.signature?_of_known {before after : ScopeStack} {signature : Signature}
    (kept : before.Kept returns after) (nearest : before.signature? = some signature)
    (known : signature.result.isInfer = false) : after.signature? = some signature := by
  rw [← signature?_restored after before]
  simp only [signature?] at nearest ⊢
  unfold Kept at kept
  generalize before.scopes = scopes, (after.restored before).scopes = scopes' at kept nearest
  induction kept with
  | same => exact nearest
  | found other result symbols reachable outer returning opened =>
      simp only [List.findSome?_cons, Scope.signature?, Option.some.injEq] at nearest
      rw [← nearest, opened] at known
      contradiction
  | around scope outside settled ih =>
      have passed : scope.signature? = none := by simpa [Scope.isFunction] using outside
      simp only [List.findSome?_cons, passed] at nearest ⊢
      exact ih nearest

theorem Kept.result?_of_known {before after : ScopeStack} {type : Ty}
    (kept : before.Kept returns after) (found : before.result? = some type)
    (known : type.isInfer = false) : after.result? = some type := by
  rw [result?, Option.map_eq_some_iff] at found ⊢
  rcases found with ⟨signature, nearest, rfl⟩
  exact ⟨signature, kept.signature?_of_known nearest known, rfl⟩

/-- Where nothing returns, the signature of the nearest function stays. -/
theorem Kept.signature?_eq {before after : ScopeStack} (kept : before.Kept returns after)
    (never : ¬ returns) : after.signature? = before.signature? := by
  rw [← signature?_restored after before]
  simp only [signature?, Settled.eq_of_not_returns kept never]

theorem scopes_modifyInnermost (stack : ScopeStack) (property : Scope → Bool)
    (change : Scope → Scope) :
    (stack.modifyInnermost property change).scopes = modifyFirst property change stack.scopes := by
  by_cases holds : property stack.inner = true
  · simp [modifyInnermost, scopes, modifyFirst, holds]
  · simp [modifyInnermost, scopes, modifyFirst, holds]

/-- A change of a scope that is blind for some view of it. -/
theorem map_modifyInnermost {α : Type} (stack : ScopeStack) (property : Scope → Bool)
    {change : Scope → Scope} (view : Scope → α)
    (blind : ∀ scope, view (change scope) = view scope) :
    (stack.modifyInnermost property change).scopes.map view = stack.scopes.map view := by
  rw [scopes_modifyInnermost]
  induction stack.scopes with
  | nil => rfl
  | cons scope outer ih =>
      rw [modifyFirst]
      split
      · rw [List.map_cons, List.map_cons, blind]
      · rw [List.map_cons, List.map_cons, ih]

theorem signature?_setResult {stack : ScopeStack} {signature : Signature} (type : Ty)
    (nearest : stack.signature? = some signature) :
    (stack.setResult type).signature? = some (signature.withResult type) := by
  rw [signature?, setResult, scopes_modifyInnermost]
  rw [signature?] at nearest
  generalize stack.scopes = scopes at nearest
  induction scopes with
  | nil => simp at nearest
  | cons scope outer ih =>
      rcases scope with ⟨kind, symbols, reachable⟩
      cases kind with
      | function found =>
          simp only [List.findSome?_cons, Scope.signature?, Option.some.injEq] at nearest
          rw [← nearest]
          rfl
      | global | block | loop | branch =>
          simp only [List.findSome?_cons, Scope.signature?] at nearest
          simpa [modifyFirst, Scope.isFunction, Scope.signature?] using ih nearest

end ScopeStack

end ScriptCheck
