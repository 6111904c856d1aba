import ScriptCheck.Proofs.Typing.Stack

/-!
# The names in scope

The names that the scopes of a stack bind, in one list from the latest to the first. A name that is
looked up through all scopes is looked up in this list. Whatever happens to the scopes, a name has
the type that it had or the one that it was given.
-/

namespace ScriptCheck

/-- The names in scope with their types, from the latest to the first. -/
def ScopeStack.symbols (stack : ScopeStack) : List (String × Ty) :=
  stack.scopes.flatMap (·.symbols)

namespace ScopeStack

variable {stack before after : ScopeStack}

theorem lookup?_everywhere (stack : ScopeStack) (name : String) :
    stack.lookup? .everywhere name = stack.symbols.lookup name := by
  have through (scopes : List Scope) :
      (locateIn .everywhere name scopes).map (·.2) =
        (scopes.flatMap (·.symbols)).lookup name := by
    induction scopes with
    | nil => rfl
    | cons scope outer ih =>
        rw [locateIn, List.flatMap_cons, List.lookup_append, ← ih]
        cases here : scope.lookup? name with
        | none =>
            rw [Scope.lookup?] at here
            simp [here]
        | some type =>
            rw [Scope.lookup?] at here
            simp [here]
  exact through stack.scopes

@[simp]
theorem symbols_enter (stack : ScopeStack) (kind : ScopeKind) :
    (stack.enter kind).symbols = stack.symbols := rfl

@[simp]
theorem symbols_bound (stack : ScopeStack) (name : String) (type : Ty) :
    (stack.bound name type).symbols = (name, type) :: stack.symbols := rfl

@[simp]
theorem symbols_setUnreachable (stack : ScopeStack) :
    stack.setUnreachable.symbols = stack.symbols := rfl

theorem symbols_of_settled {returns : Prop} {scopes scopes' : List Scope}
    (settled : Settled returns scopes scopes') :
    scopes'.flatMap (·.symbols) = scopes.flatMap (·.symbols) := by
  induction settled with
  | same scopes => rfl
  | found signature result symbols reachable outer returning opened => rfl
  | around scope outside settled ih => rw [List.flatMap_cons, List.flatMap_cons, ih]

theorem symbols_of_gained_none {returns : Prop} (gained : before.Gained none returns after) :
    after.symbols = before.symbols := by
  have kept := symbols_of_settled gained.kept
  rcases gained.symbols with same | ⟨name, type, impossible, _⟩
  · have restored : after.restored before = { after with
        inner := { after.inner with reachable := before.inner.reachable } } := by
      rw [ScopeStack.restored, ← same]
    rw [restored] at kept
    exact kept
  · contradiction

theorem mem_symbols_of_lookup? {reach : Reach} {name : String} {type : Ty}
    (found : stack.lookup? reach name = some type) : (name, type) ∈ stack.symbols := by
  have through (scopes : List Scope) (place : Nat × Ty)
      (located : locateIn reach name scopes = some place) :
      (name, place.2) ∈ scopes.flatMap (·.symbols) := by
    induction scopes with
    | nil => contradiction
    | cons scope outer ih =>
        rw [locateIn] at located
        rw [List.flatMap_cons]
        cases here : scope.lookup? name with
        | some type =>
            rw [here, Option.some.injEq] at located
            rcases List.lookup_eq_some_iff.mp here with ⟨before, after, same, _⟩
            simp [← located, same]
        | none =>
            simp only [here] at located
            split at located
            · contradiction
            · exact List.mem_append_right _ (ih located)
  rcases Option.map_eq_some_iff.mp found with ⟨place, located, rfl⟩
  exact through stack.scopes place located

/-- Another type for a name brings no other names in scope. -/
theorem mem_symbols_update {name : String} {type : Ty} {symbol : String × Ty}
    (member : symbol ∈ (stack.update name type).symbols) :
    symbol ∈ stack.symbols ∨ symbol = (name, type) := by
  have through (scopes : List Scope) (member : symbol ∈
      (modifyFirst (·.binds name) (·.rebind name type) scopes).flatMap (·.symbols)) :
      symbol ∈ scopes.flatMap (·.symbols) ∨ symbol = (name, type) := by
    induction scopes with
    | nil => exact .inl member
    | cons scope outer ih =>
        rw [modifyFirst] at member
        split at member
        · rcases List.mem_append.mp (List.flatMap_cons ▸ member) with inner | outside
          · rcases List.mem_map.mp inner with ⟨old, memberOld, same⟩
            split at same
            · exact .inr same.symm
            · rw [List.flatMap_cons]
              exact .inl (List.mem_append_left _ (same ▸ memberOld))
          · rw [List.flatMap_cons]
            exact .inl (List.mem_append_right _ outside)
        · rcases List.mem_append.mp (List.flatMap_cons ▸ member) with inner | outside
          · rw [List.flatMap_cons]
            exact .inl (List.mem_append_left _ inner)
          · rcases ih outside with old | new
            · rw [List.flatMap_cons]
              exact .inl (List.mem_append_right _ old)
            · exact .inr new
  rw [symbols, update, scopes_modifyInnermost] at member
  exact through stack.scopes member

theorem signature?_update (stack : ScopeStack) (name : String) (type : Ty) :
    (stack.update name type).signature? = stack.signature? := by
  have blind (scope : Scope) : (scope.rebind name type).signature? = scope.signature? := rfl
  have signatures := map_modifyInnermost stack (·.binds name) (·.signature?) blind
  have same := congrArg (List.findSome? id) signatures
  rwa [List.findSome?_map, List.findSome?_map] at same

theorem symbols_of_setResult (stack : ScopeStack) (result : Ty) :
    (stack.setResult result).symbols = stack.symbols := by
  have bound := map_modifyInnermost stack (·.isFunction) (·.symbols)
    fun scope => scope.symbols_setResult result
  rw [symbols, symbols, List.flatMap_def, List.flatMap_def, setResult, bound]

theorem signature?_setResult_of_none (result : Ty) (none : stack.signature? = none) :
    (stack.setResult result).signature? = Option.none := by
  rw [signature?] at none
  rw [signature?, setResult, scopes_modifyInnermost]
  generalize stack.scopes = scopes at none
  induction scopes with
  | nil => rfl
  | cons scope outer ih =>
      rw [List.findSome?_cons] at none
      cases here : scope.signature? with
      | some found => simp [here] at none
      | none =>
          simp only [here] at none
          rw [modifyFirst, Scope.isFunction, here, if_neg (by simp), List.findSome?_cons, here]
          exact ih none

theorem signature?_enter {kind : ScopeKind} (plain : (Scope.empty kind).isFunction = false) :
    (stack.enter kind).signature? = stack.signature? := by
  have passed : (Scope.empty kind).signature? = none := by simpa [Scope.isFunction] using plain
  simp [signature?, enter, scopes, passed]

theorem eq_bound_of_define? {name : String} {type : Ty}
    (defined : stack.define? name type = some after) : after = stack.bound name type := by
  unfold define? at defined
  split at defined
  · contradiction
  · exact (Option.some.inj defined).symm

theorem mem_symbols_of_exit? {scope : Scope} {symbol : String × Ty}
    (left : stack.exit? = some (scope, after)) (member : symbol ∈ after.symbols) :
    symbol ∈ stack.symbols := by
  rcases stack with ⟨inner, outer⟩
  cases outer with
  | nil => contradiction
  | cons next rest =>
      simp only [exit?, Option.some.injEq, Prod.mk.injEq] at left
      rw [← left.2] at member
      exact List.mem_append_right _ member

theorem signature?_of_exit? {scope : Scope} (left : stack.exit? = some (scope, after))
    (passed : stack.inner.isFunction = false) : stack.signature? = after.signature? := by
  rcases stack with ⟨inner, outer⟩
  cases outer with
  | nil => contradiction
  | cons next rest =>
      simp only [exit?, Option.some.injEq, Prod.mk.injEq] at left
      have none : inner.signature? = none := by simpa [Scope.isFunction] using passed
      rw [← left.2]
      simp [signature?, scopes, none]

theorem Kept.inner_isFunction {returns : Prop} (kept : before.Kept returns after) :
    after.inner.isFunction = before.inner.isFunction := by
  rcases before with ⟨⟨kind, symbols, reachable⟩, outer⟩
  rcases after with ⟨⟨kind', symbols', reachable'⟩, outer'⟩
  cases kept with
  | same => rfl
  | found => rfl
  | around => rfl

end ScopeStack

end ScriptCheck
