import Mathlib.Logic.Equiv.Basic
import ScriptCheck.Proofs.Typing.Likeness
import ScriptCheck.Proofs.Typing.Renaming

/-!
# Scopes of a function with a renamed variable

While a function with a renamed variable is checked, its scopes bind the same types as those of the
original, and the variable has its new name where it is bound. The scopes around the function are
the same. So a name is found with the same type in both, if it is renamed by what it stands for.

The search for a first returned value can pass over a variable without binding it. What is read
under its name is then found in neither of the two, since the variables of one function do not hide
each other. What is called under its name is looked up further, around the function as well. There
it is the same only if the scopes around bind neither of the two names.
-/

namespace ScriptCheck

namespace Renaming

variable (names : Renaming)

/-- A name with the old and the new name exchanged. -/
def exchange (name : String) : String :=
  Equiv.swap names.old names.new name

/-- A name that is neither the old nor the new one. -/
def Apart (name : String) : Prop :=
  name ≠ names.old ∧ name ≠ names.new

/-- A scope with the old and the new name exchanged. -/
def scope (original : Scope) : Scope :=
  { original with
    symbols := original.symbols.map fun symbol => (names.exchange symbol.1, symbol.2) }

/-- A scope as the renamed function has it. -/
def seen (bound : Option Binding) (original : Scope) : Scope :=
  if bound = some .renamed then names.scope original else original

/-- Neither the old nor the new name is bound. -/
def Unbound (scopes : List Scope) : Prop :=
  ∀ scope ∈ scopes, scope.binds names.old = false ∧ scope.binds names.new = false

/-- A scope is as it is known to be, where names may be called or not. As far as the nearest
function, names can be read, and no variable hides another one there. -/
structure Stands (called near : Prop) (level : Level) (outer : Shape) (scope : Scope)
    (around : List Scope) : Prop where
  isFunction : scope.isFunction = level.isFunction
  fresh : scope.binds names.new = false
  unbound : level.bound = none → scope.binds names.old = false
  base : outer = [] → level.isFunction = true
  unshadowed : near → level.isFunction = false → level.bound = some .renamed →
    outer.read ≠ some .kept
  shadows : near → level.isFunction = false → level.bound = some .kept →
    outer.read = some .renamed → scope.binds names.old = true
  callable : called → level.bound.isSome = true → level.bound = some .renamed ∨ outer.Hides →
    scope.binds names.old = true ∨ names.Unbound around

/-- The scopes of an original and a renamed function, and the same scopes around them. -/
inductive Stacked (called : Prop) : Prop → Shape → List Scope → List Scope → Prop where
  | around {near : Prop} (scopes : List Scope) : Stacked called near [] scopes scopes
  | entered {near : Prop} {level : Level} {outer : Shape} {scope : Scope}
      {first second : List Scope} (stands : names.Stands called near level outer scope first)
      (rest : Stacked called (near ∧ level.isFunction = false) outer first second) :
      Stacked called near (level :: outer) (scope :: first)
        (names.seen level.bound scope :: second)

variable {names} {name : String}

theorem exchange_of_apart (apart : names.Apart name) : names.exchange name = name :=
  Equiv.swap_apply_of_ne_of_ne apart.1 apart.2

theorem exchange_injective : Function.Injective names.exchange :=
  (Equiv.swap names.old names.new).injective

@[simp]
theorem exchange_old : names.exchange names.old = names.new :=
  Equiv.swap_apply_left names.old names.new

section Scopes

variable (original : Scope)

theorem lookup?_scope (name : String) :
    (names.scope original).lookup? (names.exchange name) = original.lookup? name := by
  simp only [scope, Scope.lookup?]
  induction original.symbols with
  | nil => rfl
  | cons symbol rest ih =>
      rw [List.map_cons, List.lookup_cons, List.lookup_cons, ih]
      have same : (names.exchange name == names.exchange symbol.1) = (name == symbol.1) := by
        rw [Bool.eq_iff_iff, beq_iff_eq, beq_iff_eq]
        exact exchange_injective.eq_iff
      rw [same]

theorem lookup?_scope_new : (names.scope original).lookup? names.new =
    original.lookup? names.old := by
  simpa using @lookup?_scope names original names.old

theorem scope_rebind (name : String) (type : Ty) :
    names.scope (original.rebind name type) =
      (names.scope original).rebind (names.exchange name) type := by
  simp only [scope, Scope.rebind, List.map_map, Scope.mk.injEq, true_and, and_true]
  apply List.map_congr_left
  intro symbol _
  by_cases bound : symbol.1 = name
  · simp [bound]
  · have other : names.exchange symbol.1 ≠ names.exchange name := exchange_injective.ne bound
    simp [bound, other]

theorem scope_setResult (result : Ty) :
    names.scope (original.setResult result) = (names.scope original).setResult result := by
  rcases original with ⟨kind, symbols, reachable⟩
  cases kind <;> rfl

/-- Where neither name is bound, there is nothing to exchange. -/
theorem scope_of_unbound (unbound : original.binds names.old = false)
    (fresh : original.binds names.new = false) : names.scope original = original := by
  rcases original with ⟨kind, symbols, reachable⟩
  simp only [scope, Scope.mk.injEq, true_and, and_true]
  have apart {symbol : String × Ty} (member : symbol ∈ symbols) {other : String}
      (free : (symbols.lookup other).isSome = false) : symbol.1 ≠ other := by
    rw [Option.isSome_eq_false_iff, Option.isNone_iff_eq_none, List.lookup_eq_none_iff] at free
    exact fun same => by simpa [same] using free symbol member
  have same (symbol : String × Ty) (member : symbol ∈ symbols) :
      (names.exchange symbol.1, symbol.2) = symbol :=
    Prod.ext (exchange_of_apart ⟨apart member unbound, apart member fresh⟩) rfl
  simpa using List.map_congr_left same

theorem isFunction_setResult (result : Ty) :
    (original.setResult result).isFunction = original.isFunction := by
  rcases original with ⟨kind, symbols, reachable⟩
  cases kind <;> rfl

theorem binds_rebind (name : String) (type : Ty) (other : String) :
    (original.rebind name type).binds other = original.binds other := by
  rw [Scope.binds, Scope.lookup?_rebind]
  split
  · rename_i same
    rw [same, Option.isSome_map, Scope.binds]
  · rfl

theorem binds_setResult (result : Ty) (other : String) :
    (original.setResult result).binds other = original.binds other := by
  rcases original with ⟨kind, symbols, reachable⟩
  cases kind <;> rfl

theorem binds_bind (name : String) (type : Ty) (other : String) :
    (original.bind name type).binds other = (other == name || original.binds other) := by
  rw [Scope.binds, Scope.binds, Scope.bind, Scope.lookup?, List.lookup_cons]
  cases other == name <;> rfl

end Scopes

section Seen

variable {bound : Option Binding} {original : Scope}

@[simp]
theorem seen_none : names.seen none original = original := by
  simp [seen]

@[simp]
theorem seen_kept : names.seen (some .kept) original = original := by
  simp [seen]

@[simp]
theorem seen_renamed : names.seen (some .renamed) original = names.scope original := by
  simp [seen]

theorem seen_of_ne (other : bound ≠ some .renamed) : names.seen bound original = original := by
  simp [seen, other]

/-- A property of scopes that does not depend on names. -/
theorem view_seen {α : Type} {view : Scope → α}
    (same : view (names.scope original) = view original) :
    view (names.seen bound original) = view original := by
  rw [seen]
  split
  · exact same
  · rfl

@[simp]
theorem isFunction_seen : (names.seen bound original).isFunction = original.isFunction :=
  view_seen rfl

@[simp]
theorem isLoop_seen : (names.seen bound original).isLoop = original.isLoop :=
  view_seen rfl

@[simp]
theorem signature?_seen : (names.seen bound original).signature? = original.signature? :=
  view_seen rfl

@[simp]
theorem reachable_seen : (names.seen bound original).reachable = original.reachable :=
  view_seen rfl

theorem lookup?_seen_apart (apart : names.Apart name) :
    (names.seen bound original).lookup? name = original.lookup? name := by
  have same : (names.scope original).lookup? name = original.lookup? name := by
    conv_lhs => rw [← exchange_of_apart apart]
    exact lookup?_scope original name
  exact @view_seen _ _ _ _ (·.lookup? name) same

/-- What a scope binds a name to is found under the renamed name. -/
theorem lookup?_seen (usable : name ≠ names.new) :
    (names.seen bound original).lookup? (names.name bound name) = original.lookup? name := by
  by_cases isOld : name = names.old
  · subst isOld
    by_cases renamed : bound = some .renamed
    · rw [renamed, seen_renamed, name_renamed, lookup?_scope_new]
    · rw [seen_of_ne renamed, names.name_of_ne_renamed renamed]
  · rw [names.name_of_ne isOld, lookup?_seen_apart ⟨isOld, usable⟩]

/-- A change of a scope that goes with the exchange of the two names. -/
theorem seen_change {change : Scope → Scope}
    (changes : bound = some .renamed →
      names.scope (change original) = change (names.scope original)) :
    names.seen bound (change original) = change (names.seen bound original) := by
  by_cases renamed : bound = some .renamed
  · rw [renamed, seen_renamed, seen_renamed, changes renamed]
  · rw [seen_of_ne renamed, seen_of_ne renamed]

theorem seen_bind (usable : name ≠ names.new) (type : Ty) :
    names.seen bound (original.bind name type) =
      (names.seen bound original).bind (names.name bound name) type := by
  by_cases isOld : name = names.old
  · subst isOld
    by_cases renamed : bound = some .renamed
    · subst renamed
      simp [scope, Scope.bind]
    · rw [seen_of_ne renamed, seen_of_ne renamed, names.name_of_ne_renamed renamed]
  · have changes : names.scope (original.bind name type) =
        (names.scope original).bind name type := by
      simp [scope, Scope.bind, exchange_of_apart ⟨isOld, usable⟩]
    rw [names.name_of_ne isOld]
    exact @seen_change _ _ _ (·.bind name type) fun _ => changes

theorem seen_rebind (usable : name ≠ names.new) (type : Ty) :
    names.seen bound (original.rebind name type) =
      (names.seen bound original).rebind (names.name bound name) type := by
  by_cases isOld : name = names.old
  · subst isOld
    by_cases renamed : bound = some .renamed
    · subst renamed
      rw [seen_renamed, seen_renamed, name_renamed, scope_rebind, exchange_old]
    · rw [seen_of_ne renamed, seen_of_ne renamed, names.name_of_ne_renamed renamed]
  · have changes : names.scope (original.rebind name type) =
        (names.scope original).rebind name type := by
      rw [scope_rebind, exchange_of_apart ⟨isOld, usable⟩]
    rw [names.name_of_ne isOld]
    exact @seen_change _ _ _ (·.rebind name type) fun _ => changes

end Seen

section Stands

variable {called near callable nearer : Prop} {level : Level} {outer : Shape}
  {original changed : Scope} {around further : List Scope}

theorem Stands.mono (stands : names.Stands called near level outer original around)
    (fewerCalls : callable → called) (fewer : nearer → near) :
    names.Stands callable nearer level outer original around where
  isFunction := stands.isFunction
  fresh := stands.fresh
  unbound := stands.unbound
  base := stands.base
  unshadowed isNear := stands.unshadowed (fewer isNear)
  shadows isNear := stands.shadows (fewer isNear)
  callable mayCall := stands.callable (fewerCalls mayCall)

/-- Changes that leave the bound names alone. -/
theorem Stands.change (stands : names.Stands called near level outer original around)
    (isFunction : changed.isFunction = original.isFunction)
    (binds : ∀ name, changed.binds name = original.binds name)
    (unbound : names.Unbound around → names.Unbound further) :
    names.Stands called near level outer changed further where
  isFunction := isFunction.trans stands.isFunction
  fresh := (binds _).trans stands.fresh
  unbound isNone := (binds _).trans (stands.unbound isNone)
  base := stands.base
  unshadowed := stands.unshadowed
  shadows isNear plain bound read := (binds _).trans (stands.shadows isNear plain bound read)
  callable mayCall bound hides :=
    (stands.callable mayCall bound hides).imp (binds _).trans unbound

end Stands

/-- A change of one of the scopes that keeps its names binds no new names. -/
theorem Unbound.modifyFirst {scopes : List Scope} (unbound : names.Unbound scopes)
    (property : Scope → Bool) {change : Scope → Scope}
    (binds : ∀ scope name, (change scope).binds name = scope.binds name) :
    names.Unbound (ScopeStack.modifyFirst property change scopes) := by
  induction scopes with
  | nil => exact unbound
  | cons scope outer ih =>
      rcases List.forall_mem_cons.mp unbound with ⟨here, around⟩
      rw [ScopeStack.modifyFirst]
      split
      · refine List.forall_mem_cons.mpr ⟨?_, around⟩
        rw [binds, binds]
        exact here
      · exact List.forall_mem_cons.mpr ⟨here, ih around⟩

theorem locateIn_of_unbound {scopes : List Scope} (reach : Reach)
    (unbound : ∀ scope ∈ scopes, scope.binds name = false) :
    ScopeStack.locateIn reach name scopes = none := by
  induction scopes with
  | nil => rfl
  | cons scope outer ih =>
      rcases List.forall_mem_cons.mp unbound with ⟨here, around⟩
      rw [Scope.binds, Option.isSome_eq_false_iff, Option.isNone_iff_eq_none] at here
      rw [ScopeStack.locateIn, here]
      simp [ih around]

theorem lookup?_eq_none_of_binds {scope : Scope} (unbound : scope.binds name = false) :
    scope.lookup? name = none := by
  rwa [Scope.binds, Option.isSome_eq_false_iff, Option.isNone_iff_eq_none] at unbound

namespace Stacked

variable {called near callable nearer : Prop} {shape : Shape} {first second : List Scope}

theorem mono (stacked : names.Stacked called near shape first second)
    (fewerCalls : callable → called) (fewer : nearer → near) :
    names.Stacked callable nearer shape first second := by
  induction stacked generalizing nearer with
  | around scopes => exact .around scopes
  | entered stands rest ih =>
      exact .entered (stands.mono fewerCalls fewer) (ih (And.imp_left fewer))

theorem length_eq (stacked : names.Stacked called near shape first second) :
    first.length = second.length := by
  induction stacked with
  | around scopes => rfl
  | entered stands rest ih => simp [ih]

/-- Where the variable is not in scope, both have the same scopes. -/
theorem eq_of_not_hides (stacked : names.Stacked called near shape first second)
    (free : ¬shape.Hides) : first = second := by
  induction stacked with
  | around scopes => rfl
  | entered stands rest ih =>
      rw [Shape.hides_cons, not_or] at free
      rw [seen_of_ne free.1, ih free.2]

theorem locateIn_apart (stacked : names.Stacked called near shape first second) (reach : Reach)
    (apart : names.Apart name) :
    ScopeStack.locateIn reach name first = ScopeStack.locateIn reach name second := by
  induction stacked with
  | around scopes => rfl
  | entered stands rest ih =>
      rw [ScopeStack.locateIn, ScopeStack.locateIn, lookup?_seen_apart apart, rest.length_eq, ih,
        isFunction_seen]

/-- A name that stands for nothing where it is read is not found, and neither is the new name. -/
theorem locateIn_unread (stacked : names.Stacked called near shape first second) (isNear : near)
    (inside : shape ≠ []) (unread : shape.read = none) :
    ScopeStack.locateIn .function names.old first = none ∧
      ScopeStack.locateIn .function names.new second = none := by
  induction stacked with
  | around scopes => contradiction
  | @entered near level outer scope first second stands rest ih =>
      rw [Shape.read, Option.or_eq_none_iff] at unread
      have unbound := lookup?_eq_none_of_binds (stands.unbound unread.1)
      have fresh := lookup?_eq_none_of_binds stands.fresh
      rw [ScopeStack.locateIn, ScopeStack.locateIn, unread.1, seen_none, unbound, fresh,
        stands.isFunction]
      cases isFunction : level.isFunction with
      | true => exact ⟨rfl, rfl⟩
      | false =>
          rw [isFunction] at unread
          have inside : outer ≠ [] := fun none => by simp [stands.base none] at isFunction
          exact ih ⟨isNear, isFunction⟩ inside unread.2

/-- What is read is found under the renamed name. -/
theorem locateIn_read (stacked : names.Stacked called near shape first second) (isNear : near)
    (usable : shape ≠ [] → name ≠ names.new) :
    ScopeStack.locateIn .function name first =
      ScopeStack.locateIn .function (names.name shape.read name) second := by
  induction stacked with
  | around scopes => simp
  | @entered near level outer scope first second stands rest ih =>
      have unused : name ≠ names.new := usable (List.cons_ne_nil _ _)
      by_cases isOld : name = names.old
      case neg =>
        rw [names.name_of_ne isOld]
        exact (Stacked.entered stands rest).locateIn_apart .function ⟨isOld, unused⟩
      subst isOld
      have further (plain : level.isFunction = false) : outer ≠ [] ∧ (near ∧ _) :=
        ⟨fun none => by simp [stands.base none] at plain, isNear, plain⟩
      rw [ScopeStack.locateIn, ScopeStack.locateIn, rest.length_eq, isFunction_seen, Shape.read]
      cases bound : level.bound with
      | none =>
          have unbound := lookup?_eq_none_of_binds (stands.unbound bound)
          have fresh := lookup?_eq_none_of_binds stands.fresh
          have unfound (binding : Option Binding) :
              scope.lookup? (names.name binding names.old) = none := by
            rw [Renaming.name]
            split
            · exact fresh
            · exact unbound
          rw [seen_none, Option.none_or, unfound, unbound, stands.isFunction]
          cases plain : level.isFunction with
          | true => rfl
          | false => simpa using ih (further plain).2 fun _ => unused
      | some binding =>
          rw [Option.some_or, lookup?_seen unused]
          cases free : scope.lookup? names.old with
          | some type => rfl
          | none =>
              rw [stands.isFunction]
              cases plain : level.isFunction with
              | true => rfl
              | false =>
                  -- A variable that is not bound here is not bound further out either.
                  have again := ih (further plain).2 fun _ => unused
                  simp only [Bool.and_false, Bool.false_eq_true, if_false]
                  cases read : outer.read with
                  | none =>
                      rcases rest.locateIn_unread (further plain).2 (further plain).1 read with
                        ⟨unbound, fresh⟩
                      rw [Renaming.name]
                      split
                      · rw [unbound, fresh]
                      · rwa [read, names.name_none] at again
                  | some around =>
                      rw [read] at again
                      cases binding with
                      | renamed =>
                          cases around with
                          | renamed => exact again
                          | kept => exact absurd read (stands.unshadowed isNear plain bound)
                      | kept =>
                          cases around with
                          | renamed =>
                              have binds := stands.shadows isNear plain bound read
                              simp [Scope.binds, free] at binds
                          | kept => exact again

theorem unbound_second (stacked : names.Stacked called near shape first second)
    (unbound : names.Unbound first) : names.Unbound second := by
  induction stacked with
  | around scopes => exact unbound
  | entered stands rest ih =>
      rcases List.forall_mem_cons.mp unbound with ⟨here, around⟩
      refine List.forall_mem_cons.mpr ⟨?_, ih around⟩
      rw [seen, scope_of_unbound _ here.1 here.2, ite_self]
      exact here

/-- What is called is found under the renamed name, where the scopes keep to what is asked of names
that are called. -/
theorem locateIn_call (stacked : names.Stacked called near shape first second) (mayCall : called)
    (usable : shape ≠ [] → name ≠ names.new) :
    ScopeStack.locateIn .everywhere name first =
      ScopeStack.locateIn .everywhere (names.name shape.call name) second := by
  induction stacked with
  | around scopes => simp
  | @entered near level outer scope first second stands rest ih =>
      have unused : name ≠ names.new := usable (List.cons_ne_nil _ _)
      by_cases isOld : name = names.old
      case neg =>
        rw [names.name_of_ne isOld]
        exact (Stacked.entered stands rest).locateIn_apart .everywhere ⟨isOld, unused⟩
      subst isOld
      have again := ih fun _ => unused
      rw [ScopeStack.locateIn, ScopeStack.locateIn, rest.length_eq, Shape.call]
      simp only [reduceCtorEq, decide_false, Bool.false_and, Bool.false_eq_true, if_false]
      cases bound : level.bound with
      | none =>
          have unbound := lookup?_eq_none_of_binds (stands.unbound bound)
          have fresh := lookup?_eq_none_of_binds stands.fresh
          rw [seen_none, Option.none_or, unbound]
          have unfound : scope.lookup? (names.name outer.call names.old) = none := by
            rw [Renaming.name]
            split
            · exact fresh
            · exact unbound
          rw [unfound]
          exact again
      | some binding =>
          rw [Option.some_or, lookup?_seen unused]
          cases free : scope.lookup? names.old with
          | some type => rfl
          | none =>
              by_cases hides : level.bound = some .renamed ∨ outer.Hides
              · rcases stands.callable mayCall (by simp [bound]) hides with binds | unbound
                · simp [Scope.binds, free] at binds
                · have unboundSecond := rest.unbound_second unbound
                  have unfound : ScopeStack.locateIn .everywhere
                      (names.name (some binding) names.old) second = none := by
                    rw [Renaming.name]
                    split
                    · exact locateIn_of_unbound _ fun scope member => (unboundSecond scope member).2
                    · exact locateIn_of_unbound _ fun scope member => (unboundSecond scope member).1
                  rw [unfound, locateIn_of_unbound _ fun scope member => (unbound scope member).1]
              · rw [not_or, bound] at hides
                rw [names.name_of_ne_renamed hides.1, rest.eq_of_not_hides hides.2]

/-- What is called is found under the renamed name. Where the variable is not in scope, this does
not take more than the same scopes. -/
theorem locateIn_called (stacked : names.Stacked called near shape first second)
    (calls : shape.Hides → name = names.old → called)
    (usable : shape ≠ [] → name ≠ names.new) :
    ScopeStack.locateIn .everywhere name first =
      ScopeStack.locateIn .everywhere (names.name shape.call name) second := by
  by_cases hides : shape.Hides
  · by_cases isOld : name = names.old
    · exact stacked.locateIn_call (calls hides isOld) usable
    · rw [names.name_of_ne isOld]
      refine stacked.locateIn_apart .everywhere ⟨isOld, usable fun none => ?_⟩
      simp [none] at hides
  · rw [names.name_of_ne_renamed (Shape.call_ne_of_not_hides hides),
      stacked.eq_of_not_hides hides]

/-- A change of one of the scopes that leaves the bound names alone, and goes with the exchange of
the two names where the variable is in scope. -/
theorem modifyFirst {property : Scope → Bool} {change : Scope → Scope}
    (stacked : names.Stacked called near shape first second)
    (isFunction : ∀ scope, (change scope).isFunction = scope.isFunction)
    (binds : ∀ scope name, (change scope).binds name = scope.binds name)
    (exchanges : shape.Hides → ∀ scope, property (names.scope scope) = property scope ∧
      names.scope (change scope) = change (names.scope scope)) :
    names.Stacked called near shape (ScopeStack.modifyFirst property change first)
      (ScopeStack.modifyFirst property change second) := by
  induction stacked with
  | around scopes => exact .around _
  | @entered near level outer scope first second stands rest ih =>
      have here : property (names.seen level.bound scope) = property scope := by
        rw [seen]
        split
        · rename_i renamed
          exact (exchanges (Shape.hides_cons.mpr (.inl renamed)) scope).1
        · rfl
      have changed : names.seen level.bound (change scope) =
          change (names.seen level.bound scope) :=
        seen_change fun renamed => (exchanges (Shape.hides_cons.mpr (.inl renamed)) scope).2
      rw [ScopeStack.modifyFirst, ScopeStack.modifyFirst, here]
      split
      · rw [← changed]
        exact .entered (stands.change (isFunction scope) (binds scope) id) rest
      · refine .entered (stands.change rfl (fun _ => rfl) ?_) ?_
        · exact fun unbound => unbound.modifyFirst property binds
        · exact ih fun hides => exchanges (Shape.hides_cons.mpr (.inr hides))

theorem findSome?_signature? (stacked : names.Stacked called near shape first second) :
    first.findSome? (·.signature?) = second.findSome? (·.signature?) := by
  induction stacked with
  | around scopes => rfl
  | entered stands rest ih => rw [List.findSome?_cons, List.findSome?_cons, signature?_seen, ih]

theorem find?_loop (stacked : names.Stacked called near shape first second) :
    (first.find? fun scope => scope.isFunction || scope.isLoop).map (·.isLoop) =
      (second.find? fun scope => scope.isFunction || scope.isLoop).map (·.isLoop) := by
  induction stacked with
  | around scopes => rfl
  | entered stands rest ih =>
      simp only [List.find?_cons, isFunction_seen, isLoop_seen]
      split
      · simp
      · exact ih

theorem all_reachable (stacked : names.Stacked called near shape first second) :
    first.all (·.reachable) = second.all (·.reachable) := by
  induction stacked with
  | around scopes => rfl
  | entered stands rest ih => rw [List.all_cons, List.all_cons, reachable_seen, ih]

section Inner

variable {inner inner' : Scope}

theorem inner_eq {level : Level} {outer : Shape}
    (stacked : names.Stacked called near (level :: outer) (inner :: first) (inner' :: second)) :
    inner' = names.seen level.bound inner := by
  cases stacked
  rfl

/-- The innermost scopes bind the same, under the renamed name. -/
theorem inner_binds (stacked : names.Stacked called near shape (inner :: first) (inner' :: second))
    (usable : shape ≠ [] → name ≠ names.new) :
    inner.binds name = inner'.binds (names.name shape.own name) := by
  cases stacked with
  | around scopes => simp
  | entered stands rest =>
      rw [Shape.own_cons, Scope.binds, Scope.binds, lookup?_seen (usable (List.cons_ne_nil _ _))]

/-- A name can be bound in both of the innermost scopes or in neither of them. -/
theorem inner_binds_bound {binding : Binding}
    (stacked : names.Stacked called near shape (inner :: first) (inner' :: second))
    (usable : shape ≠ [] → name ≠ names.new) :
    inner.binds name = inner'.binds (names.name (names.bound shape name binding).own name) := by
  by_cases isOld : name = names.old
  case neg =>
    rw [names.bound_of_ne isOld]
    exact stacked.inner_binds usable
  subst isOld
  rw [names.bound_old]
  cases stacked with
  | around scopes => simp
  | @entered _ level outer _ _ _ stands rest =>
      rw [Shape.bind, Shape.own_cons]
      cases bound : level.bound with
      | some known =>
          have same := (Stacked.entered stands rest).inner_binds usable
          rw [Shape.own_cons, bound] at same
          exact same
      | none =>
          rw [seen_none, Renaming.name, stands.unbound bound]
          split
          · exact stands.fresh.symm
          · exact (stands.unbound bound).symm

/-- A change of the innermost scopes that leaves the bound names alone. -/
theorem modifyInner (change change' : Scope → Scope)
    (stacked : names.Stacked called near shape (inner :: first) (inner' :: second))
    (isFunction : (change inner).isFunction = inner.isFunction)
    (binds : ∀ name, (change inner).binds name = inner.binds name)
    (outside : shape = [] → change' inner = change inner)
    (changes : shape ≠ [] →
      change' (names.seen shape.own inner) = names.seen shape.own (change inner)) :
    names.Stacked called near shape (change inner :: first) (change' inner' :: second) := by
  cases stacked with
  | around scopes =>
      rw [outside rfl]
      exact .around _
  | entered stands rest =>
      have same := changes (List.cons_ne_nil _ _)
      rw [Shape.own_cons] at same
      rw [same]
      exact .entered (stands.change isFunction binds id) rest

/-- A name is bound in the innermost scopes, where it is not hidden by another variable. -/
theorem bind (stacked : names.Stacked called near shape (inner :: first) (inner' :: second))
    (usable : shape ≠ [] → name ≠ names.new) {binding : Binding}
    (allowed : near → binding = .renamed → shape.read ≠ some .kept) (type : Ty) :
    names.Stacked called near (names.bound shape name binding) (inner.bind name type :: first)
      (inner'.bind (names.name (names.bound shape name binding).own name) type :: second) := by
  cases stacked with
  | around scopes =>
      rw [names.bound_nil, Shape.own_nil, names.name_none]
      exact .around _
  | @entered _ level outer _ _ _ stands rest =>
      have unused := usable (List.cons_ne_nil _ _)
      have fresh : (inner.bind name type).binds names.new = false := by
        rw [binds_bind, stands.fresh, Bool.or_false]
        exact beq_eq_false_iff_ne.mpr unused.symm
      have grown (other : String) (binds : inner.binds other = true) :
          (inner.bind name type).binds other = true := by
        rw [binds_bind, binds, Bool.or_true]
      by_cases isOld : name = names.old
      case neg =>
        rw [names.bound_of_ne isOld, Shape.own_cons, ← seen_bind unused]
        refine .entered ?_ rest
        exact {
          isFunction := stands.isFunction
          fresh
          unbound isNone := by
            rw [binds_bind, stands.unbound isNone, Bool.or_false]
            exact beq_eq_false_iff_ne.mpr (Ne.symm isOld)
          base := stands.base
          unshadowed := stands.unshadowed
          shadows isNear plain bound read := grown _ (stands.shadows isNear plain bound read)
          callable mayCall bound hides := (stands.callable mayCall bound hides).imp (grown _) id }
      subst isOld
      have binds : (inner.bind names.old type).binds names.old = true := by
        rw [binds_bind, beq_self_eq_true, Bool.true_or]
      have same : names.seen level.bound inner =
          names.seen (level.bound.or (some binding)) inner := by
        cases bound : level.bound with
        | some _ => rfl
        | none =>
            rw [Option.none_or, seen_none, seen, scope_of_unbound _ (stands.unbound bound)
              stands.fresh, ite_self]
      rw [names.bound_old, Shape.bind, Shape.own_cons, same, ← seen_bind unused]
      refine .entered ?_ rest
      exact {
        isFunction := stands.isFunction
        fresh
        unbound isNone := by simp at isNone
        base := stands.base
        unshadowed isNear plain renamed := by
          cases bound : level.bound with
          | some _ =>
              rw [bound] at renamed
              exact stands.unshadowed isNear plain (bound.trans renamed)
          | none =>
              rw [bound] at renamed
              have unread := allowed isNear (Option.some.inj renamed)
              rw [Shape.read, bound, Option.none_or] at unread
              simpa [show level.isFunction = false from plain] using unread
        shadows _ _ _ _ := binds
        callable _ _ _ := .inl binds }

/-- A name that is bound already stands for the same as before. -/
theorem bound_of_binds {binding : Binding}
    (stacked : names.Stacked called near shape (inner :: first) second)
    (binds : inner.binds name = true) : names.bound shape name binding = shape := by
  by_cases isOld : name = names.old
  case neg => exact names.bound_of_ne isOld
  subst isOld
  rw [names.bound_old]
  cases stacked with
  | around scopes => rfl
  | @entered _ level outer _ _ _ stands rest =>
      cases bound : level.bound with
      | some known => rw [Shape.bind, bound, Option.some_or, ← bound]
      | none =>
          rw [stands.unbound bound] at binds
          contradiction

/-- A name is passed over that could have been bound in the innermost scopes. -/
theorem skip (stacked : names.Stacked called near shape (inner :: first) second)
    {binding : Binding} (allowed : near → binding = .renamed → shape.read ≠ some .kept)
    (unhidden : near → binding = .kept → shape.read ≠ some .renamed)
    (free : called → inner.binds names.old = false → binding = .renamed ∨ shape.Hides →
      names.Unbound first) :
    names.Stacked called near (shape.bind binding) (inner :: first) second := by
  cases stacked with
  | around scopes => exact .around _
  | @entered _ level outer _ _ _ stands rest =>
      cases bound : level.bound with
      | some _ =>
          rw [Shape.bind, bound, Option.some_or, ← bound]
          exact .entered stands rest
      | none =>
          have unbound := stands.unbound bound
          have read (isNear : near) (plain : level.isFunction = false) :
              Shape.read (level :: outer) = outer.read := by
            rw [Shape.read, bound, Option.none_or, if_neg (by simp [plain])]
          have same : names.seen none inner = names.seen (some binding) inner := by
            rw [seen_none, seen, scope_of_unbound _ unbound stands.fresh, ite_self]
          rw [Shape.bind, bound, Option.none_or, same]
          refine .entered ?_ rest
          exact {
            isFunction := stands.isFunction
            fresh := stands.fresh
            unbound none := absurd none (by simp)
            base := stands.base
            unshadowed isNear plain renamed := by
              rw [← read isNear plain]
              exact allowed isNear (Option.some.inj renamed)
            shadows isNear plain kept isRead := by
              rw [← read isNear plain] at isRead
              exact absurd isRead (unhidden isNear (Option.some.inj kept))
            callable mayCall _ hides := .inr (free mayCall unbound (by
              rw [Shape.hides_cons, bound]
              simpa using hides)) }

end Inner

/-- The scope of a function is entered, in which the old name does not stand for the variable. -/
theorem enterFunction (stacked : names.Stacked called False shape first second) {scope : Scope}
    {bound : Option Binding} (kept : bound ≠ some .renamed) (isFunction : scope.isFunction = true)
    (fresh : scope.binds names.new = false)
    (unbound : bound = none → scope.binds names.old = false)
    (callable : called → bound.isSome = true → scope.binds names.old = true) :
    names.Stacked called True (⟨true, bound⟩ :: shape) (scope :: first) (scope :: second) := by
  have stands : names.Stands called True ⟨true, bound⟩ shape scope first := {
    isFunction
    fresh
    unbound
    base _ := rfl
    unshadowed := by simp
    shadows := by simp
    callable mayCall isBound _ := .inl (callable mayCall isBound) }
  have rest : names.Stacked called (True ∧ true = false) shape first second :=
    stacked.mono id (by simp)
  simpa only [seen_of_ne kept] using Stacked.entered stands rest

/-- A scope that is not that of a function is entered. -/
theorem enter (stacked : names.Stacked called True shape first second) {kind : ScopeKind}
    (plain : (Scope.empty kind).isFunction = false) :
    names.Stacked called True (shape.enter none) (Scope.empty kind :: first)
      (Scope.empty kind :: second) := by
  cases stacked with
  | around scopes => exact .around _
  | @entered _ level outer scope first second stands rest =>
      have inner : names.Stands called True ⟨false, none⟩ (level :: outer) (Scope.empty kind)
          (scope :: first) := {
        isFunction := plain
        fresh := rfl
        unbound _ := rfl
        base := nofun
        unshadowed := nofun
        shadows := nofun
        callable := nofun }
      have around : names.Stacked called (True ∧ false = false) (level :: outer) (scope :: first)
          (names.seen level.bound scope :: second) := (Stacked.entered stands rest).mono id And.left
      simpa using Stacked.entered inner around

/-- A scope that is not that of a function is left. -/
theorem leave {bound : Option Binding} {outer : Shape} {inner inner' : Scope}
    (stacked : names.Stacked called True (⟨false, bound⟩ :: outer) (inner :: first)
      (inner' :: second)) : names.Stacked called True outer first second := by
  cases stacked with
  | entered stands rest => exact rest.mono id fun _ => ⟨trivial, rfl⟩

end Stacked

end Renaming

end ScriptCheck
