import Mathlib.Data.List.Forall2
import ScriptCheck.Proofs.Typing.Stack
import ScriptCheck.Typing.Analysis

/-!
# Scope stacks that look alike

Two runs of the checker can start in different scopes and still go the same way. Here it is said
how the scopes may differ for that. The scopes that both runs have entered meanwhile are the same.
Below them, corresponding scopes bind the same names, and where values are veiled, two types that
are neither a function nor a template count as the same: such a type is only ever seen from inside
the function whose variable it belongs to. The signatures of functions may differ there as well,
and so may loops, unless they are said to be the same.
-/

namespace ScriptCheck

/-- Whether a type is neither that of a function nor a template. -/
def Ty.isValue : Ty → Bool
  | .function _ | .template _ => false
  | _ => true

/-- What two runs may differ in. -/
structure Likeness where
  veiled : Prop
  sameLoops : Prop
  unveiled : sameLoops → ¬ veiled
  tables : Analysis → Analysis → Prop
  addVariable : ∀ {first second : Analysis} (id : Nat) (type : Ty), tables first second →
    tables (first.addVariable id type) (second.addVariable id type)
  addFunction : ∀ {first second : Analysis} (id : Nat) (signature : Signature),
    tables first second → tables (first.addFunction id signature) (second.addFunction id signature)

namespace Likeness

theorem eq_addVariable {first second : Analysis} (id : Nat) (type : Ty) (same : first = second) :
    first.addVariable id type = second.addVariable id type := by
  rw [same]

theorem eq_addFunction {first second : Analysis} (id : Nat) (signature : Signature)
    (same : first = second) : first.addFunction id signature = second.addFunction id signature := by
  rw [same]

variable (likeness : Likeness)

/-- Two types of a name that count as the same in the scopes that the runs started in. -/
def Types (first second : Ty) : Prop :=
  first = second ∨ (likeness.veiled ∧ first.isValue = true ∧ second.isValue = true)

structure Scopes (first second : Scope) : Prop where
  isFunction : first.isFunction = second.isFunction
  isLoop : likeness.sameLoops → first.isLoop = second.isLoop
  reachable : first.reachable = second.reachable
  names : ∀ name, Option.Rel likeness.Types (first.lookup? name) (second.lookup? name)

/-- Two lists of scopes that end in corresponding scopes and start with the same ones, and which of
the latter are scopes of functions. -/
inductive Stacked : List Bool → List Scope → List Scope → Prop where
  | base {first second : List Scope} (some : first ≠ [])
      (alike : List.Forall₂ likeness.Scopes first second) : Stacked [] first second
  | shared (scope : Scope) {shape : List Bool} {first second : List Scope}
      (rest : Stacked shape first second) :
      Stacked (scope.isFunction :: shape) (scope :: first) (scope :: second)

variable {likeness}

theorem Types.refl (type : Ty) : likeness.Types type type :=
  Or.inl rfl

theorem option_rel_refl {α : Type} {relation : α → α → Prop} (same : ∀ value, relation value value)
    (found : Option α) : Option.Rel relation found found := by
  cases found with
  | none => exact .none
  | some value => exact .some (same value)

theorem option_rel_eq {α : Type} {relation : α → α → Prop} {first second : Option α}
    (same : ∀ value other, relation value other → value = other)
    (related : Option.Rel relation first second) : first = second := by
  cases related with
  | none => rfl
  | some values => rw [same _ _ values]

theorem option_rel_imp {α : Type} {relation relation' : α → α → Prop} {first second : Option α}
    (weaker : ∀ value other, relation value other → relation' value other)
    (related : Option.Rel relation first second) : Option.Rel relation' first second := by
  cases related with
  | none => exact .none
  | some values => exact .some (weaker _ _ values)

theorem option_rel_map {α β : Type} {relation : α → α → Prop} {relation' : β → β → Prop}
    {change change' : α → β} {first second : Option α}
    (preserves : ∀ value other, relation value other → relation' (change value) (change' other))
    (related : Option.Rel relation first second) :
    Option.Rel relation' (first.map change) (second.map change') := by
  cases related with
  | none => exact .none
  | some values => exact .some (preserves _ _ values)

theorem option_rel_isSome {α : Type} {relation : α → α → Prop} {first second : Option α}
    (related : Option.Rel relation first second) : first.isSome = second.isSome := by
  cases related <;> rfl

namespace Scopes

variable {first second : Scope}

theorem refl (scope : Scope) : likeness.Scopes scope scope :=
  ⟨rfl, fun _ => rfl, rfl, fun name => option_rel_refl Types.refl (scope.lookup? name)⟩

theorem binds (alike : likeness.Scopes first second) (name : String) :
    first.binds name = second.binds name :=
  option_rel_isSome (alike.names name)

theorem bind (alike : likeness.Scopes first second) (name : String) (type : Ty) :
    likeness.Scopes (first.bind name type) (second.bind name type) := by
  refine ⟨alike.isFunction, alike.isLoop, alike.reachable, fun other => ?_⟩
  simp only [Scope.bind, Scope.lookup?, List.lookup_cons]
  split
  · exact .some (Types.refl type)
  · exact alike.names other

end Scopes

end Likeness

/-- A name is found with its new type after it got one, and other names as before. -/
theorem Scope.lookup?_rebind (scope : Scope) (name : String) (type : Ty) (other : String) :
    (scope.rebind name type).lookup? other =
      if other = name then (scope.lookup? name).map fun _ => type else scope.lookup? other := by
  rcases scope with ⟨kind, symbols, reachable⟩
  simp only [lookup?, rebind]
  induction symbols with
  | nil => simp
  | cons symbol rest ih =>
      rcases symbol with ⟨bound, old⟩
      by_cases isBound : bound = name
      · subst isBound
        by_cases sought : other = bound
        · subst sought
          simp
        · simp only [List.map_cons, beq_self_eq_true, if_true, sought, if_false] at ih ⊢
          rw [List.lookup_cons, List.lookup_cons, beq_eq_false_iff_ne.mpr sought]
          exact ih
      · by_cases sought : other = name
        · subst sought
          simp only [List.map_cons, beq_eq_false_iff_ne.mpr isBound, Bool.false_eq_true, if_false,
            if_true] at ih ⊢
          rw [List.lookup_cons, List.lookup_cons, beq_eq_false_iff_ne.mpr (Ne.symm isBound)]
          exact ih
        · simp only [List.map_cons, beq_eq_false_iff_ne.mpr isBound, Bool.false_eq_true, if_false,
            sought] at ih ⊢
          rw [List.lookup_cons, List.lookup_cons]
          split
          · rfl
          · exact ih

namespace Likeness

variable {likeness : Likeness} {shape : List Bool} {first second : List Scope}

/-- A name that gets the same type in corresponding scopes. -/
theorem Scopes.rebind {first second : Scope} (alike : likeness.Scopes first second) (name : String)
    (type : Ty) : likeness.Scopes (first.rebind name type) (second.rebind name type) := by
  refine ⟨alike.isFunction, alike.isLoop, alike.reachable, fun other => ?_⟩
  rw [Scope.lookup?_rebind, Scope.lookup?_rebind]
  split
  · exact option_rel_map (fun _ _ _ => Types.refl type) (alike.names name)
  · exact alike.names other

theorem locateIn_of_forall₂ (reach : Reach) (name : String)
    (alike : List.Forall₂ likeness.Scopes first second) :
    Option.Rel (fun found other => found.1 = other.1 ∧ likeness.Types found.2 other.2)
      (ScopeStack.locateIn reach name first) (ScopeStack.locateIn reach name second) := by
  induction alike with
  | nil => exact .none
  | @cons scope other outer outer' scopes rest ih =>
      simp only [ScopeStack.locateIn]
      have names := scopes.names name
      have depth := rest.length_eq
      cases here : scope.lookup? name with
      | some type =>
          cases there : other.lookup? name with
          | some type' =>
              rw [here, there] at names
              cases names with
              | some types => exact .some ⟨depth, types⟩
          | none =>
              rw [here, there] at names
              contradiction
      | none =>
          cases there : other.lookup? name with
          | some type' =>
              rw [here, there] at names
              contradiction
          | none =>
              simp only [scopes.isFunction]
              split
              · exact .none
              · exact ih

namespace Stacked

theorem length_eq (stacked : likeness.Stacked shape first second) :
    first.length = second.length := by
  induction stacked with
  | base some alike => exact alike.length_eq
  | shared scope rest ih => simp [ih]

theorem ne_nil (stacked : likeness.Stacked shape first second) : first ≠ [] := by
  cases stacked with
  | base some alike => exact some
  | shared scope rest => simp

theorem locateIn (stacked : likeness.Stacked shape first second) (reach : Reach) (name : String) :
    Option.Rel (fun found other => found.1 = other.1 ∧ likeness.Types found.2 other.2)
      (ScopeStack.locateIn reach name first) (ScopeStack.locateIn reach name second) := by
  induction stacked with
  | base some alike => exact locateIn_of_forall₂ reach name alike
  | shared scope rest ih =>
      simp only [ScopeStack.locateIn]
      cases scope.lookup? name with
      | some type => exact .some ⟨rest.length_eq, Types.refl type⟩
      | none =>
          simp only
          split
          · exact .none
          · exact ih

/-- As far as the nearest function, names have the same types in both runs. -/
theorem locateIn_function (stacked : likeness.Stacked shape first second)
    (inside : likeness.veiled → true ∈ shape) (name : String) :
    ScopeStack.locateIn .function name first = ScopeStack.locateIn .function name second := by
  by_cases veiled : likeness.veiled
  · have within := inside veiled
    clear inside
    induction stacked with
    | base some alike => simp at within
    | shared scope rest ih =>
        simp only [ScopeStack.locateIn]
        cases scope.lookup? name with
        | some type => simp [rest.length_eq]
        | none =>
            cases isFunction : scope.isFunction with
            | true => simp
            | false =>
                rw [isFunction] at within
                simpa using ih (by simpa using within)
  · refine option_rel_eq ?_ (stacked.locateIn .function name)
    intro found other related
    rcases related with ⟨depth, same | ⟨isVeiled, _⟩⟩
    · exact Prod.ext depth same
    · exact absurd isVeiled veiled

theorem modifyFirst_binds (stacked : likeness.Stacked shape first second) (name : String)
    (type : Ty) :
    likeness.Stacked shape
      (ScopeStack.modifyFirst (·.binds name) (·.rebind name type) first)
      (ScopeStack.modifyFirst (·.binds name) (·.rebind name type) second) := by
  induction stacked with
  | @base first second some alike =>
      refine .base ?_ ?_
      · intro empty
        have length := ScopeStack.length_modifyFirst (·.binds name) (·.rebind name type) first
        rw [empty] at length
        exact some (List.length_eq_zero_iff.mp length.symm)
      · clear some
        induction alike with
        | nil => exact .nil
        | @cons scope other outer outer' scopes rest ih =>
            simp only [ScopeStack.modifyFirst, scopes.binds name]
            split
            · exact .cons (scopes.rebind name type) rest
            · exact .cons scopes ih
  | @shared scope shape first second rest ih =>
      simp only [ScopeStack.modifyFirst]
      split
      · exact .shared (scope.rebind name type) rest
      · exact .shared scope ih

theorem modifyFirst_isFunction (stacked : likeness.Stacked shape first second)
    (inside : true ∈ shape) (result : Ty) :
    likeness.Stacked shape
      (ScopeStack.modifyFirst (·.isFunction) (·.setResult result) first)
      (ScopeStack.modifyFirst (·.isFunction) (·.setResult result) second) := by
  induction stacked with
  | base some alike => simp at inside
  | @shared scope shape first second rest ih =>
      simp only [ScopeStack.modifyFirst]
      cases isFunction : scope.isFunction with
      | true =>
          have still : (scope.setResult result).isFunction = true := by
            rcases scope with ⟨kind, symbols, reachable⟩
            cases kind <;>
              simp_all [Scope.setResult, Scope.isFunction, Scope.signature?]
          simpa [still] using Stacked.shared (scope.setResult result) rest
      | false =>
          rw [isFunction] at inside
          simpa [isFunction] using Stacked.shared scope (ih (by simpa using inside))

theorem findSome?_signature? (stacked : likeness.Stacked shape first second)
    (inside : true ∈ shape) :
    first.findSome? (·.signature?) = second.findSome? (·.signature?) := by
  induction stacked with
  | base some alike => simp at inside
  | shared scope rest ih =>
      simp only [List.findSome?_cons]
      cases nearest : scope.signature? with
      | some signature => rfl
      | none =>
          have outside : scope.isFunction = false := by simp [Scope.isFunction, nearest]
          rw [outside] at inside
          exact ih (by simpa using inside)

theorem find?_loop (stacked : likeness.Stacked shape first second)
    (inside : true ∈ shape ∨ likeness.sameLoops) :
    (first.find? fun scope => scope.isFunction || scope.isLoop).map (·.isLoop) =
      (second.find? fun scope => scope.isFunction || scope.isLoop).map (·.isLoop) := by
  induction stacked with
  | base some alike =>
      have sameLoops : likeness.sameLoops := by simpa using inside
      clear some inside
      induction alike with
      | nil => rfl
      | cons scopes rest ih =>
          simp only [List.find?_cons, scopes.isFunction, scopes.isLoop sameLoops]
          split
          · simp [scopes.isLoop sameLoops]
          · exact ih
  | shared scope rest ih =>
      simp only [List.find?_cons]
      cases isFunction : scope.isFunction with
      | true => simp
      | false =>
          rw [isFunction] at inside
          simp only [Bool.false_or]
          split
          · rfl
          · exact ih (by simpa using inside)

/-- The innermost scopes are alike, also where both runs have entered them. -/
theorem inner {scope scope' : Scope}
    (stacked : likeness.Stacked shape (scope :: first) (scope' :: second)) :
    likeness.Scopes scope scope' := by
  cases stacked with
  | base some alike => exact (List.forall₂_cons.mp alike).1
  | shared => exact Scopes.refl scope

/-- A change of the innermost scopes that leaves them alike. -/
theorem modifyInner {scope scope' : Scope} (change : Scope → Scope)
    (stacked : likeness.Stacked shape (scope :: first) (scope' :: second))
    (isFunction : (change scope).isFunction = scope.isFunction)
    (alike : likeness.Scopes (change scope) (change scope')) :
    likeness.Stacked shape (change scope :: first) (change scope' :: second) := by
  cases stacked with
  | base some scopes =>
      refine .base (by simp) ?_
      exact .cons alike (List.forall₂_cons.mp scopes).2
  | shared _ rest => exact isFunction ▸ Stacked.shared (change scope) rest

theorem all_reachable (stacked : likeness.Stacked shape first second) :
    first.all (·.reachable) = second.all (·.reachable) := by
  induction stacked with
  | base some alike =>
      clear some
      induction alike with
      | nil => rfl
      | cons scopes rest ih => simp only [List.all_cons, scopes.reachable, ih]
  | shared scope rest ih => simp only [List.all_cons, ih]

end Stacked

end Likeness

end ScriptCheck
