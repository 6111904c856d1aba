import ScriptCheck.Ty

/-!
# Scopes

A stack of scopes binds names to types. The global scope lies at the bottom and is never left. A
name is looked up from the innermost scope outwards, either through all scopes or only as far as
the nearest function: a function sees its parameters and what its body declares, and the variables
around it stay out of reach.
-/

namespace ScriptCheck

/-- What opens a scope. The scope of a function holds its signature, whose result the body may
still determine. -/
inductive ScopeKind where
  | global
  | block
  | function (signature : Signature)
  | loop
  | branch

/-- A scope: the names that it binds, the latest first, and whether the statement that comes next
in it can be reached. -/
structure Scope where
  kind : ScopeKind
  symbols : List (String × Ty)
  reachable : Bool

namespace Scope

def empty (kind : ScopeKind) : Scope :=
  { kind, symbols := [], reachable := true }

def lookup? (scope : Scope) (name : String) : Option Ty :=
  scope.symbols.lookup name

def binds (scope : Scope) (name : String) : Bool :=
  (scope.lookup? name).isSome

def bind (scope : Scope) (name : String) (type : Ty) : Scope :=
  { scope with symbols := (name, type) :: scope.symbols }

/-- The scope with another type for a name that it binds. -/
def rebind (scope : Scope) (name : String) (type : Ty) : Scope :=
  { scope with
    symbols := scope.symbols.map fun symbol => if symbol.1 == name then (name, type) else symbol }

/-- The signature of the function whose scope this is. -/
def signature? (scope : Scope) : Option Signature :=
  match scope.kind with
  | .function signature => some signature
  | _ => none

def isFunction (scope : Scope) : Bool :=
  scope.signature?.isSome

def isLoop (scope : Scope) : Bool :=
  match scope.kind with
  | .loop => true
  | _ => false

def setResult (scope : Scope) (result : Ty) : Scope :=
  match scope.kind with
  | .function signature => { scope with kind := .function (signature.withResult result) }
  | _ => scope

end Scope

/-- How far a name is looked up: as far as the scope of the nearest function, or through all
scopes. -/
inductive Reach where
  | function
  | everywhere
  deriving DecidableEq, Repr

/-- A stack of scopes: the innermost one, and those around it from the inside to the global
scope. -/
structure ScopeStack where
  inner : Scope
  outer : List Scope

namespace ScopeStack

def initial : ScopeStack :=
  { inner := Scope.empty .global, outer := [] }

def scopes (stack : ScopeStack) : List Scope :=
  stack.inner :: stack.outer

def depth (stack : ScopeStack) : Nat :=
  stack.outer.length

def enter (stack : ScopeStack) (kind : ScopeKind) : ScopeStack :=
  { inner := Scope.empty kind, outer := stack.scopes }

/-- The innermost scope and the stack around it, unless it is the global scope. -/
def exit? (stack : ScopeStack) : Option (Scope × ScopeStack) :=
  match stack.outer with
  | [] => none
  | inner :: outer => some (stack.inner, { inner, outer })

/-- The stack with one more name in the innermost scope, which must not bind the name yet. -/
def define? (stack : ScopeStack) (name : String) (type : Ty) : Option ScopeStack :=
  if stack.inner.binds name then none
  else some { stack with inner := stack.inner.bind name type }

def modifyFirst (property : Scope → Bool) (change : Scope → Scope) : List Scope → List Scope
  | [] => []
  | scope :: outer =>
    if property scope then change scope :: outer
    else scope :: modifyFirst property change outer

def modifyInnermost (stack : ScopeStack) (property : Scope → Bool) (change : Scope → Scope) :
    ScopeStack :=
  if property stack.inner then { stack with inner := change stack.inner }
  else { stack with outer := modifyFirst property change stack.outer }

/-- The stack with another type for a name in the innermost scope that binds it. -/
def update (stack : ScopeStack) (name : String) (type : Ty) : ScopeStack :=
  stack.modifyInnermost (·.binds name) (·.rebind name type)

/-- The type of a name, with the number of scopes around the scope that binds it. -/
def locateIn (reach : Reach) (name : String) : List Scope → Option (Nat × Ty)
  | [] => none
  | scope :: outer =>
    match scope.lookup? name with
    | some type => some (outer.length, type)
    | none =>
      if reach = .function && scope.isFunction then none else locateIn reach name outer

/-- The type of a name, with the number of scopes around the scope that binds it. -/
def locate? (stack : ScopeStack) (reach : Reach) (name : String) : Option (Nat × Ty) :=
  locateIn reach name stack.scopes

def lookup? (stack : ScopeStack) (reach : Reach) (name : String) : Option Ty :=
  (stack.locate? reach name).map (·.2)

def signature? (stack : ScopeStack) : Option Signature :=
  stack.scopes.findSome? (·.signature?)

/-- The stack with another result for the nearest function. -/
def setResult (stack : ScopeStack) (result : Ty) : ScopeStack :=
  stack.modifyInnermost (·.isFunction) (·.setResult result)

/-- Whether a loop lies around, within the nearest function. -/
def inLoop (stack : ScopeStack) : Bool :=
  ((stack.scopes.find? fun scope => scope.isFunction || scope.isLoop).map (·.isLoop)).getD false

/-- Whether the statement that comes next can be reached in every scope. -/
def isReachable (stack : ScopeStack) : Bool :=
  stack.scopes.all (·.reachable)

/-- The stack after a statement that is never completed. -/
def setUnreachable (stack : ScopeStack) : ScopeStack :=
  { stack with inner := { stack.inner with reachable := false } }

@[simp]
theorem exit?_enter (stack : ScopeStack) (kind : ScopeKind) :
    (stack.enter kind).exit? = some (Scope.empty kind, stack) := rfl

@[simp]
theorem depth_enter (stack : ScopeStack) (kind : ScopeKind) :
    (stack.enter kind).depth = stack.depth + 1 := rfl

/-- The global scope is the only one that is never left. -/
theorem exit?_eq_none_iff (stack : ScopeStack) : stack.exit? = none ↔ stack.depth = 0 := by
  cases outer : stack.outer <;> simp [exit?, depth, outer]

/-- A name can be defined exactly where the innermost scope does not bind it. -/
theorem define?_eq_none_iff (stack : ScopeStack) (name : String) (type : Ty) :
    stack.define? name type = none ↔ stack.inner.binds name = true := by
  by_cases bound : stack.inner.binds name <;> simp [define?, bound]

theorem length_modifyFirst (property : Scope → Bool) (change : Scope → Scope)
    (outer : List Scope) : (modifyFirst property change outer).length = outer.length := by
  induction outer with
  | nil => rfl
  | cons scope rest ih => by_cases holds : property scope <;> simp [modifyFirst, holds, ih]

@[simp]
theorem depth_update (stack : ScopeStack) (name : String) (type : Ty) :
    (stack.update name type).depth = stack.depth := by
  by_cases bound : stack.inner.binds name <;>
    simp [update, modifyInnermost, depth, bound, length_modifyFirst]

@[simp]
theorem depth_setResult (stack : ScopeStack) (result : Ty) :
    (stack.setResult result).depth = stack.depth := by
  by_cases found : stack.inner.isFunction <;>
    simp [setResult, modifyInnermost, depth, found, length_modifyFirst]

end ScopeStack

end ScriptCheck
