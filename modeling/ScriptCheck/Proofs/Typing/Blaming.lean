import ScriptCheck.Proofs.Typing.Plain
import ScriptCheck.Proofs.Typing.RenamedCheck

/-!
# What faults are blamed on

A fault is reported at the position of the statement that is checked at the time. A name is defined
twice only where it is bound twice before the body of a function: every other name is bound in a
scope that has just been entered, or after a look whether it is bound already.

A `Blame` says which positions may be reported, and which names may be reported as defined twice. It
covers a part where it allows the positions of all statements in the part and all names that its
functions bind twice, and then it admits every fault of the part. The search for a first returned
value needs no case, since its faults are caught.
-/

namespace ScriptCheck

open Checker

/-- The positions that may be reported, and the names that may be reported as defined twice. -/
structure Blame where
  position : Position → Prop
  name : String → Prop

namespace Blame

variable (blame : Blame)

structure Admits (diagnostic : Diagnostic) : Prop where
  position : blame.position diagnostic.position
  name : ∀ name, diagnostic.cause = .naming (.symbolAlreadyDefined name) → blame.name name

/-- The positions of all statements in a part may be reported, and so may all names that are bound
twice before the body of a function in it. -/
structure Covers (part : Part) : Prop where
  position : ∀ stmt, Relation.ReflTransGen Part.Holds part (.stmt stmt) →
    blame.position stmt.position
  name : ∀ held, Relation.ReflTransGen Part.Holds part held →
    ∀ function ∈ held.functions, ∀ name, 2 ≤ function.1.count name → blame.name name

variable {blame}

theorem Covers.held {part held : Part} (covers : blame.Covers part) (holds : part.Holds held) :
    blame.Covers held :=
  ⟨fun stmt inside => covers.position stmt (inside.head holds),
    fun inner inside => covers.name inner (inside.head holds)⟩

theorem Covers.here {stmt : Stmt} (covers : blame.Covers (.stmt stmt)) :
    blame.position stmt.position :=
  covers.position stmt .refl

theorem Covers.operands {expr : Expr} (covers : blame.Covers (.expr expr)) :
    ∀ operand ∈ expr.operands, blame.Covers (.expr operand) :=
  fun _ member => covers.held (.operand member)

theorem Covers.stmtOperands {stmt : Stmt} (covers : blame.Covers (.stmt stmt)) :
    ∀ operand ∈ stmt.operands, blame.Covers (.expr operand) :=
  fun _ member => covers.held (.stmtOperand member)

theorem Covers.blocks {stmt : Stmt} (covers : blame.Covers (.stmt stmt)) :
    ∀ block ∈ stmt.blocks, ∀ inner ∈ block.body, blame.Covers (.stmt inner) :=
  fun _ among _ member => covers.held (.nested among member)

end Blame

/-- The names that the innermost scope binds, the latest first. -/
def ScopeStack.innerNames (stack : ScopeStack) : List String :=
  stack.inner.symbols.map (·.1)

namespace Checker

variable {α β : Type} {blame : Blame} {start : ScopeStack → Prop} {first : Checker α}
  {rest : α → Checker β}

/-- An action that starts in such scopes, at a position that may be reported, ends at this position
or fails with a fault that is admitted. -/
def Blames (blame : Blame) (start : ScopeStack → Prop) (action : Checker α) : Prop :=
  ∀ state, blame.position state.position → start state.scopes →
    match action state with
    | .ok _ after => after.position = state.position
    | .error diagnostic _ => blame.Admits diagnostic

/-- An action ends at the position where it starts, or fails with a fault that is admitted. -/
def BlamesAnywhere (blame : Blame) (action : Checker α) : Prop :=
  ∀ state,
    match action state with
    | .ok _ after => after.position = state.position
    | .error diagnostic _ => blame.Admits diagnostic

abbrev anyScopes (_ : ScopeStack) : Prop :=
  True

section Combinators

theorem BlamesAnywhere.from (blames : BlamesAnywhere blame first) : Blames blame start first :=
  fun state _ _ => blames state

theorem BlamesAnywhere.andThen {second : Checker β} (blames : BlamesAnywhere blame first)
    (blamesRest : BlamesAnywhere blame second) :
    BlamesAnywhere blame (first >>= fun _ => second) := by
  intro state
  have blamed := blames state
  rw [bind_apply]
  cases ran : first state with
  | error diagnostic between =>
      rw [ran] at blamed
      exact blamed
  | ok value between =>
      rw [ran] at blamed
      have blamedRest := blamesRest between
      rw [blamed] at blamedRest
      exact blamedRest

theorem Blames.narrow {wider : ScopeStack → Prop} (blames : Blames blame wider first)
    (narrower : ∀ stack, start stack → wider stack) : Blames blame start first :=
  fun state here started => blames state here (narrower _ started)

/-- What comes after an action starts where the action has ended. -/
theorem Blames.bind {next : α → ScopeStack → Prop} (blames : Blames blame start first)
    (passes : ∀ state value after, start state.scopes → first state = .ok value after →
      next value after.scopes)
    (blamesRest : ∀ value, Blames blame (next value) (rest value)) :
    Blames blame start (first >>= rest) := by
  intro state here started
  have blamed := blames state here started
  rw [bind_apply]
  cases ran : first state with
  | error diagnostic between =>
      rw [ran] at blamed
      exact blamed
  | ok value between =>
      rw [ran] at blamed
      have hereBetween : blame.position between.position := by
        rw [blamed]
        exact here
      have blamedRest := blamesRest value between hereBetween (passes _ _ _ started ran)
      rw [blamed] at blamedRest
      exact blamedRest

theorem Blames.then (blames : Blames blame start first)
    (blamesRest : ∀ value, Blames blame anyScopes (rest value)) :
    Blames blame start (first >>= rest) :=
  blames.bind (fun _ _ _ _ _ => trivial) blamesRest

/-- What comes after an action may rely on what the action is known to give. -/
theorem Blames.relying {promised : α → Prop} (blames : Blames blame start first)
    (promises : ∀ state value after, first state = .ok value after → promised value)
    (blamesRest : ∀ value, promised value → Blames blame anyScopes (rest value)) :
    Blames blame start (first >>= rest) := by
  have relies (value : α) : Blames blame (fun _ => promised value) (rest value) :=
    fun state here holds => blamesRest value holds state here trivial
  exact blames.bind (fun state value after _ ran => promises state value after ran) relies

/-- An action that changes no scope may come first anywhere. -/
theorem Blames.carry (blames : Blames blame start first) (keeps : Keeps Eq first)
    (blamesRest : ∀ value, Blames blame start (rest value)) :
    Blames blame start (first >>= rest) := by
  apply blames.bind _ blamesRest
  intro state value after started ran
  rw [← (keeps.of_ok ran).2]
  exact started

/-- Building blocks with plain faults blame nothing else. -/
theorem Plain.blames (plain : Plain first) : Blames blame start first := by
  intro state here _
  have plainly := plain state
  cases ran : first state with
  | error diagnostic after =>
      rw [ran] at plainly
      refine ⟨?_, fun name same => absurd same (plainly.2.binds name)⟩
      rw [plainly.1]
      exact here
  | ok value after =>
      rw [ran] at plainly
      exact plainly

theorem blames_pure (value : α) : Blames blame start (pure value) :=
  fun _ _ _ => rfl

theorem Blames.discard (blames : Blames blame start first) :
    Blames blame start (Functor.discard first) :=
  blames.then fun _ => blames_pure ()

/-- A type fault never says that a name is defined already. -/
theorem blames_follow (result : Except TypeFault α) : Blames blame start (follow result) := by
  cases result with
  | error fault => exact fun _ here _ => ⟨here, by simp⟩
  | ok value => exact blames_pure value

theorem blames_returnType (expected actual : Ty) :
    Blames blame start (returnType expected actual) := by
  have gives : Blames blame start (giveResult expected actual) := by
    unfold giveResult
    split
    · exact (plain_modifyScopes _).blames
    · exact blames_follow _
  exact gives.then fun _ => (plain_modifyScopes _).blames

end Combinators

/-! ### Definitions after a look -/

section Unbound

/-- The innermost scope does not bind a name. -/
def Unbound (name : String) (stack : ScopeStack) : Prop :=
  stack.inner.binds name = false

theorem blames_define (name : String) (type : Ty) :
    Blames blame (Unbound name) (define name type) := by
  intro state _ unbound
  have free : state.scopes.inner.binds name = false := unbound
  rw [define_apply, ScopeStack.define?, free]
  rfl

/-- What is not found is not bound by the innermost scope. -/
theorem unbound_of_locate? {reach : Reach} {name : String} {stack : ScopeStack}
    (missing : stack.locate? reach name = none) : Unbound name stack := by
  unfold ScopeStack.locate? ScopeStack.scopes ScopeStack.locateIn at missing
  split at missing
  · contradiction
  · rename_i unbound
    simp [Unbound, Scope.binds, unbound]

/-- A function is bound after a look whether its own scope binds the name. -/
theorem blames_requireFree {rest : Checker β} {name : String} {cause : Cause} (plain : cause.Plain)
    (blames : Blames blame (Unbound name) rest) :
    Blames blame start (do
      require (!(← scopes).inner.binds name) cause
      rest) := by
  have looks (stack : ScopeStack) : Blames blame (· = stack) (do
      require (!stack.inner.binds name) cause
      rest) := by
    apply Blames.bind (plain_require _ plain).blames _ fun _ => blames
    rintro state _ after rfl ran
    rcases ok_of_require ran with ⟨unbound, rfl⟩
    simpa [Unbound] using unbound
  apply Blames.bind plain_scopes.blames _ looks
  intro state stack after _ ran
  cases ran
  rfl

theorem unbound_of_requireUnbound {name : String} {state after : CheckState}
    (ran : requireUnbound name state = .ok () after) : Unbound name after.scopes := by
  rw [state_of_requireUnbound ran]
  exact unbound_of_locate? (locate?_of_requireUnbound ran)

/-- A variable is bound after a look whether the scopes of the same function bind it. -/
theorem blames_declareVariable (id : Nat) (name : String) (declared actual : Ty) :
    Blames blame start (declareVariable id name declared actual) := by
  have binds (type : Ty) : Blames blame (Unbound name) (do
      follow (Rule.initializer name type actual)
      follow type.checkHashable
      define name type
      modifyAnalysis (·.addVariable id type)) := by
    apply (blames_follow _).carry (keeps_follow _)
    intro _
    apply (blames_follow _).carry (keeps_follow _)
    intro _
    exact (blames_define name type).then fun _ => (plain_modifyAnalysis _).blames
  apply Blames.bind (plain_requireUnbound name).blames
  · intro state _ after _ ran
    exact unbound_of_requireUnbound ran
  · intro _
    exact (plain_variableType declared actual).blames.carry
      (keeps_variableType declared actual) binds

/-- A template is bound after a look whether any scope binds it. -/
theorem blames_declareTemplate (template : Template) :
    Blames blame start (declareTemplate template) := by
  have declares : Blames blame (Unbound template.name) (do
      define template.name (.template template)
      template.attributes.forM fun entry => do
        validate entry.2
        follow entry.2.checkHashable) := by
    apply (blames_define _ _).then
    intro _
    apply Plain.blames
    apply plain_forM
    intro entry
    exact (plain_mentions _).then fun _ => plain_follow entry.2.plain_checkHashable
  have looks (found : Option Ty) :
      Blames blame (fun stack => stack.lookup? .everywhere template.name = found) (do
        require found.isNone (.naming (.templateRedeclared template.name))
        define template.name (.template template)
        template.attributes.forM fun entry => do
          validate entry.2
          follow entry.2.checkHashable) := by
    apply Blames.bind (plain_require _ ⟨rfl, by simp⟩).blames _ fun _ => declares
    intro state _ after looked ran
    rcases ok_of_require ran with ⟨isNone, rfl⟩
    rw [← looked, Option.isNone_iff_eq_none] at isNone
    exact unbound_of_locate? (Option.map_eq_none_iff.mp isNone)
  apply Blames.bind (plain_lookup? .everywhere template.name).blames _ looks
  intro state found after _ ran
  cases ran
  rfl

end Unbound

/-! ### The names that are bound before the body of a function -/

section Names

/-- An action binds names in the innermost scope and does nothing else. It finds a name defined
already only where the name is twice among them and those that are bound before. -/
def BindsAll (names : List String) (action : Checker Unit) : Prop :=
  ∀ state,
    match action state with
    | .ok _ after => after.position = state.position ∧
        after.scopes.innerNames = names.reverse ++ state.scopes.innerNames
    | .error diagnostic _ => diagnostic.position = state.position ∧
        ∀ name, diagnostic.cause = .naming (.symbolAlreadyDefined name) →
          2 ≤ (names.reverse ++ state.scopes.innerNames).count name

theorem bindsAll_nil : BindsAll [] (pure ()) :=
  fun _ => ⟨rfl, rfl⟩

theorem BindsAll.append {names others : List String} {first second : Checker Unit}
    (binds : BindsAll names first) (bindsMore : BindsAll others second) :
    BindsAll (names ++ others) (first >>= fun _ => second) := by
  intro state
  have bound := binds state
  rw [bind_apply, List.reverse_append, List.append_assoc]
  cases ran : first state with
  | error diagnostic between =>
      rw [ran] at bound
      refine ⟨bound.1, ?_⟩
      intro name same
      rw [List.count_append]
      exact Nat.le_add_left_of_le (bound.2 name same)
  | ok value between =>
      rw [ran] at bound
      have boundMore := bindsMore between
      rw [bound.1, bound.2] at boundMore
      exact boundMore

theorem bindsAll_define (name : String) (type : Ty) : BindsAll [name] (define name type) := by
  intro state
  rw [define_apply, ScopeStack.define?]
  cases bound : state.scopes.inner.binds name with
  | false => exact ⟨rfl, rfl⟩
  | true =>
      refine ⟨rfl, ?_⟩
      intro other same
      have sameName : name = other := by simpa using same
      subst sameName
      have among : name ∈ state.scopes.innerNames := by
        rcases Option.isSome_iff_exists.mp bound with ⟨type, found⟩
        exact List.mem_map_of_mem (mem_of_lookup found)
      have once := List.count_pos_iff.mpr among
      rw [List.reverse_singleton, List.singleton_append, List.count_cons_self]
      exact Nat.succ_le_succ once

theorem bindsAll_forM {Item : Type} {step : Item → Checker Unit} (name : Item → String)
    (items : List Item) (binds : ∀ item, BindsAll [name item] (step item)) :
    BindsAll (items.map name) (items.forM step) := by
  induction items with
  | nil => exact bindsAll_nil
  | cons item rest ih => exact (binds item).append ih

/-- The type of a name is looked up before the name is bound, without any effect. -/
theorem bindsAll_defineResolved (entries : List (String × Ty)) :
    BindsAll (entries.map (·.1)) (defineResolved entries) := by
  apply bindsAll_forM
  rintro ⟨name, type⟩ state
  show match (resolve type >>= fun resolved => define name resolved) state with
    | .ok _ after => _
    | .error diagnostic _ => _
  rw [bind_apply]
  have plainly := plain_resolve type state
  cases ran : resolve type state with
  | ok resolved looked =>
      rw [state_of_resolve ran]
      exact bindsAll_define name resolved state
  | error diagnostic looked =>
      rw [ran] at plainly
      exact ⟨plainly.1, fun name same => absurd same (plainly.2.binds name)⟩

theorem bindsAll_defineMembers (template : Option Template) :
    BindsAll (template.elim [] fun declared =>
      declared.attributes.map (·.1) ++ declared.methods.map (·.1)) (defineMembers template) := by
  cases template with
  | none => exact bindsAll_nil
  | some declared =>
      apply (bindsAll_defineResolved declared.attributes).append
      exact bindsAll_forM _ declared.methods fun method => bindsAll_define _ _

/-- A name that is defined already where a function is entered is bound twice before its body. -/
theorem blames_enterFunction {signature : Signature} {template : Option Template}
    (names : ∀ name, 2 ≤ (Renaming.boundNames signature template).count name → blame.name name) :
    Blames blame start (enterFunction signature template) := by
  intro state here _
  have binds := (bindsAll_defineMembers template).append (bindsAll_defineResolved signature.params)
  have bound := binds (state.entered (.function signature))
  have opened : enterFunction signature template state =
      (defineMembers template >>= fun _ => defineResolved signature.params)
        (state.entered (.function signature)) := rfl
  rw [opened]
  cases ran : (defineMembers template >>= fun _ => defineResolved signature.params)
      (state.entered (.function signature)) with
  | ok value after =>
      rw [ran] at bound
      exact bound.1
  | error diagnostic after =>
      rw [ran] at bound
      refine ⟨?_, ?_⟩
      · rw [bound.1]
        exact here
      · intro name same
        apply names
        have twice := bound.2 name same
        rw [show (state.entered (.function signature)).scopes.innerNames = [] from rfl,
          List.append_nil, List.count_reverse] at twice
        exact twice

end Names

section Blocks

variable {body : Checker Unit} {signature : Signature} {template : Option Template} {block : Block}

/-- The innermost scope binds nothing. -/
def Fresh (stack : ScopeStack) : Prop :=
  stack.inner.symbols = []

theorem blames_within (kind : ScopeKind) (blames : Blames blame Fresh body) :
    Blames blame start (within kind body) := by
  intro state here _
  have inside : Blames blame Fresh (do body; exit) := blames.then fun _ => plain_exit.blames
  exact inside (state.entered kind) here rfl

/-- The variable of a loop is bound in a scope that has just been entered. -/
theorem blames_loop (name : String) (type : Ty) (blames : BlamesAnywhere blame (checkBody block)) :
    Blames blame start (within .loop do define name type; checkBody block) := by
  have defines : Blames blame Fresh (define name type) := by
    apply (blames_define name type).narrow
    intro stack fresh
    have none : stack.inner.symbols = [] := fresh
    simp [Unbound, Scope.binds, Scope.lookup?, none]
  exact blames_within .loop (defines.then fun _ => blames.from)

/-- A statement is checked at its own position. -/
theorem blames_atStmt {position : Position} (here : blame.position position)
    (blames : Blames blame anyScopes body) : BlamesAnywhere blame (atStmt position body) := by
  intro state
  cases reachable : state.scopes.isReachable with
  | false =>
      rw [atStmt_of_unreachable reachable]
      exact ⟨here, by simp⟩
  | true =>
      have blamed := blames (state.movedTo position) here trivial
      have opened : atStmt position body state =
          (body >>= fun _ => moveTo state.position) (state.movedTo position) :=
        atStmt_apply reachable body
      rw [opened, bind_apply]
      cases ran : body (state.movedTo position) with
      | ok value after => rfl
      | error diagnostic after =>
          rw [ran] at blamed
          exact blamed

/-- The signature that is found for a function before its body settles the written one. -/
theorem blames_prepared {next : Signature → Checker β}
    (blames : ∀ prepared, signature.Settles prepared → Blames blame anyScopes (next prepared)) :
    Blames blame start
      (inferResult signature template block.firstReturn? (searchBody block) >>= next) := by
  apply Blames.relying (plain_inferResult _ _ _ _).blames _ blames
  intro state prepared after ran
  exact settles_of_prepareSignature ran

/-- The signature that the body of a function determines settles the one before. -/
theorem blames_checked {next : Signature → Checker β}
    (names : ∀ name, 2 ≤ (Renaming.boundNames signature template).count name → blame.name name)
    (blamesBody : BlamesAnywhere blame (checkBody block))
    (blames : ∀ resolved, signature.Settles resolved → Blames blame anyScopes (next resolved)) :
    Blames blame start (inFunction signature template (checkBody block) >>= next) := by
  have checks : Blames blame start (inFunction signature template (checkBody block)) := by
    apply (blames_enterFunction names).then
    intro _
    apply blamesBody.from.then
    intro _
    exact plain_exit.blames.then fun _ => blames_pure _
  apply checks.relying _ blames
  intro state resolved after ran
  exact settles_of_checkFunction ran

end Blocks

end Checker

end ScriptCheck
