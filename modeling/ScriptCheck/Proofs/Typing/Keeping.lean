import ScriptCheck.Proofs.Typing.Symbols
import ScriptCheck.Proofs.Typing.Visit

/-!
# What is kept true of a state

A property of the names and types in scope, one of the signature of the nearest function, and one
of what has been found out, where the checker keeps them true. `Ends` is how a run comes out that
began where they are true: they are true in the end, also where the run fails, since a search goes
on after a fault. An action upholds them if every run does. There is one rule for each combinator,
and one for each building block of the checker that hands types on as they are.
-/

namespace ScriptCheck

open Checker

/-- What is true of a name and the type that it is bound to, of the signature that a function is
entered with, and of all that has been found out. A template may be bound to any name. -/
structure Keeping where
  Bound : String → Ty → Prop
  Given : Signature → Prop
  Records : Analysis → Prop
  bound_template : ∀ {name other : String} {template : Template},
    Bound name (.template template) → Bound other (.template template)

namespace Keeping

variable (keeping : Keeping)

/-- The properties are true in a state. The one of the nearest signature is so where it is kept an
eye on. -/
structure Obeyed (watched : Bool) (state : CheckState) : Prop where
  symbols : ∀ symbol ∈ state.scopes.symbols, keeping.Bound symbol.1 symbol.2
  nearest : watched = true → ∀ signature, state.scopes.signature? = some signature →
    keeping.Given signature
  records : keeping.Records state.analysis

variable {α β : Type}

/-- How a run comes out. -/
def Ends (watched : Bool) (found : α → Prop) :
    EStateM.Result Diagnostic CheckState α → Prop
  | .ok value after => found value ∧ keeping.Obeyed watched after
  | .error _ after => keeping.Obeyed watched after

/-- All runs of an action come out well. -/
def Upholds (watched : Bool) (found : α → Prop) (action : Checker α) : Prop :=
  ∀ state, keeping.Obeyed watched state → keeping.Ends watched found (action state)

variable {keeping} {watched : Bool} {state : CheckState}

section States

theorem Obeyed.unwatched (obeyed : keeping.Obeyed watched state) : keeping.Obeyed false state :=
  ⟨obeyed.symbols, nofun, obeyed.records⟩

theorem Obeyed.of_watched (obeyed : keeping.Obeyed true state) : keeping.Obeyed watched state :=
  ⟨obeyed.symbols, fun _ => obeyed.nearest rfl, obeyed.records⟩

theorem Obeyed.movedTo (obeyed : keeping.Obeyed watched state) (position : Position) :
    keeping.Obeyed watched (state.movedTo position) :=
  ⟨obeyed.symbols, obeyed.nearest, obeyed.records⟩

/-- A scope that is not that of a function is entered. -/
theorem Obeyed.entered {kind : ScopeKind} (obeyed : keeping.Obeyed watched state)
    (plain : (Scope.empty kind).isFunction = false) :
    keeping.Obeyed watched (state.entered kind) := by
  refine ⟨obeyed.symbols, ?_, obeyed.records⟩
  rw [CheckState.entered, ScopeStack.signature?_enter plain]
  exact obeyed.nearest

theorem Obeyed.lookup? (obeyed : keeping.Obeyed watched state) {reach : Reach} {name : String}
    {type : Ty} (bound : state.scopes.lookup? reach name = some type) : keeping.Bound name type :=
  obeyed.symbols (name, type) (ScopeStack.mem_symbols_of_lookup? bound)

end States

section Combinators

variable {first : α → Prop} {second : β → Prop} {action : Checker α} {rest : α → Checker β}

theorem Ends.of_ok {value : α} {after : CheckState}
    (ends : keeping.Ends watched first (action state)) (ran : action state = .ok value after) :
    first value ∧ keeping.Obeyed watched after := by
  rw [ran] at ends
  exact ends

theorem Ends.mono {weaker : α → Prop} (ends : keeping.Ends watched first (action state))
    (implies : ∀ value, first value → weaker value) :
    keeping.Ends watched weaker (action state) := by
  cases ran : action state with
  | ok value after =>
      rw [ran] at ends
      exact ends.imp (implies value) id
  | error diagnostic after =>
      rw [ran] at ends
      exact ends

/-- One run after another. How the first one came out is known to the second one. -/
theorem Ends.bind (ends : keeping.Ends watched first (action state))
    (next : ∀ value after, action state = .ok value after → first value →
      keeping.Obeyed watched after → keeping.Ends watched second (rest value after)) :
    keeping.Ends watched second ((action >>= rest) state) := by
  rw [bind_apply]
  cases ran : action state with
  | ok value after =>
      rw [ran] at ends
      exact next value after ran ends.1 ends.2
  | error diagnostic after =>
      rw [ran] at ends
      exact ends

theorem Ends.discard (ends : keeping.Ends watched first (action state)) :
    keeping.Ends watched (fun _ => True) (Functor.discard action state) :=
  ends.bind fun _ _ _ _ obeyed => ⟨trivial, obeyed⟩

/-- What is found where an action is attempted, and where it fails nothing is. -/
theorem Ends.attempt (ends : keeping.Ends watched first (action state)) :
    keeping.Ends watched (fun found => ∀ value ∈ found, first value)
      (Checker.attempt action state) := by
  rw [attempt_apply]
  cases ran : action state with
  | ok value after =>
      rw [ran] at ends
      exact ⟨fun other same => Option.some.inj same ▸ ends.1, ends.2⟩
  | error diagnostic after =>
      rw [ran] at ends
      exact ⟨nofun, ends⟩

theorem Upholds.bind (upholds : keeping.Upholds watched first action)
    (upholdsRest : ∀ value, first value → keeping.Upholds watched second (rest value)) :
    keeping.Upholds watched second (action >>= rest) :=
  fun state obeyed => (upholds state obeyed).bind fun value after _ isFirst =>
    upholdsRest value isFirst after

theorem Upholds.discard (upholds : keeping.Upholds watched first action) :
    keeping.Upholds watched (fun _ => True) (Functor.discard action) :=
  fun state obeyed => (upholds state obeyed).discard

theorem Upholds.attempt (upholds : keeping.Upholds watched first action) :
    keeping.Upholds watched (fun found => ∀ value ∈ found, first value) (Checker.attempt action) :=
  fun state obeyed => (upholds state obeyed).attempt

theorem upholds_pure {value : α} (holds : first value) :
    keeping.Upholds watched first (pure value) :=
  fun _ obeyed => ⟨holds, obeyed⟩

theorem upholds_fail (cause : Cause) : keeping.Upholds watched first (fail cause : Checker α) :=
  fun _ obeyed => obeyed

theorem upholds_require (holds : Bool) (cause : Cause) :
    keeping.Upholds watched (fun _ => True) (require holds cause) := by
  cases holds with
  | true => exact upholds_pure trivial
  | false => exact upholds_fail cause

theorem upholds_follow {result : Except TypeFault α}
    (holds : ∀ value, result = .ok value → first value) :
    keeping.Upholds watched first (follow result) := by
  cases result with
  | ok value => exact upholds_pure (holds value rfl)
  | error fault => exact upholds_fail _

/-- A rule that only says whether a fault is there. -/
theorem upholds_check (result : Except TypeFault α) :
    keeping.Upholds watched (fun _ => True) (follow result) :=
  upholds_follow fun _ _ => trivial

theorem upholds_forM {Item : Type} {step : Item → Checker Unit} (items : List Item)
    (upholds : ∀ item ∈ items, keeping.Upholds watched (fun _ => True) (step item)) :
    keeping.Upholds watched (fun _ => True) (items.forM step) := by
  induction items with
  | nil => exact upholds_pure trivial
  | cons item rest ih =>
      refine (upholds item List.mem_cons_self).bind fun _ _ => ?_
      exact ih fun later member => upholds later (List.mem_cons_of_mem item member)

end Combinators

section Scopes

theorem upholds_scopes : keeping.Upholds watched (fun _ => True) scopes :=
  fun _ obeyed => ⟨trivial, obeyed⟩

theorem upholds_moveTo (position : Position) :
    keeping.Upholds watched (fun _ => True) (moveTo position) :=
  fun _ obeyed => ⟨trivial, obeyed.movedTo position⟩

theorem upholds_modifyAnalysis {change : Analysis → Analysis}
    (records : ∀ analysis, keeping.Records analysis → keeping.Records (change analysis)) :
    keeping.Upholds watched (fun _ => True) (modifyAnalysis change) :=
  fun _ obeyed => ⟨trivial, obeyed.symbols, obeyed.nearest, records _ obeyed.records⟩

theorem upholds_lookup? (reach : Reach) (name : String) :
    keeping.Upholds watched (fun found => ∀ type ∈ found, keeping.Bound name type)
      (Checker.lookup? reach name) :=
  fun _ obeyed => ⟨fun _ found => obeyed.lookup? found, obeyed⟩

theorem upholds_define (name : String) {type : Ty} (bound : keeping.Bound name type) :
    keeping.Upholds watched (fun _ => True) (define name type) := by
  intro state obeyed
  rw [define_apply]
  cases defined : state.scopes.define? name type with
  | none => exact obeyed
  | some extended =>
      have same := ScopeStack.eq_bound_of_define? defined
      refine ⟨trivial, ?_, ?_, obeyed.records⟩
      · simp only [same, ScopeStack.symbols_bound, List.mem_cons]
        rintro symbol (rfl | old)
        · exact bound
        · exact obeyed.symbols symbol old
      · rw [same]
        exact obeyed.nearest

theorem upholds_update (name : String) {type : Ty} (bound : keeping.Bound name type) :
    keeping.Upholds watched (fun _ => True) (update name type) := by
  intro state obeyed
  refine ⟨trivial, fun symbol member => ?_, ?_, obeyed.records⟩
  · rcases ScopeStack.mem_symbols_update member with old | rfl
    · exact obeyed.symbols symbol old
    · exact bound
  · rw [ScopeStack.signature?_update]
    exact obeyed.nearest

theorem upholds_setUnreachable :
    keeping.Upholds watched (fun _ => True) (modifyScopes (·.setUnreachable)) :=
  fun _ obeyed => ⟨trivial, obeyed.symbols, obeyed.nearest, obeyed.records⟩

theorem upholds_setResult {result : Ty}
    (gives : ∀ signature, keeping.Given signature → keeping.Given (signature.withResult result)) :
    keeping.Upholds watched (fun _ => True) (modifyScopes (·.setResult result)) := by
  intro state obeyed
  refine ⟨trivial, ?_, fun eye signature found => ?_, obeyed.records⟩
  · rw [ScopeStack.symbols_of_setResult]
    exact obeyed.symbols
  · cases nearest : state.scopes.signature? with
    | none =>
        rw [ScopeStack.signature?_setResult_of_none result nearest] at found
        contradiction
    | some before =>
        rw [ScopeStack.signature?_setResult result nearest, Option.some.injEq] at found
        rw [← found]
        exact gives before (obeyed.nearest eye before nearest)

theorem upholds_templateOr (missing : NameFault) (name : String) :
    keeping.Upholds watched (fun template => keeping.Bound name (.template template))
      (templateOr missing name) := by
  refine (upholds_lookup? .everywhere name).bind fun found bound => ?_
  split
  · exact upholds_pure (bound _ rfl)
  · exact upholds_fail _
  · exact upholds_fail _

theorem upholds_mentions (names : List String) :
    keeping.Upholds watched (fun _ => True)
      (names.forM fun name => discard (mentionedTemplate name)) :=
  upholds_forM names fun name _ => (upholds_templateOr _ name).discard

/-- A name of a type is found as the template that it is bound to. -/
theorem upholds_resolve {type : Ty} {found : Ty → Prop} (holds : found type)
    (templates : ∀ name template, keeping.Bound name (.template template) →
      found (.template template)) :
    keeping.Upholds watched found (resolve type) := by
  unfold resolve
  split
  · exact (upholds_templateOr _ _).bind fun template bound => upholds_pure (templates _ _ bound)
  · exact upholds_pure holds

theorem upholds_requireUnbound (name : String) :
    keeping.Upholds watched (fun _ => True) (requireUnbound name) := by
  refine upholds_scopes.bind fun stack _ => ?_
  cases stack.locate? .function name with
  | none => exact upholds_pure trivial
  | some found =>
      simp only
      split
      · exact upholds_fail _
      · exact upholds_fail _

theorem upholds_replaceFunction (name : String) (prepared : Signature) {resolved : Signature}
    (bound : keeping.Bound name (.function resolved)) :
    keeping.Upholds watched (fun _ => True) (replaceFunction name prepared resolved) := by
  unfold replaceFunction
  split
  · exact upholds_pure trivial
  · exact upholds_update name bound

theorem upholds_defineFound (name : String) {type : Option Ty}
    (bound : ∀ found ∈ type, keeping.Bound name found) :
    keeping.Upholds watched (fun _ => True) (defineFound name type) := by
  cases type with
  | none => exact upholds_pure trivial
  | some type => exact (upholds_define name (bound type rfl)).attempt.discard

theorem upholds_expectedResult : keeping.Upholds watched (fun _ => True) expectedResult := by
  refine upholds_scopes.bind fun stack _ => ?_
  split
  · exact upholds_pure trivial
  · exact upholds_fail _

theorem upholds_returnType (expected : Ty) {actual : Ty}
    (gives : ∀ signature, keeping.Given signature → keeping.Given (signature.withResult actual)) :
    keeping.Upholds watched (fun _ => True) (returnType expected actual) := by
  have given : keeping.Upholds watched (fun _ => True) (giveResult expected actual) := by
    unfold giveResult
    split
    · exact upholds_setResult gives
    · exact upholds_check _
  exact given.bind fun _ _ => upholds_setUnreachable

theorem upholds_leaveRound (outside : FlowFault) :
    keeping.Upholds watched (fun _ => True) (leaveRound outside) :=
  upholds_scopes.bind fun _ _ => (upholds_require _ _).bind fun _ _ => upholds_setUnreachable

theorem upholds_declareTemplate {template : Template}
    (bound : keeping.Bound template.name (.template template)) :
    keeping.Upholds watched (fun _ => True) (declareTemplate template) := by
  refine (upholds_lookup? _ _).bind fun _ _ => (upholds_require _ _).bind fun _ _ => ?_
  refine (upholds_define template.name bound).bind fun _ _ => upholds_forM _ fun entry _ => ?_
  exact (upholds_mentions _).bind fun _ _ => upholds_check _

theorem upholds_defineResolved {entries : List (String × Ty)}
    (bound : ∀ entry ∈ entries, keeping.Bound entry.1 entry.2) :
    keeping.Upholds watched (fun _ => True) (defineResolved entries) :=
  upholds_forM entries fun entry member =>
    (upholds_resolve (bound entry member) fun _ _ => keeping.bound_template).bind fun _ boundType =>
      upholds_define entry.1 boundType

theorem upholds_defineMembers {template : Option Template}
    (attributes : ∀ declared ∈ template, ∀ entry ∈ declared.attributes,
      keeping.Bound entry.1 entry.2)
    (methods : ∀ declared ∈ template, ∀ method ∈ declared.methods,
      keeping.Bound method.1 (.function method.2)) :
    keeping.Upholds watched (fun _ => True) (defineMembers template) := by
  cases template with
  | none => exact upholds_pure trivial
  | some declared =>
      refine (upholds_defineResolved (attributes declared rfl)).bind fun _ _ => ?_
      exact upholds_forM _ fun method member =>
        upholds_define method.1 (methods declared rfl method member)

/-- A rule that applies leaves the state alone. -/
theorem Ends.afterFollow {β γ : Type} {second : β → Prop} {result : Except TypeFault γ}
    {rest : γ → Checker β} (obeyed : keeping.Obeyed watched state)
    (next : ∀ value, result = .ok value → keeping.Ends watched second (rest value state)) :
    keeping.Ends watched second ((follow result >>= rest) state) := by
  refine (upholds_check result state obeyed).bind fun value after ran _ _ => ?_
  rcases ok_of_follow ran with ⟨same, rfl⟩
  exact next value same

theorem Ends.afterRequire {β : Type} {second : β → Prop} {holds : Bool} {cause : Cause}
    {rest : Unit → Checker β} (obeyed : keeping.Obeyed watched state)
    (next : keeping.Ends watched second (rest () state)) :
    keeping.Ends watched second ((require holds cause >>= rest) state) := by
  refine (upholds_require holds cause state obeyed).bind fun _ after ran _ _ => ?_
  rcases ok_of_require ran with ⟨_, rfl⟩
  exact next

/-- Names that stand for templates leave the state alone. -/
theorem Ends.afterMentions {β : Type} {second : β → Prop} {names : List String}
    {rest : Unit → Checker β} (obeyed : keeping.Obeyed watched state)
    (next : keeping.Ends watched second (rest () state)) :
    keeping.Ends watched second
      ((names.forM (fun name => Functor.discard (mentionedTemplate name)) >>= rest) state) := by
  refine (upholds_mentions names state obeyed).bind fun _ after ran _ _ => ?_
  cases (ok_of_mentions ran).1
  exact next

end Scopes

section Runs

theorem exit?_of_exit {scope : Scope} {outside : ScopeStack}
    (left : exit state = .ok scope { state with scopes := outside }) :
    state.scopes.exit? = some (scope, outside) := by
  rw [exit_apply] at left
  cases found : state.scopes.exit? with
  | none =>
      rw [found] at left
      contradiction
  | some place =>
      rw [found] at left
      simp only [EStateM.Result.ok.injEq, CheckState.mk.injEq, and_true] at left
      rw [← left.1, ← left.2]

variable {returns : Prop} {found : α → Prop}

/-- A statement is current while its action runs. -/
theorem Ends.atStmt {position : Position} {action : Checker Unit}
    (obeyed : keeping.Obeyed watched state)
    (ends : keeping.Ends watched (fun _ => True) (action (state.movedTo position))) :
    keeping.Ends watched (fun _ => True) (atStmt position action state) := by
  cases reachable : state.scopes.isReachable with
  | true =>
      rw [atStmt_apply reachable]
      refine ends.bind fun _ last _ _ obeyedLast => ?_
      exact ⟨trivial, obeyedLast.movedTo state.position⟩
  | false =>
      rw [atStmt_of_unreachable reachable]
      exact obeyed.movedTo position

theorem Ends.within {kind : ScopeKind} {body : Checker Unit}
    (plain : (Scope.empty kind).isFunction = false) (keeps : Keeps (ScopeStack.Kept returns) body)
    (ends : keeping.Ends watched (fun _ => True) (body (state.entered kind))) :
    keeping.Ends watched (fun _ => True) (within kind body state) := by
  have opened : Checker.within kind body state = (body >>= fun _ => exit) (state.entered kind) :=
    rfl
  rw [opened]
  refine ends.bind fun _ last ran _ obeyed => ?_
  have kept := (keeps.of_ok ran).2
  rcases exit_of_inside kept with ⟨outside, left, _⟩
  rw [left]
  have around := exit?_of_exit left
  refine ⟨trivial, fun symbol member => ?_, ?_, obeyed.records⟩
  · exact obeyed.symbols symbol (ScopeStack.mem_symbols_of_exit? around member)
  · have passed : last.scopes.inner.isFunction = false := kept.inner_isFunction.trans plain
    rw [← ScopeStack.signature?_of_exit? around passed]
    exact obeyed.nearest

/-- The scope of a function is entered with an eye on its signature. -/
theorem Ends.enterFunction {signature : Signature} {template : Option Template}
    (obeyed : keeping.Obeyed watched state) (given : keeping.Given signature)
    (binds : keeping.Upholds true (fun _ => True) (do
      defineMembers template
      defineResolved signature.params)) :
    keeping.Ends true (fun _ => True) (enterFunction signature template state) :=
  binds (state.entered (.function signature))
    ⟨obeyed.symbols, fun _ _ same => Option.some.inj same ▸ given, obeyed.records⟩

/-- After the body of a function, the scopes are those from before. -/
theorem Ends.inFunction {signature : Signature} {template : Option Template} {body : Checker Unit}
    {resolved : Signature → Prop} (obeyed : keeping.Obeyed watched state)
    (entering : keeping.Ends true (fun _ => True) (Checker.enterFunction signature template state))
    (keeps : Keeps (ScopeStack.Kept returns) body)
    (ends : ∀ inside, Checker.enterFunction signature template state = .ok () inside →
      keeping.Obeyed true inside → keeping.Ends true (fun _ => True) (body inside))
    (settles : ∀ given, keeping.Given given → resolved given.settled) :
    keeping.Ends watched resolved (inFunction signature template body state) := by
  cases ranEnter : Checker.enterFunction signature template state with
  | error diagnostic inside =>
      rw [ranEnter] at entering
      rw [Checker.inFunction, bind_of_error ranEnter]
      exact entering.of_watched
  | ok value inside =>
      rw [ranEnter] at entering
      have ended := ends inside ranEnter entering.2
      cases ranBody : body inside with
      | error diagnostic bodyEnd =>
          rw [ranBody] at ended
          rw [Checker.inFunction, bind_of_ok ranEnter, bind_of_error ranBody]
          exact ended.of_watched
      | ok value bodyEnd =>
          rw [ranBody] at ended
          rcases exit_of_inFunction keeps ranEnter ranBody with ⟨_, given, _, nearest⟩
          rw [inFunction_apply keeps ranEnter ranBody nearest]
          refine ⟨settles given (ended.2.nearest rfl given nearest), ?_⟩
          exact ⟨obeyed.symbols, obeyed.nearest, ended.2.records⟩

/-- A search leaves nothing behind but what it finds. -/
theorem Ends.inferResult {signature : Signature} {template : Option Template}
    {firstReturn : Option (Option Expr)} {search : Checker (Option Ty)}
    {prepared : Signature → Prop} {type : Ty → Prop} (obeyed : keeping.Obeyed watched state)
    (entering : keeping.Ends true (fun _ => True) (Checker.enterFunction signature template state))
    (ends : ∀ inside, signature.result.isInfer = true → firstReturn.any (·.isSome) = true →
      Checker.enterFunction signature template state = .ok () inside →
      keeping.Obeyed false inside →
      keeping.Ends false (fun result => ∀ found ∈ result, type found) (search inside))
    (declared : prepared signature) (void : prepared (signature.withResult .void))
    (finds : ∀ result : Option Ty, (∀ found ∈ result, type found) →
      prepared (signature.withFound result)) :
    keeping.Ends watched prepared (inferResult signature template firstReturn search state) := by
  unfold Checker.inferResult
  split
  · exact ⟨declared, obeyed⟩
  · rename_i isOpen
    split
    · exact ⟨void, obeyed⟩
    · rename_i returns
      rw [bind_of_ok (tentatively_apply _ state)]
      refine ⟨finds _ fun result found => ?_, obeyed⟩
      cases ranEnter : Checker.enterFunction signature template state with
      | error diagnostic inside => simp [bind_of_error ranEnter] at found
      | ok value inside =>
          rw [ranEnter] at entering
          have ended := ends inside (by simpa using isOpen) (by simpa using returns) ranEnter
            entering.2.unwatched
          rw [bind_of_ok ranEnter] at found
          cases ranSearch : search inside with
          | error diagnostic searched => simp [ranSearch] at found
          | ok value searched =>
              rw [ranSearch] at ended found
              exact ended.1 result found

theorem Ends.searchBlock {bound : Option (String × Ty)} {search : Checker (Option Ty)}
    {result : Option Ty → Prop} (obeyed : keeping.Obeyed false state)
    (binds : ∀ entry ∈ bound, keeping.Bound entry.1 entry.2)
    (ends : ∀ inside, defineBound bound (state.entered .block) = .ok () inside →
      keeping.Obeyed false inside → keeping.Ends false result (search inside)) :
    keeping.Ends false result (searchBlock bound search state) := by
  have opened : Checker.searchBlock bound search state =
      (defineBound bound >>= fun _ => search >>= fun found => exit >>= fun _ => pure found)
        (state.entered .block) := rfl
  have defines : keeping.Upholds false (fun _ => True) (defineBound bound) := by
    cases bound with
    | none => exact upholds_pure trivial
    | some entry => exact upholds_define entry.1 (binds entry rfl)
  have exits : keeping.Upholds false (fun _ => True) exit := by
    intro last obeyedLast
    rw [exit_apply]
    cases left : last.scopes.exit? with
    | none => exact obeyedLast
    | some found =>
        refine ⟨trivial, fun symbol member => ?_, nofun, obeyedLast.records⟩
        exact obeyedLast.symbols symbol (ScopeStack.mem_symbols_of_exit? left member)
  rw [opened]
  refine (defines _ (obeyed.entered rfl)).bind fun _ inside ran _ obeyedInside => ?_
  refine (ends inside ran obeyedInside).bind fun found last _ holds obeyedLast => ?_
  exact (exits last obeyedLast).bind fun _ _ _ _ obeyedEnd => ⟨holds, obeyedEnd⟩

end Runs

end Keeping

end ScriptCheck
