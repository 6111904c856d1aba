import ScriptCheck.Proofs.Grammar.MarkedForms
import ScriptCheck.Proofs.Typing.Copies

/-!
# Signatures that are bound and recorded

A call sees the signature that is bound to a name, and the analysis keeps the one that is recorded
under the number of the function. While a declaration is checked the bound one is written up to
three times: as it stands in the code, when the function has been prepared, and when its body has
been checked. In the end it is the recorded one, and it is complete.

The methods of a template are recorded one by one, and the bodies that are checked later record
functions as well. `Completed` is the invariant that the methods so far are bound as they are
recorded. It is kept as long as nothing else is recorded under their numbers, which holds in every
program that is parsed, for functions are numbered in turn.
-/

namespace ScriptCheck

open Checker

section Numbers

variable {methods : List FnDecl}

theorem Part.numbered_of_functionIds {part : Part} {id : Nat} (among : id ∈ part.functionIds) :
    .function id ∈ part.numbered := by
  cases part with
  | stmt stmt =>
      cases stmt with
      | fnDecl declaration =>
          rw [List.mem_singleton.mp among]
          exact declaration.numbered_self
      | templateDecl position name attributes methods =>
          rcases List.mem_map.mp among with ⟨method, member, rfl⟩
          rw [Part.numbered, Stmt.numbered, numberedInMethods_eq]
          exact List.mem_flatMap.mpr ⟨method, member, method.numbered_self⟩
      | _ => exact absurd among List.not_mem_nil
  | _ => exact absurd among List.not_mem_nil

/-- Nothing that is declared in the body of one function has the number of the other one. -/
def FnDecl.Separate (first second : FnDecl) : Prop :=
  (∀ entry ∈ first.body.numbered, entry.id ≠ second.id) ∧
    ∀ entry ∈ second.body.numbered, entry.id ≠ first.id

instance : Std.Symm FnDecl.Separate :=
  ⟨fun _ _ => And.symm⟩

theorem InTurn.separate (inTurn : InTurn methods) :
    ∀ first ∈ methods, ∀ second ∈ methods, first.Separate second := by
  refine List.Pairwise.forall_of_forall (fun method among => ?_) ?_
  · have own (entry : Numbered) (inside : entry ∈ method.body.numbered) :=
      Nat.ne_of_lt (inTurn.behind method among entry inside)
    exact ⟨own, own⟩
  · refine inTurn.apart.imp_of_mem fun {first second} among _ apart => ⟨?_, ?_⟩
    · intro entry inside
      have behind := inTurn.behind first among entry inside
      exact Nat.ne_of_lt (behind.trans (apart _ second.numbered_self))
    · intro entry inside
      refine (Nat.ne_of_lt (apart entry ?_)).symm
      rw [FnDecl.numbered_eq]
      exact List.mem_append_left _ inside

theorem InTurn.distinctMethods (inTurn : InTurn methods) : DistinctMethods methods where
  nodup := List.pairwise_map.mpr
    (inTurn.apart.imp fun {_ second} apart => Nat.ne_of_lt (apart _ second.numbered_self))
  inside := by
    intro method among stmt member inner inside id declared isMethod
    rcases List.mem_map.mp isMethod with ⟨other, amongOther, rfl⟩
    have inStmt := (Part.numbered_of_inside inside).subset (Part.numbered_of_functionIds declared)
    have inBody := (Block.numbered_of_mem member).subset inStmt
    exact (inTurn.separate method among other amongOther).1 _ inBody rfl

/-- In a program that is parsed, the methods of each template have numbers of their own. -/
theorem distinctMethods_of_parse {tokens : List Token} {file : String} {program : Program}
    {afterTokens : ParserState} {position : Position} {name : String}
    {attributes : List (String × Ty)}
    (parsed : Parser.parse tokens file = .ok program afterTokens)
    (contains : program.Contains (.stmt (.templateDecl position name attributes methods))) :
    DistinctMethods methods :=
  (Parser.regular_of_parse parsed contains).inTurn.distinctMethods

end Numbers

section Checking

variable {written current : Template} {methods : List FnDecl} {index : Nat}
variable {state after : CheckState} {base : ScopeStack}

/-- Types may mention anything, and the signatures of the first methods stay recorded. -/
def recordLimits (methods : List FnDecl) (count : Nat) (current : Template) : Limits where
  mentions _ := True
  records := Recorded methods count current

/-- The body of a method leaves alone what has been recorded of the methods. -/
theorem Recorded.of_checkFunction {signature resolved : Signature} {template : Option Template}
    {method : FnDecl} (recorded : Recorded methods index current state.analysis)
    (distinct : DistinctMethods methods) (among : method ∈ methods)
    (ran : checkFunction signature template method.body state = .ok resolved after) :
    Recorded methods index current after.analysis := by
  have admitted (stmt : Stmt) (member : stmt ∈ method.body.body) :
      (recordLimits methods index current).Admitted (.stmt stmt) :=
    fun inner inside => admits_of_otherIds (distinct.inside method among stmt member inner inside)
      (fun _ _ _ _ => trivial) (fun _ _ _ _ _ _ _ => trivial)
  have obeyed : (recordLimits methods index current).Obeyed false state :=
    ⟨fun _ _ _ _ => trivial, nofun, recorded⟩
  have within : signature.Within (recordLimits methods index current).mentions :=
    fun _ _ => trivial
  exact ((Limits.upholds_inFunction within (fun _ _ _ _ => trivial) (keeps_checkBody method.body)
    (Limits.upholds_checkBody method.body admitted)).of_ok obeyed ran).2.records

/-- While the methods of a template are checked, the template is bound last, and the methods that
have been checked have their final signatures in it, which are recorded. -/
structure Completed (base : ScopeStack) (written current : Template) (methods : List FnDecl)
    (count : Nat) (state : CheckState) : Prop where
  scopes : state.scopes = base.bound written.name (.template current)
  version : written.Version current
  known : ∀ index < count, ∀ method ∈ current.methods[index]?, method.2.result.isInfer = false
  records : Recorded methods count current state.analysis

/-- One more method is checked. -/
theorem Completed.step {method : FnDecl} {resolved : Signature}
    (completed : Completed base written current methods index state)
    (distinct : DistinctMethods methods) (unbound : base.inner.binds written.name = false)
    (here : methods[index]? = some method)
    (ran : checkFunction (current.preparedMethod index method) (some current) method.body state =
      .ok resolved after) :
    Completed base written (current.setMethod index resolved) methods (index + 1)
      ((after.updated current.name (.template (current.setMethod index resolved))).recorded
        method.id resolved) where
  scopes := by
    have sameScopes := ((keeps_inFunction _ (some current)
      (keeps_checkBody method.body)).of_ok ran).2
    show after.scopes.update _ _ = _
    rw [← sameScopes, completed.scopes, completed.version.name, ScopeStack.update_bound unbound]
  version :=
    completed.version.setMethod (Template.settles_of_prepared (settles_of_checkFunction ran))
  known place inside found isFound := by
    rw [getElem?_setMethod] at isFound
    by_cases same : index = place
    · rw [if_pos same] at isFound
      rcases Option.map_eq_some_iff.mp isFound with ⟨_, _, rfl⟩
      exact isInfer_of_checkFunction ran
    · rw [if_neg same] at isFound
      exact completed.known place (by omega) found isFound
  records := by
    have recorded : Recorded methods index current after.analysis :=
      completed.records.of_checkFunction distinct (List.mem_of_getElem? here) ran
    exact recorded_of_addFunction distinct.nodup here recorded

/-- The methods from an index on are checked: in the end all of them are complete. -/
theorem completed_of_checkMethods {rest : List FnDecl}
    (completed : Completed base written current methods index state)
    (distinct : DistinctMethods methods) (unbound : base.inner.binds written.name = false)
    (suffix : rest = methods.drop index)
    (ran : checkMethods current index rest state = .ok () after) :
    ∃ final, Completed base written final methods methods.length after := by
  induction rest generalizing current index state with
  | nil =>
      rw [checkMethods, pure_apply, EStateM.Result.ok.injEq] at ran
      rcases ran with ⟨_, rfl⟩
      have complete : methods.length ≤ index := List.drop_eq_nil_iff.mp suffix.symm
      refine ⟨current, completed.scopes, completed.version, fun place inside => ?_,
        fun place inside => ?_⟩
      · exact completed.known place (by omega)
      · exact completed.records place (by omega)
  | cons method rest ih =>
      rcases ok_of_checkMethods_cons ran with ⟨resolved, checked, ranBody, ranRest⟩
      rcases first_of_eq_drop suffix with ⟨here, suffixRest⟩
      exact ih (completed.step distinct unbound here ranBody) suffixRest ranRest

theorem completed_of_templateDecl {position : Position} {name : String}
    {attributes : List (String × Ty)} (distinct : DistinctMethods methods)
    (ran : checkStmt (.templateDecl position name attributes methods) state = .ok () after) :
    ∃ final, Completed state.scopes (declaredTemplate name attributes methods) final methods
      methods.length after := by
  rcases ok_of_checkStmt_templateDecl ran with
    ⟨declared, prepared, ready, last, ranDeclare, ranPrepare, ranMethods, rfl⟩
  rcases ok_of_declareTemplate ranDeclare with ⟨_, defined, _⟩
  rcases scopes_of_define defined with ⟨unbound, bound⟩
  rcases scopes_of_prepareMethods unbound bound ranPrepare with ⟨_, _, boundReady⟩
  have version := Template.Version.of_prepareMethods (.refl _)
    (declares_declaredTemplate name attributes methods) ranPrepare
  have begun : Completed state.scopes (declaredTemplate name attributes methods) prepared methods 0
      ready :=
    ⟨boundReady, version, fun _ impossible => absurd impossible (Nat.not_lt_zero _),
      fun _ impossible => absurd impossible (Nat.not_lt_zero _)⟩
  rcases completed_of_checkMethods begun distinct unbound rfl ranMethods with ⟨final, completed⟩
  exact ⟨final, completed.scopes, completed.version, completed.known, completed.records⟩

/-- The template that is bound in the end has the methods that are declared, in the same order, with
the signatures that are recorded. -/
theorem bound_of_templateDecl {position : Position} {name : String}
    {attributes : List (String × Ty)} (distinct : DistinctMethods methods)
    (ran : checkStmt (.templateDecl position name attributes methods) state = .ok () after) :
    ∃ final : Template, after.scopes = state.scopes.bound name (.template final) ∧
      final.name = name ∧ final.attributes = attributes ∧
      final.methods.length = methods.length ∧
      ∀ (index : Nat) (method : FnDecl), methods[index]? = some method → ∃ resolved,
        final.methods[index]? = some (method.name, resolved) ∧
        after.analysis.signatures.get? method.id = some resolved ∧
        method.signature.Completes resolved := by
  rcases completed_of_templateDecl distinct ran with ⟨final, completed⟩
  have version := completed.version
  refine ⟨final, completed.scopes, version.name, version.attributes, ?_, ?_⟩
  · rw [version.length_eq, declaredTemplate, List.length_map]
  · intro index method found
    have related := version.methods index
    rw [declaredTemplate, List.getElem?_map, found] at related
    generalize current : final.methods[index]? = entry at related
    cases related with
    | @some _ entry related =>
        rcases entry with ⟨other, resolved⟩
        have inside : index < methods.length := (List.getElem?_eq_some_iff.mp found).1
        refine ⟨resolved, by rw [show method.name = other from related.1], ?_, ?_⟩
        · exact completed.records index inside method found _ current
        · exact related.2.completes (completed.known index inside _ current)

end Checking

theorem ScopeStack.inner_lookup?_bound (stack : ScopeStack) (name : String) (type : Ty) :
    (stack.bound name type).inner.lookup? name = some type := by
  simp [ScopeStack.bound, Scope.bind, Scope.lookup?]

/-- Callers see what is recorded. When the declaration of a function has been accepted, the
innermost scope binds its name to the signature that is recorded under its number. When that of a
template has been accepted in a program that is parsed, the innermost scope binds its name to a
template with the declared methods, in their order, each with the signature that is recorded under
its number. Each of these signatures has the declared parameters and the declared result, and where
that is open its result has been found. -/
theorem signatures_bound_as_recorded (state after : CheckState) :
    (∀ declaration : FnDecl, checkStmt (.fnDecl declaration) state = .ok () after →
      ∃ resolved, after.scopes.inner.lookup? declaration.name = some (.function resolved) ∧
        after.analysis.signatures.get? declaration.id = some resolved ∧
        declaration.signature.Completes resolved) ∧
    ∀ (tokens : List Token) (file : String) (program : Program) (afterTokens : ParserState)
      (position : Position) (name : String) (attributes : List (String × Ty))
      (methods : List FnDecl),
      Parser.parse tokens file = .ok program afterTokens →
      program.Contains (.stmt (.templateDecl position name attributes methods)) →
      checkStmt (.templateDecl position name attributes methods) state = .ok () after →
      ∃ final : Template, after.scopes.inner.lookup? name = some (.template final) ∧
        final.name = name ∧ final.attributes = attributes ∧
        final.methods.length = methods.length ∧
        ∀ (index : Nat) (method : FnDecl), methods[index]? = some method → ∃ resolved,
          final.methods[index]? = some (method.name, resolved) ∧
          after.analysis.signatures.get? method.id = some resolved ∧
          method.signature.Completes resolved := by
  constructor
  · intro declaration ran
    rcases ok_of_checkStmt_fnDecl ran with ⟨last, ranDecl, rfl⟩
    rcases bound_of_checkFnDecl ranDecl with ⟨resolved, bound, recorded, completes⟩
    refine ⟨resolved, ?_, recorded, completes⟩
    show last.scopes.inner.lookup? declaration.name = _
    rw [bound, ScopeStack.inner_lookup?_bound]
  · intro tokens file program afterTokens position name attributes methods parsed contains ran
    have distinct := distinctMethods_of_parse parsed contains
    rcases bound_of_templateDecl distinct ran with ⟨final, bound, found⟩
    exact ⟨final, by rw [bound, ScopeStack.inner_lookup?_bound], found⟩

/-- A template with a method whose result is open and one whose result is declared. -/
def counterTokens : List Token :=
  [placeless .templateWord "template", placeless .identifier "N", placeless .assignment "=",
    placeless .openCurly "\x7b", placeless .intWord "int", placeless .identifier "v",
    placeless .semicolon ";", placeless .funcWord "func", placeless .identifier "a",
    placeless .returnArrow "->", placeless .inferWord "infer", placeless .assignment "=",
    placeless .openBracket "[", placeless .closeBracket "]", placeless .arrow ">>",
    placeless .openCurly "\x7b", placeless .returnWord "return", placeless .identifier "v",
    placeless .semicolon ";", placeless .closeCurly "\x7d", placeless .funcWord "func",
    placeless .identifier "b", placeless .returnArrow "->", placeless .intWord "int",
    placeless .assignment "=", placeless .openBracket "[", placeless .intWord "int",
    placeless .identifier "n", placeless .closeBracket "]", placeless .arrow ">>",
    placeless .openCurly "\x7b", placeless .returnWord "return", placeless .identifier "n",
    placeless .semicolon ";", placeless .closeCurly "\x7d", placeless .closeCurly "\x7d",
    placeless .semicolon ";"]

def counterMethods : List FnDecl :=
  [⟨Position.unknown, 1024, "a", { result := .infer, params := [] },
      ⟨Position.unknown, [.returning Position.unknown (some (.identifier "v"))]⟩⟩,
    ⟨Position.unknown, 1025, "b", { result := .int, params := [("n", .int)] },
      ⟨Position.unknown, [.returning Position.unknown (some (.identifier "n"))]⟩⟩]

def counterTemplate : Stmt :=
  .templateDecl Position.unknown "N" [("v", .int)] counterMethods

def counterFinal : Template where
  name := "N"
  attributes := [("v", .int)]
  methods := [("a", { result := .int, params := [] }),
    ("b", { result := .int, params := [("n", .int)] })]

/-- The state after this template has been declared. -/
def counterState : CheckState where
  scopes := ScopeStack.initial.bound "N" (.template counterFinal)
  analysis :=
    { types := [],
      signatures := [(1024, { result := .int, params := [] }),
        (1025, { result := .int, params := [("n", .int)] })] }
  position := Position.unknown

/-- A function whose result is open. -/
def sameNumber : FnDecl :=
  ⟨Position.unknown, 1024, "same", { result := .infer, params := [("n", .int)] },
    ⟨Position.unknown, [.returning Position.unknown (some (.identifier "n"))]⟩⟩

def sameNumberState : CheckState where
  scopes := ScopeStack.initial.bound "same" (.function { result := .int, params := [("n", .int)] })
  analysis := { types := [], signatures := [(1024, { result := .int, params := [("n", .int)] })] }
  position := Position.unknown

theorem counter_signatures_bound_as_recorded :
    Parser.parse counterTokens "shell" = .ok ⟨[counterTemplate]⟩ (placelessEnd 1026) ∧
    (checkStmt (.fnDecl sameNumber) CheckState.initial = .ok () sameNumberState ∧
      ∃ resolved, sameNumberState.scopes.inner.lookup? "same" = some (.function resolved) ∧
        sameNumberState.analysis.signatures.get? 1024 = some resolved ∧
        sameNumber.signature.Completes resolved) ∧
    checkStmt counterTemplate CheckState.initial = .ok () counterState ∧
      ∃ final : Template, counterState.scopes.inner.lookup? "N" = some (.template final) ∧
        final.name = "N" ∧ final.attributes = [("v", .int)] ∧ final.methods.length = 2 ∧
        ∀ (index : Nat) (method : FnDecl), counterMethods[index]? = some method → ∃ resolved,
          final.methods[index]? = some (method.name, resolved) ∧
          counterState.analysis.signatures.get? method.id = some resolved ∧
          method.signature.Completes resolved := by
  have parsed :
      Parser.parse counterTokens "shell" = .ok ⟨[counterTemplate]⟩ (placelessEnd 1026) := by
    cbv
  have contains : Program.Contains ⟨[counterTemplate]⟩ (.stmt counterTemplate) :=
    ⟨counterTemplate, List.mem_cons_self, .refl⟩
  have ran : checkStmt (.fnDecl sameNumber) CheckState.initial = .ok () sameNumberState := by cbv
  have ranTemplate : checkStmt counterTemplate CheckState.initial = .ok () counterState := by cbv
  refine ⟨parsed, ⟨ran, (signatures_bound_as_recorded _ _).1 sameNumber ran⟩, ranTemplate, ?_⟩
  exact (signatures_bound_as_recorded _ _).2 _ _ _ _ _ _ _ _ parsed contains ranTemplate

end ScriptCheck
