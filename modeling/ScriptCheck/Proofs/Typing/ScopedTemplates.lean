import ScriptCheck.Proofs.Typing.Accounting

/-!
# Templates stay in their scopes

At every visit of an accepted program, the types in scope are accounted for by the declarations in
scope, each by those that are no later than its name. The names of these declarations are distinct,
since a template is not declared again where its name is in use, so a mention has one of them as its
origin.

The induction is along the visits. A statement that has been checked is followed by its own visits:
the type that it finds is accounted for at the visit where it is found, and what gets loose there
stays loose behind the statement. The methods of a template are followed from visit to visit in the
same way.
-/

namespace ScriptCheck

open Checker

/-- The names in scope are accounted for, by distinct templates that the program declares. -/
structure Program.AccountsScope (program : Program) (loose : Mention → Prop)
    (binders : List (String × Binder)) (symbols : List (String × Ty)) : Prop where
  types : AccountsAll loose binders symbols
  distinct : ((declarations binders symbols).map (·.1)).Nodup
  declared : ∀ declaration ∈ declarations binders symbols, program.Declares declaration

/-- The signatures and templates of a part are accounted for as well, and the template whose methods
are prepared or checked is the one that is bound last. -/
def Part.Accounted (program : Program) (loose : Mention → Prop) (scope : List Declaration)
    (symbols : List (String × Ty)) : Part → Prop
  | .function signature template _ =>
    signature.Within (Accounts loose scope) ∧
      ∀ declared ∈ template, declared.Within (Accounts loose scope)
  | .signatures template _ list | .methods template _ list =>
    symbols.head? = some (template.name, .template template) ∧
      ∀ method ∈ list, program.AccountsFunction loose scope method.signature method.body
  | _ => True

/-- What is in scope at a visit is accounted for. -/
structure Visit.Accounted (program : Program) (loose : Mention → Prop) (visit : Visit) :
    Prop where
  scope : program.AccountsScope loose visit.binders visit.state.scopes.symbols
  part : visit.part.Accounted program loose visit.declared visit.state.scopes.symbols

section Lists

variable {program : Program} {loose more : Mention → Prop} {binders added : List (String × Binder)}
variable {symbols addedSymbols : List (String × Ty)} {template updated : Template}

theorem declarations_append_of_plain (plain : ∀ name, (name, .template) ∉ added)
    (sameLength : added.length = addedSymbols.length) :
    declarations (added ++ binders) (addedSymbols ++ symbols) = declarations binders symbols := by
  rw [declarations_append sameLength, declarations_of_notMem plain, List.nil_append]

namespace Program.AccountsScope

theorem loosen (accounts : program.AccountsScope loose binders symbols)
    (looser : ∀ mention, loose mention → more mention) :
    program.AccountsScope more binders symbols :=
  ⟨accounts.types.loosen looser, accounts.distinct, accounts.declared⟩

/-- Names that no template declaration binds may be added. -/
theorem append (accounts : program.AccountsScope loose binders symbols)
    (plain : ∀ name, (name, .template) ∉ added) (sameLength : added.length = addedSymbols.length)
    (within : ∀ symbol ∈ addedSymbols,
      symbol.2.Within (Accounts loose (declarations binders symbols))) :
    program.AccountsScope loose (added ++ binders) (addedSymbols ++ symbols) where
  types := accounts.types.append sameLength within
  distinct := by
    rw [declarations_append_of_plain plain sameLength]
    exact accounts.distinct
  declared := by
    rw [declarations_append_of_plain plain sameLength]
    exact accounts.declared

/-- A template may be declared where its name is not in use. -/
theorem declaring (accounts : program.AccountsScope loose binders symbols)
    (stand : List.Forall₂ Stands binders symbols) (unused : symbols.lookup template.name = none)
    (declares : program.Declares (template.name, template.attributes))
    (within : template.Within (Accounts loose
      ((template.name, template.attributes) :: declarations binders symbols))) :
    program.AccountsScope loose ((template.name, .template) :: binders)
      ((template.name, .template template) :: symbols) where
  types := ⟨within_template_of_declared List.mem_cons_self within, accounts.types⟩
  distinct := by
    refine List.nodup_cons.mpr ⟨fun member => ?_, accounts.distinct⟩
    rcases List.mem_map.mp member with ⟨declaration, found, same⟩
    rcases (name_mem_of_mem_declarations stand found).2 with ⟨other, isBound, _⟩
    have missing := List.lookup_eq_none_iff.mp unused _ isBound
    simp [same] at missing
  declared := List.forall_mem_cons.mpr ⟨declares, accounts.declared⟩

/-- The last template may get other signatures for its methods. -/
theorem retyped {name : String}
    (accounts : program.AccountsScope loose ((name, .template) :: binders)
      ((name, .template template) :: symbols))
    (sameName : updated.name = template.name)
    (sameAttributes : updated.attributes = template.attributes)
    (within : updated.Within (Accounts loose
      ((template.name, template.attributes) :: declarations binders symbols))) :
    program.AccountsScope loose ((name, .template) :: binders)
      ((name, .template updated) :: symbols) := by
  rw [← sameName, ← sameAttributes] at within
  have same : declarations ((name, .template) :: binders) ((name, .template updated) :: symbols) =
      declarations ((name, .template) :: binders) ((name, .template template) :: symbols) := by
    rw [declarations_cons, declarations_cons]
    simp only [Binder.declaration?, sameName, sameAttributes]
  refine ⟨⟨within_template_of_declared List.mem_cons_self within, accounts.types.2⟩, ?_, ?_⟩
  · rw [same]
    exact accounts.distinct
  · rw [same]
    exact accounts.declared

end Program.AccountsScope

end Lists

section Parts

variable {program : Program} {analysis : Analysis} {loose : Mention → Prop}
variable {state after : CheckState} {binders : List (String × Binder)}

namespace Program

theorem AccountsScope.obeyed (accounts : program.AccountsScope loose binders state.scopes.symbols)
    (stand : List.Forall₂ Stands binders state.scopes.symbols) :
    (accountLimits loose (declarations binders state.scopes.symbols)).Obeyed false state :=
  obeyed_of_symbols fun _ member => accounts.types.within stand member

theorem bound_of_visits {part : Part} (visits : program.Visits ⟨part, state, binders⟩)
    (name : String) (member : (name, .template) ∈ binders) :
    ∃ declaration ∈ declarations binders state.scopes.symbols, declaration.1 = name :=
  mem_declarations_of_name_mem (Visit.linked_of_visits visits).stand member

/-- A written type is accounted for where it is read. -/
theorem within_of_type (accepted : program.check = .ok analysis) (plain : program.WritesNoCopies)
    {written : Ty} (visits : program.Visits ⟨.type written, state, binders⟩)
    (absorbs : program.Absorbs loose ⟨.type written, state, binders⟩) :
    written.Within (Accounts loose (declarations binders state.scopes.symbols)) :=
  within_of_finds absorbs (.written rfl) (admitted_of_visits accepted plain visits
    (bound_of_visits visits) (Part.includes_root List.mem_cons_self)).self

/-- The type of an expression is accounted for where the expression is checked. -/
theorem within_of_expr (accepted : program.check = .ok analysis) (plain : program.WritesNoCopies)
    {expr : Expr} {type : Ty} (visits : program.Visits ⟨.expr expr, state, binders⟩)
    (absorbs : program.Absorbs loose ⟨.expr expr, state, binders⟩)
    (accounts : program.AccountsScope loose binders state.scopes.symbols)
    (ran : checkExpr expr state = .ok type after) :
    type.Within (Accounts loose (declarations binders state.scopes.symbols)) := by
  have stand := (Visit.linked_of_visits visits).stand
  have obeyed := obeyed_loosen (accounts.obeyed stand) fun mention isLoose =>
    (.inl isLoose : program.Straying loose [.expr expr] mention)
  have admitted : (accountLimits (program.Straying loose [.expr expr])
      (declarations binders state.scopes.symbols)).Admitted (.expr expr) :=
    admitted_of_visits accepted plain visits (bound_of_visits visits)
      (Part.includes_root List.mem_cons_self)
  exact within_of_finds absorbs (.typed rfl ran)
    ((Limits.upholds_checkExpr expr admitted).of_ok obeyed ran).1

/-- The statements in the body of a function keep to the declarations in scope, up to what strays
from the body. -/
theorem admitted_of_function (accepted : program.check = .ok analysis)
    (plain : program.WritesNoCopies) {signature : Signature} {template : Option Template}
    {body : Block} {scope : List Declaration}
    (visits : program.Visits ⟨.function signature template body, state, binders⟩)
    (bound : ∀ name, (name, .template) ∈ binders → ∃ declaration ∈ scope, declaration.1 = name)
    (known : Mention → Prop) (stmt : Stmt) (member : stmt ∈ body.body) :
    (accountLimits (program.Straying known (body.body.map .stmt)) scope).Admitted (.stmt stmt) :=
  admitted_of_visits accepted plain visits bound (Part.includes_root (List.mem_map_of_mem member))

/-- The checked signature of a function is accounted for where the function is checked. -/
theorem within_of_function (accepted : program.check = .ok analysis)
    (plain : program.WritesNoCopies) {signature resolved : Signature} {template : Option Template}
    {body : Block} (visits : program.Visits ⟨.function signature template body, state, binders⟩)
    (absorbs : program.Absorbs loose ⟨.function signature template body, state, binders⟩)
    (accounted : Visit.Accounted program loose ⟨.function signature template body, state, binders⟩)
    (ran : checkFunction signature template body state = .ok resolved after) :
    resolved.Within (Accounts loose (declarations binders state.scopes.symbols)) := by
  have stand := (Visit.linked_of_visits visits).stand
  have within := within_of_checkFunction
    (admitted_of_function accepted plain visits (bound_of_visits visits) loose)
    accounted.part.1 accounted.part.2 (accounted.scope.obeyed stand) ran
  exact (Ty.within_function resolved).mp (within_of_finds absorbs (.checked rfl ran)
    ((Ty.within_function resolved).mpr within))

theorem accountsFunction_of_literal (accepted : program.check = .ok analysis)
    (plain : program.WritesNoCopies) {params : List (String × Ty)} {body : Block}
    (visits : program.Visits ⟨.expr (.function params body), state, binders⟩)
    (absorbs : program.Absorbs loose ⟨.expr (.function params body), state, binders⟩) :
    program.AccountsFunction loose (declarations binders state.scopes.symbols)
      { result := .infer, params } body := by
  constructor
  · have leads := Visit.Leads.literalType params body state binders
    exact (Ty.within_function _).mp
      (within_of_type accepted plain (visits.tail leads) (absorbs.from leads (by simp)))
  · rcases inferResult_apply { result := .infer, params } none body.firstReturn? (searchBody body)
      state with ⟨_, prepares⟩
    exact admitted_of_function accepted plain (visits.tail (.literal binders prepares))
      (bound_of_visits visits)

theorem accountsFunction_of_fnDecl (accepted : program.check = .ok analysis)
    (plain : program.WritesNoCopies) {declaration : FnDecl}
    (visits : program.Visits ⟨.stmt (.fnDecl declaration), state, binders⟩)
    (absorbs : program.Absorbs loose ⟨.stmt (.fnDecl declaration), state, binders⟩) :
    program.AccountsFunction loose (declarations binders state.scopes.symbols)
      declaration.signature declaration.body := by
  constructor
  · have leads := Visit.Leads.functionType declaration state binders
    have within := within_of_type accepted plain (visits.tail leads) (absorbs.from leads (by simp))
    exact (Ty.within_function _).mp within
  · rcases Visit.Reaches.accepted visits (start_accepted accepted) with ⟨last, ran⟩
    rcases ok_of_checkStmt_fnDecl ran with ⟨_, ranDecl, _⟩
    rcases ok_of_checkFnDecl ranDecl with ⟨_, _, _, _, _, _, defined, prepares, _⟩
    refine admitted_of_function accepted plain (visits.tail (.function binders defined prepares))
      fun name member => bound_of_visits visits name ?_
    exact (List.mem_cons.mp member).resolve_left fun same =>
      template_notMem_singleton declaration.name Binder.noConfusion (List.mem_singleton.mpr same)

/-- The template whose methods are prepared is the last declaration in scope. -/
theorem declarations_of_bound {base : ScopeStack} (template : Template)
    (binders : List (String × Binder))
    (bound : state.scopes = base.bound template.name (.template template)) :
    declarations ((template.name, .template) :: binders) state.scopes.symbols =
      (template.name, template.attributes) :: declarations binders base.symbols := by
  rw [bound, ScopeStack.symbols_bound]
  rfl

/-- The signatures of the methods of a template are accounted for as they are written. -/
theorem within_of_signatures (accepted : program.check = .ok analysis)
    (plain : program.WritesNoCopies) {base : ScopeStack} {template : Template} {index : Nat}
    {methods : List FnDecl}
    (visits : program.Visits ⟨.signatures template index methods, state,
      (template.name, .template) :: binders⟩)
    (absorbs : program.Absorbs loose ⟨.signatures template index methods, state,
      (template.name, .template) :: binders⟩)
    (unbound : base.inner.binds template.name = false)
    (bound : state.scopes = base.bound template.name (.template template)) :
    ∀ method ∈ methods, method.signature.Within
      (Accounts loose ((template.name, template.attributes) :: declarations binders base.symbols))
    := by
  induction methods generalizing template index state with
  | nil => exact fun _ member => nomatch member
  | cons method rest ih =>
      refine List.forall_mem_cons.mpr ⟨?_, ?_⟩
      · have leads := Visit.Leads.methodType template index method rest state
          ((template.name, .template) :: binders)
        rw [← declarations_of_bound template binders bound]
        exact (Ty.within_function _).mp
          (within_of_type accepted plain (visits.tail leads) (absorbs.from leads (by simp)))
      · rcases Visit.Reaches.accepted visits (start_accepted accepted) with ⟨last, ran⟩
        rcases ok_of_discard ran with ⟨prepared, ranPrepare⟩
        rcases ok_of_prepareMethods_cons ranPrepare with ⟨signature, _, prepares, _⟩
        have leads : Visit.Leads ⟨.signatures template index (method :: rest), state,
            (template.name, .template) :: binders⟩ _ := .laterSignatures rest _ prepares
        have later := @ih _ (template.setMethod index signature) (index + 1) (visits.tail leads)
          (absorbs.from leads (by simp)) unbound
        refine later ?_
        show state.scopes.update template.name _ = _
        rw [bound, ScopeStack.update_bound unbound]
        rfl

/-- The attributes of a template and its methods are accounted for together with the template. -/
theorem accountsTemplate_of_templateDecl (accepted : program.check = .ok analysis)
    (plain : program.WritesNoCopies) {position : Position} {name : String}
    {attributes : List (String × Ty)} {methods : List FnDecl}
    (visits : program.Visits ⟨.stmt (.templateDecl position name attributes methods), state,
      binders⟩)
    (absorbs : program.Absorbs loose ⟨.stmt (.templateDecl position name attributes methods), state,
      binders⟩) :
    (∀ entry ∈ attributes, entry.2.Within (Accounts loose
      ((name, attributes) :: declarations binders state.scopes.symbols))) ∧
    ∀ method ∈ methods, program.AccountsFunction loose
      ((name, attributes) :: declarations binders state.scopes.symbols) method.signature
      method.body := by
  rcases Visit.Reaches.accepted visits (start_accepted accepted) with ⟨after, ran⟩
  rcases ok_of_checkStmt_templateDecl ran with
    ⟨declared, prepared, ready, last, ranDeclare, ranPrepare, ranMethods, _⟩
  rcases ok_of_declareTemplate ranDeclare with ⟨_, defined, _⟩
  rcases scopes_of_define defined with ⟨unbound, bound⟩
  have scope : declarations ((name, .template) :: binders) declared.scopes.symbols =
      (name, attributes) :: declarations binders state.scopes.symbols :=
    declarations_of_bound (declaredTemplate name attributes methods) binders bound
  refine ⟨fun entry member => ?_, fun method among => ⟨?_, fun known stmt member => ?_⟩⟩
  · have leads := Visit.Leads.attributeType binders member defined
    rw [← scope]
    exact within_of_type accepted plain (visits.tail leads) (absorbs.from leads (by simp))
  · have leads := Visit.Leads.signatures binders ranDeclare
    exact within_of_signatures accepted plain (visits.tail leads) (absorbs.from leads (by simp))
      unbound bound method among
  · have visitsMethods := visits.tail (.methods binders ranDeclare ranPrepare)
    have visitsSignatures := visits.tail (.signatures binders ranDeclare)
    rcases Visit.function_of_methods among ⟨last, ranMethods⟩ with
      ⟨signature, owner, inside, reaches⟩
    refine admitted_of_function accepted plain (visitsMethods.trans reaches) ?_ known stmt member
    rw [← scope]
    exact bound_of_visits visitsSignatures

end Program

end Parts

section Functions

variable {program : Program} {analysis : Analysis} {loose : Mention → Prop}
variable {state after : CheckState} {binders : List (String × Binder)}

namespace Program

/-- Names are added with types that are accounted for. -/
theorem AccountsScope.adding (accounts : program.AccountsScope loose binders state.scopes.symbols)
    {added : List (String × Binder)} (adds : state.scopes.Adds added after.scopes)
    (plain : ∀ name, (name, .template) ∉ added)
    (obeyed : (accountLimits loose (declarations binders state.scopes.symbols)).Obeyed false
      after) : program.AccountsScope loose (added ++ binders) after.scopes.symbols := by
  rcases adds with ⟨symbols, same, stand⟩
  rw [same]
  refine accounts.append plain stand.length_eq fun symbol member => obeyed.symbols symbol ?_
  rw [same]
  exact List.mem_append_left _ member

/-- The templates that are declared in scope stay the same when other names are added. -/
theorem declarations_of_adds (binders : List (String × Binder)) {added : List (String × Binder)}
    (adds : state.scopes.Adds added after.scopes) (plain : ∀ name, (name, .template) ∉ added) :
    declarations (added ++ binders) after.scopes.symbols =
      declarations binders state.scopes.symbols := by
  rcases adds with ⟨symbols, same, stand⟩
  rw [same]
  exact declarations_append_of_plain plain stand.length_eq

/-- A function literal is checked with a prepared signature that is accounted for. -/
theorem accounted_of_literal (accepted : program.check = .ok analysis)
    (plain : program.WritesNoCopies) {params : List (String × Ty)} {body : Block}
    {prepared : Signature} (visits : program.Visits ⟨.expr (.function params body), state, binders⟩)
    (absorbs : program.Absorbs loose ⟨.expr (.function params body), state, binders⟩)
    (accounts : program.AccountsScope loose binders state.scopes.symbols)
    (prepares : prepareSignature { result := .infer, params } none body state =
      .ok prepared state) :
    Visit.Accounted program loose ⟨.function prepared none body, state, binders⟩ := by
  have leads := Visit.Leads.literal binders prepares
  have stand := (Visit.linked_of_visits visits).stand
  have within := within_of_prepareSignature
    (accountsFunction_of_literal accepted plain visits absorbs) (noTemplate_within loose _)
    (accounts.obeyed stand) prepares
  refine ⟨accounts, ?_, noTemplate_within loose _⟩
  exact (Ty.within_function prepared).mp (within_of_finds (absorbs.from leads (by simp))
    (.prepared rfl) ((Ty.within_function prepared).mpr within))

/-- A declared function is checked with a prepared signature that is accounted for. -/
theorem accounted_of_fnDecl (accepted : program.check = .ok analysis)
    (plain : program.WritesNoCopies) {declaration : FnDecl} {prepared : Signature}
    (visits : program.Visits ⟨.stmt (.fnDecl declaration), state, binders⟩)
    (absorbs : program.Absorbs loose ⟨.stmt (.fnDecl declaration), state, binders⟩)
    (accounts : program.AccountsScope loose binders state.scopes.symbols)
    (defined : define declaration.name (.function declaration.signature)
      (state.movedTo declaration.position) = .ok () after)
    (prepares : prepareSignature declaration.signature none declaration.body after =
      .ok prepared after) :
    Visit.Accounted program loose ⟨.function prepared none declaration.body,
      after.updated declaration.name (.function prepared),
      (declaration.name, .function) :: binders⟩ := by
  have leads := Visit.Leads.function binders defined prepares
  have function := accountsFunction_of_fnDecl accepted plain visits absorbs
  have other (name : String) : (name, Binder.template) ∉ [(declaration.name, .function)] :=
    template_notMem_singleton declaration.name Binder.noConfusion
  have obeyed : (accountLimits loose (declarations binders state.scopes.symbols)).Obeyed false
      (state.movedTo declaration.position) :=
    obeyed_of_scopes (accounts.obeyed (Visit.linked_of_visits visits).stand) rfl
  have obeyedDeclared := ((Limits.upholds_define declaration.name
    ((Ty.within_function _).mpr function.signature)).of_ok obeyed defined).2
  rcases scopes_of_define defined with ⟨unbound, bound⟩
  have adds : state.scopes.Adds [(declaration.name, .function)]
      (after.updated declaration.name (.function prepared)).scopes := by
    rw [CheckState.updated, bound, ScopeStack.update_bound unbound]
    exact ScopeStack.adds_bound .function ⟨prepared, rfl⟩ state.scopes
  have same := declarations_of_adds binders adds other
  have within := within_of_prepareSignature function (noTemplate_within loose _) obeyedDeclared
    prepares
  rw [← same] at within
  have withinPrepared := within_of_finds (absorbs.from leads (by simp)) (.prepared rfl)
    ((Ty.within_function prepared).mpr within)
  refine ⟨accounts.adding adds other ?_, (Ty.within_function prepared).mp withinPrepared,
    noTemplate_within loose _⟩
  refine obeyed_updated declaration.name obeyedDeclared ?_
  rw [← same]
  exact withinPrepared

/-- A template is declared, with the signatures of its methods as they are written. -/
theorem accounted_of_templateDecl (accepted : program.check = .ok analysis)
    (plain : program.WritesNoCopies) {position : Position} {name : String}
    {attributes : List (String × Ty)} {methods : List FnDecl}
    (visits : program.Visits ⟨.stmt (.templateDecl position name attributes methods), state,
      binders⟩)
    (absorbs : program.Absorbs loose ⟨.stmt (.templateDecl position name attributes methods), state,
      binders⟩)
    (accounts : program.AccountsScope loose binders state.scopes.symbols)
    (defined : define name (.template (declaredTemplate name attributes methods))
      (state.movedTo position) = .ok () after) :
    Visit.Accounted program loose ⟨.signatures (declaredTemplate name attributes methods) 0 methods,
      after, (name, .template) :: binders⟩ := by
  have stand := (Visit.linked_of_visits visits).stand
  have declares : program.Declares (name, attributes) :=
    ⟨position, methods, contains_of_includes visits (Part.includes_root List.mem_cons_self)⟩
  rcases accountsTemplate_of_templateDecl accepted plain visits absorbs with ⟨entries, functions⟩
  have within : (declaredTemplate name attributes methods).Within (Accounts loose
      ((name, attributes) :: declarations binders state.scopes.symbols)) := by
    refine (Template.within_iff _).mpr ⟨entries, fun method member => ?_⟩
    rcases List.mem_map.mp member with ⟨declaration, among, rfl⟩
    exact (functions declaration among).signature
  rcases Visit.Reaches.accepted visits (start_accepted accepted) with ⟨last, ran⟩
  rcases ok_of_checkStmt_templateDecl ran with ⟨_, _, _, _, ranDeclare, _⟩
  have unused := (ok_of_declareTemplate ranDeclare).1
  rw [ScopeStack.lookup?_everywhere] at unused
  have bound := (scopes_of_define defined).2
  refine ⟨?_, ?_, ?_⟩
  · show program.AccountsScope loose _ after.scopes.symbols
    rw [bound, ScopeStack.symbols_bound]
    exact accounts.declaring stand unused declares within
  · show after.scopes.symbols.head? = _
    rw [bound, ScopeStack.symbols_bound]
    rfl
  · show ∀ method ∈ methods, program.AccountsFunction loose
      (declarations ((name, .template) :: binders) after.scopes.symbols) _ _
    rw [show declarations ((name, .template) :: binders) after.scopes.symbols =
      (name, attributes) :: declarations binders state.scopes.symbols from
        declarations_of_bound (declaredTemplate name attributes methods) binders bound]
    exact functions

end Program

end Functions

namespace Visit

variable {program : Program} {analysis : Analysis} {loose more : Mention → Prop}
variable {visit next : Visit} {part following : Part} {template : Template} {index : Nat}
variable {state after : CheckState} {binders : List (String × Binder)}

theorem Accounted.loosen (accounted : visit.Accounted program loose)
    (looser : ∀ mention, loose mention → more mention) : visit.Accounted program more := by
  rcases visit with ⟨part, state, binders⟩
  refine ⟨accounted.scope.loosen looser, ?_⟩
  cases part with
  | function signature template body =>
      exact ⟨accounted.part.1.loosen looser,
        fun declared among => (accounted.part.2 declared among).loosen looser⟩
  | signatures template index list =>
      exact ⟨accounted.part.1, fun method among => (accounted.part.2 method among).loosen looser⟩
  | methods template index list =>
      exact ⟨accounted.part.1, fun method among => (accounted.part.2 method among).loosen looser⟩
  | _ => trivial

theorem Accounted.of_symbols (accounted : Accounted program loose ⟨part, state, binders⟩)
    (same : after.scopes.symbols = state.scopes.symbols)
    (fits : following.Accounted program loose (declarations binders state.scopes.symbols)
      state.scopes.symbols) : Accounted program loose ⟨following, after, binders⟩ := by
  refine ⟨?_, ?_⟩
  · rw [same]
    exact accounted.scope
  · rw [Visit.declared, same]
    exact fits

/-- The template whose methods are prepared or checked keeps to the declarations in scope. -/
theorem Accounted.within_owner (accounted : Accounted program loose ⟨part, state, binders⟩)
    (linked : Linked ⟨part, state, binders⟩)
    (last : state.scopes.symbols.head? = some (template.name, .template template)) :
    template.Within (Accounts loose (declarations binders state.scopes.symbols)) := by
  have within := accounted.scope.types.within linked.stand (List.mem_of_mem_head? last)
  exact ((Ty.within_template template).mp within).2

/-- The template whose methods are prepared or checked gets other signatures. -/
theorem Accounted.retyped (updated : Template)
    (accounted : Accounted program loose ⟨part, state, binders⟩)
    (linked : Linked ⟨part, state, binders⟩) (owned : part.owner? = some template)
    (last : state.scopes.symbols.head? = some (template.name, .template template))
    (sameName : updated.name = template.name)
    (sameAttributes : updated.attributes = template.attributes)
    (within : updated.Within (Accounts loose (declarations binders state.scopes.symbols)))
    (same : after.scopes = state.scopes.update template.name (.template updated)) :
    program.AccountsScope loose binders after.scopes.symbols ∧
      after.scopes.symbols.head? = some (updated.name, .template updated) ∧
      declarations binders after.scopes.symbols = declarations binders state.scopes.symbols := by
  rcases linked.owner template owned with ⟨base, type, rest, unbound, bound, rfl⟩
  have symbols : state.scopes.symbols = (template.name, type) :: base.symbols := by
    rw [bound, ScopeStack.symbols_bound]
  have isTemplate : type = .template template := by
    rw [symbols] at last
    exact (Prod.mk.inj (Option.some.inj last)).2
  subst isTemplate
  have symbolsAfter :
      after.scopes.symbols = (template.name, .template updated) :: base.symbols := by
    rw [same, bound, ScopeStack.update_bound unbound, ScopeStack.symbols_bound]
  have scope := accounted.scope
  rw [symbols] at scope within ⊢
  rw [symbolsAfter]
  refine ⟨scope.retyped sameName sameAttributes within, by rw [sameName]; rfl, ?_⟩
  rw [declarations_cons, declarations_cons]
  simp only [Binder.declaration?, sameName, sameAttributes]

section Methods

variable {method : FnDecl} {rest methods : List FnDecl}

/-- The prepared signature of the next method is accounted for. -/
theorem Accounted.within_preparedMethod {prepared : Signature}
    (visits : program.Visits ⟨.signatures template index (method :: rest), state, binders⟩)
    (absorbs : program.Absorbs loose ⟨.signatures template index (method :: rest), state, binders⟩)
    (accounted : Accounted program loose
      ⟨.signatures template index (method :: rest), state, binders⟩)
    (prepares : prepareSignature method.signature (some template) method.body state =
      .ok prepared after) :
    prepared.Within (Accounts loose (declarations binders state.scopes.symbols)) := by
  have linked := linked_of_visits visits
  rcases accounted.part with ⟨last, functions⟩
  have within := accounted.within_owner linked last
  have found := Program.within_of_prepareSignature (functions method List.mem_cons_self)
    (fun owner same => Option.some.inj same ▸ within) (accounted.scope.obeyed linked.stand) prepares
  exact (Ty.within_function prepared).mp (Program.within_of_finds absorbs
    (.preparedMethod rfl prepares) ((Ty.within_function prepared).mpr found))

/-- The template has the prepared signature of the next method. -/
theorem Accounted.laterSignatures {prepared : Signature}
    (visits : program.Visits ⟨.signatures template index (method :: rest), state, binders⟩)
    (absorbs : program.Absorbs loose ⟨.signatures template index (method :: rest), state, binders⟩)
    (accounted : Accounted program loose
      ⟨.signatures template index (method :: rest), state, binders⟩)
    (prepares : prepareSignature method.signature (some template) method.body state =
      .ok prepared state) :
    Accounted program loose ⟨.signatures (template.setMethod index prepared) (index + 1) rest,
      state.updated template.name (.template (template.setMethod index prepared)), binders⟩ := by
  have linked := linked_of_visits visits
  rcases accounted.part with ⟨last, functions⟩
  have within := accounted.within_owner linked last
  have withinPrepared := accounted.within_preparedMethod visits absorbs prepares
  have updates : (state.updated template.name
      (.template (template.setMethod index prepared))).scopes =
    state.scopes.update template.name (.template (template.setMethod index prepared)) := rfl
  rcases accounted.retyped (template.setMethod index prepared) linked rfl last rfl rfl
    (Template.within_setMethod index within withinPrepared) updates with ⟨scope, head, same⟩
  refine ⟨scope, head, ?_⟩
  rw [Visit.declared, same]
  exact (List.forall_mem_cons.mp functions).2

/-- The next method is checked with its prepared signature. -/
theorem Accounted.nextMethod
    (visits : program.Visits ⟨.methods template index (method :: rest), state, binders⟩)
    (accounted : Accounted program loose
      ⟨.methods template index (method :: rest), state, binders⟩) :
    Accounted program loose ⟨.function (template.preparedMethod index method) (some template)
      method.body, state, binders⟩ := by
  rcases accounted.part with ⟨last, functions⟩
  have within := accounted.within_owner (linked_of_visits visits) last
  have withinPrepared : (template.preparedMethod index method).Within
      (accountLimits loose (declarations binders state.scopes.symbols)).mentions :=
    Limits.within_preparedMethod index within (functions method List.mem_cons_self).signature
  exact accounted.of_symbols rfl
    ⟨withinPrepared, fun owner same => Option.some.inj same ▸ within⟩

/-- The template has the checked signature of the next method. -/
theorem Accounted.laterMethods {resolved : Signature} (accepted : program.check = .ok analysis)
    (plain : program.WritesNoCopies)
    (visits : program.Visits ⟨.methods template index (method :: rest), state, binders⟩)
    (absorbs : program.Absorbs loose ⟨.methods template index (method :: rest), state, binders⟩)
    (accounted : Accounted program loose
      ⟨.methods template index (method :: rest), state, binders⟩)
    (ran : checkFunction (template.preparedMethod index method) (some template) method.body state =
      .ok resolved after) :
    Accounted program loose ⟨.methods (template.setMethod index resolved) (index + 1) rest,
      (after.updated template.name
        (.template (template.setMethod index resolved))).recorded method.id resolved,
      binders⟩ := by
  have linked := linked_of_visits visits
  have leads := Leads.method template index method rest state binders
  rcases accounted.part with ⟨last, functions⟩
  have within := accounted.within_owner linked last
  have withinResolved := Program.within_of_function accepted plain (visits.tail leads)
    (absorbs.from leads (by simp)) (accounted.nextMethod visits) ran
  have sameChecked := ((keeps_inFunction _ _ (keeps_checkBody _)).of_ok ran).2
  have updates : ((after.updated template.name
      (.template (template.setMethod index resolved))).recorded method.id resolved).scopes =
    state.scopes.update template.name (.template (template.setMethod index resolved)) := by
    rw [sameChecked]
    rfl
  rcases accounted.retyped (template.setMethod index resolved) linked rfl last rfl rfl
    (Template.within_setMethod index within withinResolved) updates with ⟨scope, head, same⟩
  refine ⟨scope, head, ?_⟩
  rw [Visit.declared, same]
  exact (List.forall_mem_cons.mp functions).2

/-- After all methods have been prepared the template is still accounted for. -/
theorem Accounted.of_prepareMethods {prepared : Template}
    (visits : program.Visits ⟨.signatures template index methods, state, binders⟩)
    (absorbs : program.Absorbs loose ⟨.signatures template index methods, state, binders⟩)
    (accounted : Accounted program loose ⟨.signatures template index methods, state, binders⟩)
    (ran : prepareMethods template index methods state = .ok prepared after) :
    program.AccountsScope loose binders after.scopes.symbols := by
  induction methods generalizing template index state with
  | nil =>
      rw [prepareMethods, pure_apply, EStateM.Result.ok.injEq] at ran
      rcases ran with ⟨_, rfl⟩
      exact accounted.scope
  | cons method rest ih =>
      rcases ok_of_prepareMethods_cons ran with ⟨signature, _, prepares, ranRest⟩
      have leads : Leads ⟨.signatures template index (method :: rest), state, binders⟩ _ :=
        .laterSignatures rest binders prepares
      exact ih (visits.tail leads) (absorbs.from leads (by simp))
        (accounted.laterSignatures visits absorbs prepares) ranRest

/-- After all methods have been checked the template is still accounted for. -/
theorem Accounted.of_checkMethods (accepted : program.check = .ok analysis)
    (plain : program.WritesNoCopies)
    (visits : program.Visits ⟨.methods template index methods, state, binders⟩)
    (absorbs : program.Absorbs loose ⟨.methods template index methods, state, binders⟩)
    (accounted : Accounted program loose ⟨.methods template index methods, state, binders⟩)
    (ran : checkMethods template index methods state = .ok () after) :
    program.AccountsScope loose binders after.scopes.symbols := by
  induction methods generalizing template index state with
  | nil =>
      rw [checkMethods, pure_apply, EStateM.Result.ok.injEq] at ran
      rcases ran with ⟨_, rfl⟩
      exact accounted.scope
  | cons method rest ih =>
      rcases ok_of_checkMethods_cons ran with ⟨resolved, checked, ranBody, ranRest⟩
      have leads : Leads ⟨.methods template index (method :: rest), state, binders⟩ _ :=
        .laterMethods rest binders ranBody
      exact ih (visits.tail leads) (absorbs.from leads (by simp))
        (accounted.laterMethods accepted plain visits absorbs ranBody) ranRest

/-- The methods of a declared template are checked when all of them have been prepared. -/
theorem accounted_methods (accepted : program.check = .ok analysis)
    (plain : program.WritesNoCopies) {position : Position} {name : String}
    {attributes : List (String × Ty)} {declared ready : CheckState} {prepared : Template}
    (visits : program.Visits ⟨.stmt (.templateDecl position name attributes methods), state,
      binders⟩)
    (absorbs : program.Absorbs loose ⟨.stmt (.templateDecl position name attributes methods), state,
      binders⟩)
    (accounts : program.AccountsScope loose binders state.scopes.symbols)
    (ranDeclare : declareTemplate (declaredTemplate name attributes methods)
      (state.movedTo position) = .ok () declared)
    (prepares : prepareMethods (declaredTemplate name attributes methods) 0 methods declared =
      .ok prepared ready) :
    Accounted program loose ⟨.methods prepared 0 methods, ready, (name, .template) :: binders⟩ := by
  have leads := Leads.signatures binders ranDeclare
  have defined := (ok_of_declareTemplate ranDeclare).2.1
  rcases scopes_of_define defined with ⟨unbound, bound⟩
  rcases scopes_of_prepareMethods unbound bound prepares with
    ⟨sameName, sameAttributes, boundReady⟩
  have accounted := Program.accounted_of_templateDecl accepted plain visits absorbs accounts defined
  have scope :=
    accounted.of_prepareMethods (visits.tail leads) (absorbs.from leads (by simp)) prepares
  have functions := (Program.accountsTemplate_of_templateDecl accepted plain visits absorbs).2
  rcases prepared with ⟨_, _, signatures⟩
  cases sameName
  cases sameAttributes
  refine ⟨scope, ?_, ?_⟩
  · show ready.scopes.symbols.head? = _
    rw [boundReady, ScopeStack.symbols_bound]
    rfl
  · show ∀ method ∈ methods, program.AccountsFunction loose
      (declarations ((name, .template) :: binders) ready.scopes.symbols) _ _
    rw [show declarations ((name, .template) :: binders) ready.scopes.symbols =
      (name, attributes) :: declarations binders state.scopes.symbols from
        Program.declarations_of_bound ⟨name, attributes, signatures⟩ binders boundReady]
    exact functions

end Methods

end Visit

section Statements

variable {program : Program} {analysis : Analysis} {loose : Mention → Prop}
variable {state after : CheckState} {binders : List (String × Binder)}

namespace Program

theorem accountsScope_of_varDecl (accepted : program.check = .ok analysis)
    (plain : program.WritesNoCopies) {position : Position} {id : Nat} {name : String}
    {declared : Ty} {initializer : Expr}
    (visits : program.Visits ⟨.stmt (.varDecl position id name declared initializer), state,
      binders⟩)
    (absorbs : program.Absorbs loose ⟨.stmt (.varDecl position id name declared initializer), state,
      binders⟩)
    (accounts : program.AccountsScope loose binders state.scopes.symbols)
    (ran : checkStmt (.varDecl position id name declared initializer) state = .ok () after) :
    program.AccountsScope loose ((name, .variable) :: binders) after.scopes.symbols := by
  have adds := adds_of_checkStmt ran
  rcases ok_of_checkStmt_varDecl ran with ⟨actual, between, last, ranExpr, ranDeclare, rfl⟩
  have leadsOperands := Visit.Leads.stmtOperands
    (.varDecl position id name declared initializer) state binders
  have leadsExpr := Visit.Leads.firstExpr initializer [] (state.movedTo position) binders
  have withinActual := within_of_expr accepted plain ((visits.tail leadsOperands).tail leadsExpr)
    ((absorbs.from leadsOperands (by simp)).from leadsExpr (by simp)) accounts ranExpr
  have same := ((keeps_checkExpr initializer).of_ok ranExpr).2
  have leadsType := Visit.Leads.declaredType id name declared binders ranExpr
  have withinDeclared := within_of_type accepted plain (visits.tail leadsType)
    (absorbs.from leadsType (by simp))
  rw [← same] at withinDeclared
  have upholds : (accountLimits loose (declarations binders state.scopes.symbols)).Upholds false
      (fun _ => True) (declareVariable id name declared actual) :=
    .of_law (Law.upholds_declareVariable name (fun _ _ _ _ _ => trivial) withinDeclared
      withinActual)
  have obeyed := accounts.obeyed (Visit.linked_of_visits visits).stand
  have obeyedBetween : (accountLimits loose (declarations binders state.scopes.symbols)).Obeyed
      false between := obeyed_of_scopes obeyed same
  exact accounts.adding adds (fun _ => template_notMem_singleton name Binder.noConfusion)
    (obeyed_of_scopes (upholds.of_ok obeyedBetween ranDeclare).2 rfl)

theorem accountsScope_of_fnDecl (accepted : program.check = .ok analysis)
    (plain : program.WritesNoCopies) {declaration : FnDecl}
    (visits : program.Visits ⟨.stmt (.fnDecl declaration), state, binders⟩)
    (absorbs : program.Absorbs loose ⟨.stmt (.fnDecl declaration), state, binders⟩)
    (accounts : program.AccountsScope loose binders state.scopes.symbols)
    (ran : checkStmt (.fnDecl declaration) state = .ok () after) :
    program.AccountsScope loose ((declaration.name, .function) :: binders)
      after.scopes.symbols := by
  have adds := adds_of_checkStmt ran
  rcases ok_of_checkStmt_fnDecl ran with ⟨last, ranDecl, rfl⟩
  rcases ok_of_checkFnDecl ranDecl with
    ⟨declared, prepared, resolved, checked, replaced, _, defined, prepares, ranBody, ranReplace,
      rfl⟩
  have leads := Visit.Leads.function binders defined prepares
  have accounted := accounted_of_fnDecl accepted plain visits absorbs accounts defined prepares
  have visitsFunction := visits.tail leads
  have withinResolved := within_of_function accepted plain visitsFunction
    (absorbs.from leads (by simp)) accounted ranBody
  have same := ((keeps_inFunction _ _ (keeps_checkBody declaration.body)).of_ok ranBody).2
  have obeyed := accounted.scope.obeyed (Visit.linked_of_visits visitsFunction).stand
  have obeyedReplaced := ((Limits.upholds_replaceFunction declaration.name prepared
    withinResolved).of_ok (obeyed_of_scopes obeyed same) ranReplace).2
  have other (name : String) : (name, Binder.template) ∉ [(declaration.name, .function)] :=
    template_notMem_singleton declaration.name Binder.noConfusion
  rcases scopes_of_define defined with ⟨unbound, bound⟩
  have addsFunction : state.scopes.Adds [(declaration.name, .function)]
      (declared.updated declaration.name (.function prepared)).scopes := by
    rw [CheckState.updated, bound, ScopeStack.update_bound unbound]
    exact ScopeStack.adds_bound .function ⟨prepared, rfl⟩ state.scopes
  refine accounts.adding adds other ?_
  rw [← declarations_of_adds binders addsFunction other]
  exact obeyed_of_scopes obeyedReplaced rfl

theorem accountsScope_of_templateDecl (accepted : program.check = .ok analysis)
    (plain : program.WritesNoCopies) {position : Position} {name : String}
    {attributes : List (String × Ty)} {methods : List FnDecl}
    (visits : program.Visits ⟨.stmt (.templateDecl position name attributes methods), state,
      binders⟩)
    (absorbs : program.Absorbs loose ⟨.stmt (.templateDecl position name attributes methods), state,
      binders⟩)
    (accounts : program.AccountsScope loose binders state.scopes.symbols)
    (ran : checkStmt (.templateDecl position name attributes methods) state = .ok () after) :
    program.AccountsScope loose ((name, .template) :: binders) after.scopes.symbols := by
  rcases ok_of_checkStmt_templateDecl ran with
    ⟨declared, prepared, ready, last, ranDeclare, ranPrepare, ranMethods, rfl⟩
  have leads := Visit.Leads.methods binders ranDeclare ranPrepare
  have accounted := Visit.accounted_methods accepted plain visits absorbs accounts ranDeclare
    ranPrepare
  show program.AccountsScope loose _ last.scopes.symbols
  exact accounted.of_checkMethods accepted plain (visits.tail leads) (absorbs.from leads (by simp))
    ranMethods

/-- An accepted statement leaves the scope accounted for. -/
theorem accountsScope_of_checkStmt (accepted : program.check = .ok analysis)
    (plain : program.WritesNoCopies) {stmt : Stmt}
    (visits : program.Visits ⟨.stmt stmt, state, binders⟩)
    (absorbs : program.Absorbs loose ⟨.stmt stmt, state, binders⟩)
    (accounts : program.AccountsScope loose binders state.scopes.symbols)
    (ran : checkStmt stmt state = .ok () after) :
    program.AccountsScope loose (stmt.binders ++ binders) after.scopes.symbols := by
  have adds := adds_of_checkStmt ran
  cases stmt with
  | varDecl position id name declared initializer =>
      exact accountsScope_of_varDecl accepted plain visits absorbs accounts ran
  | fnDecl declaration => exact accountsScope_of_fnDecl accepted plain visits absorbs accounts ran
  | templateDecl position name attributes methods =>
      exact accountsScope_of_templateDecl accepted plain visits absorbs accounts ran
  | _ =>
      rcases adds with ⟨added, same, none⟩
      cases none
      rw [same]
      exact accounts

end Program

end Statements

namespace Visit

variable {program : Program} {analysis : Analysis} {loose : Mention → Prop}
variable {visit next : Visit} {part : Part} {state after : CheckState}
variable {binders : List (String × Binder)}

/-- In the body of a function the names that have been added are accounted for. -/
theorem Accounted.of_body {signature : Signature} {owner : Option Template} {body : Block}
    (accounted : Accounted program loose ⟨.function signature owner body, state, binders⟩)
    (linked : Linked ⟨.function signature owner body, state, binders⟩)
    (ran : enterFunction signature owner state = .ok () after) :
    Accounted program loose
      ⟨.stmts body.body, after, functionBinders signature owner ++ binders⟩ := by
  have within : signature.Within
      (accountLimits loose (declarations binders state.scopes.symbols)).mentions :=
    accounted.part.1
  have entering := Limits.obeyed_enterFunction within accounted.part.2
    (accounted.scope.obeyed linked.stand)
  rw [ran] at entering
  exact ⟨accounted.scope.adding (adds_of_enterFunction ran)
    (fun _ => template_notMem_functionBinders signature owner) entering.unwatched, trivial⟩

/-- The variable of a loop has a type that is accounted for. -/
theorem Accounted.of_loop {name : String} {type : Ty} {body : Block}
    (accounted : Accounted program loose ⟨part, state, binders⟩)
    (linked : Linked ⟨part, state, binders⟩) {between inside : CheckState}
    (same : between.scopes = state.scopes)
    (within : type.Within (Accounts loose (declarations binders state.scopes.symbols)))
    (defined : define name type (between.entered .loop) = .ok () inside) :
    Accounted program loose ⟨.stmts body.body, inside, (name, .loopVariable) :: binders⟩ := by
  have obeyed := accounted.scope.obeyed linked.stand
  have symbols : (between.entered .loop).scopes.symbols = state.scopes.symbols := by
    rw [CheckState.entered, ScopeStack.symbols_enter, same]
  have obeyedEntered : (accountLimits loose
      (declarations binders state.scopes.symbols)).Obeyed false (between.entered .loop) :=
    obeyed_of_symbols (symbols ▸ obeyed.symbols)
  have obeyedInside := ((Limits.upholds_define name within).of_ok obeyedEntered defined).2
  have scope := accounted.scope
  rw [← symbols] at scope obeyedInside
  exact ⟨scope.adding (adds_of_define .loopVariable trivial defined)
    (fun _ => template_notMem_singleton name Binder.noConfusion) obeyedInside, trivial⟩

/-- The next visit is accounted for, with all that has got loose by then. -/
theorem Leads.accounted (accepted : program.check = .ok analysis) (plain : program.WritesNoCopies)
    (visits : program.Visits visit) (leads : visit.Leads next)
    (accountedBefore : visit.Accounted program (program.Loose visit)) :
    next.Accounted program (program.Loose next) := by
  have linked := linked_of_visits visits
  have accounted : visit.Accounted program (program.Loose next) :=
    accountedBefore.loosen fun _ isLoose => isLoose.onwards leads
  have absorbs (notList : ∀ body, visit.part ≠ .stmts body) :
      program.Absorbs (program.Loose next) visit :=
    Program.absorbs_of_visits visits notList (.single leads)
  cases leads with
  | firstExpr expr rest state binders => exact accounted.of_symbols rfl trivial
  | laterExprs rest binders ran =>
      have same := ((keeps_checkExpr _).of_ok ran).2
      exact accounted.of_symbols (by rw [same]) trivial
  | operands expr state binders => exact accounted.of_symbols rfl trivial
  | literalType params body state binders => exact accounted.of_symbols rfl trivial
  | literal binders prepares =>
      exact Program.accounted_of_literal accepted plain visits (absorbs (by simp)) accounted.scope
        prepares
  | firstStmt stmt rest state binders => exact accounted.of_symbols rfl trivial
  | laterStmts rest binders ran =>
      have visitsFirst := visits.tail (.firstStmt _ rest _ binders)
      exact ⟨Program.accountsScope_of_checkStmt accepted plain visitsFirst
        (Program.absorbs_of_laterStmts visits ran) accounted.scope ran, trivial⟩
  | stmtOperands stmt state binders => exact accounted.of_symbols rfl trivial
  | declaredType id name declared binders ran =>
      have same := ((keeps_checkExpr _).of_ok ran).2
      exact accounted.of_symbols (by rw [← same]; rfl) trivial
  | block content state binders => exact accounted.of_symbols rfl trivial
  | thenBlock thenBlock elseBlock binders ran =>
      have same := ((keeps_checkExpr _).of_ok ran).2
      exact accounted.of_symbols (by rw [CheckState.entered, ← same]; rfl) trivial
  | elseBlock elseBlock binders ran ranThen =>
      have same := ((keeps_checkExpr _).of_ok ran).2
      have settles := ((keeps_within (keeps_checkBody _)).of_ok ranThen).2
      refine accounted.of_symbols ?_ trivial
      exact (ScopeStack.symbols_of_settled settles).trans (by rw [← same]; rfl)
  | whileBody body binders ran =>
      have same := ((keeps_checkExpr _).of_ok ran).2
      exact accounted.of_symbols (by rw [CheckState.entered, ← same]; rfl) trivial
  | rangeBody body binders ran defined =>
      have same := ((keeps_checkExprs _).of_ok ran).2
      exact accounted.of_loop linked same.symm (Ty.within_primitive _) defined
  | @eachBody position name iterable body state between inside element binders ran defined =>
      have same := ((keeps_checkExpr _).of_ok ran).2
      have leadsOperands := Leads.stmtOperands (.each position name iterable body) state binders
      have leadsExpr := Leads.firstExpr iterable [] (state.movedTo position) binders
      have within := Program.within_of_expr accepted plain
        ((visits.tail leadsOperands).tail leadsExpr)
        (((absorbs (by simp)).from leadsOperands (by simp)).from leadsExpr (by simp))
        accounted.scope ran
      exact accounted.of_loop linked same.symm ((Ty.within_array _).mp within) defined
  | functionType declaration state binders => exact accounted.of_symbols rfl trivial
  | function binders defined prepares =>
      exact Program.accounted_of_fnDecl accepted plain visits (absorbs (by simp)) accounted.scope
        defined prepares
  | attributeType binders member defined =>
      exact ⟨(Program.accounted_of_templateDecl accepted plain visits (absorbs (by simp))
        accounted.scope defined).scope, trivial⟩
  | signatures binders ranDeclare =>
      exact Program.accounted_of_templateDecl accepted plain visits (absorbs (by simp))
        accounted.scope (ok_of_declareTemplate ranDeclare).2.1
  | methods binders ranDeclare prepares =>
      exact accounted_methods accepted plain visits (absorbs (by simp)) accounted.scope ranDeclare
        prepares
  | methodType template index method rest state binders => exact accounted.of_symbols rfl trivial
  | laterSignatures rest binders prepares =>
      exact accounted.laterSignatures visits (absorbs (by simp)) prepares
  | method template index method rest state binders => exact accounted.nextMethod visits
  | laterMethods rest binders ran =>
      exact accounted.laterMethods accepted plain visits (absorbs (by simp)) ran
  | body body binders ranEnter => exact accounted.of_body linked ranEnter

end Visit

end ScriptCheck
