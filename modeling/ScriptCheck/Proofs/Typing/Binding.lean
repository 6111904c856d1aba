import Mathlib.Data.List.Forall2
import ScriptCheck.Proofs.Typing.Settling
import ScriptCheck.Proofs.Typing.Symbols
import ScriptCheck.Proofs.Typing.Visit

/-!
# What binds the names

At every visit the binders stand for the names in scope, one for one. A name that the declaration of
a template has bound stands for a template of that name, one that the declaration of a function or a
method has bound stands for a function, and a value may have any type.

Every name that a type mentions is looked up like any other name, and what is found has to be a
template. So it has been bound by the declaration of a template, or by a value whose type is a
template.
-/

namespace ScriptCheck

open Checker

/-- The names by which a type or an entity literal mentions templates. -/
def Part.typeNames : Part → List String
  | .type written => written.referencedNames
  | .expr (.entity name _) => [name]
  | _ => []

/-- A name that is bound in the given way may have the given type. -/
def Binder.Fits : Binder → String → Ty → Prop
  | .template, name, type => ∃ template, type = .template template ∧ template.name = name
  | .function, _, type | .method, _, type => ∃ signature, type = .function signature
  | .variable, _, _ | .parameter, _, _ | .attribute, _, _ | .loopVariable, _, _ => True

/-- A binder stands for a name in scope. -/
def Stands (binder : String × Binder) (symbol : String × Ty) : Prop :=
  binder.1 = symbol.1 ∧ binder.2.Fits symbol.1 symbol.2

/-- A name for a template is bound by the declaration of a template of that name, or by a value. -/
theorem Binder.template_or_value {binder : Binder} {name : String} {template : Template}
    (fits : binder.Fits name (.template template)) :
    (binder = .template ∧ template.name = name) ∨ binder.isValue = true := by
  cases binder with
  | template =>
      rcases fits with ⟨declared, same, named⟩
      cases same
      exact .inl ⟨rfl, named⟩
  | function | method =>
      rcases fits with ⟨signature, impossible⟩
      contradiction
  | _ => exact .inr rfl

/-- The names of a stack that have been added to those of another one are the given ones. -/
def ScopeStack.Adds (binders : List (String × Binder)) (before after : ScopeStack) : Prop :=
  ∃ added, after.symbols = added ++ before.symbols ∧ List.Forall₂ Stands binders added

/-- The template whose methods are prepared or checked. -/
def Part.owner? : Part → Option Template
  | .signatures template _ _ | .methods template _ _ => some template
  | .exprs _ | .expr _ | .stmts _ | .stmt _ | .type _ | .function .. => none

/-- The binders of a visit stand for the names in scope, and the template whose methods are prepared
or checked has been bound last. -/
structure Visit.Linked (visit : Visit) : Prop where
  stand : List.Forall₂ Stands visit.binders visit.state.scopes.symbols
  owner : ∀ template ∈ visit.part.owner?, ∃ (base : ScopeStack) (type : Ty)
    (rest : List (String × Binder)), base.inner.binds template.name = false ∧
      visit.state.scopes = base.bound template.name type ∧
      visit.binders = (template.name, .template) :: rest

namespace ScopeStack

variable {stack before between after : ScopeStack}

theorem Adds.refl (stack : ScopeStack) : stack.Adds [] stack :=
  ⟨[], rfl, .nil⟩

theorem Adds.of_symbols_eq (same : after.symbols = before.symbols) : before.Adds [] after :=
  ⟨[], same, .nil⟩

theorem Adds.trans {first second : List (String × Binder)} (adds : before.Adds first between)
    (addsMore : between.Adds second after) : before.Adds (second ++ first) after := by
  rcases adds with ⟨added, same, stand⟩
  rcases addsMore with ⟨more, sameMore, standMore⟩
  exact ⟨more ++ added, by rw [sameMore, same, List.append_assoc], List.rel_append standMore stand⟩

theorem adds_bound {name : String} {type : Ty} (binder : Binder) (fits : binder.Fits name type)
    (stack : ScopeStack) : stack.Adds [(name, binder)] (stack.bound name type) :=
  ⟨[(name, type)], rfl, .cons ⟨rfl, fits⟩ .nil⟩

end ScopeStack

section Steps

variable {state after : CheckState}

theorem adds_of_define {name : String} {type : Ty} (binder : Binder)
    (fits : binder.Fits name type) (defined : define name type state = .ok () after) :
    state.scopes.Adds [(name, binder)] after.scopes := by
  rw [(scopes_of_define defined).2]
  exact ScopeStack.adds_bound binder fits state.scopes

theorem adds_of_forM {Item : Type} (binder : Item → String × Binder) {step : Item → Checker Unit}
    (adds : ∀ item state after, step item state = .ok () after →
      state.scopes.Adds [binder item] after.scopes) (items : List Item)
    (ran : items.forM step state = .ok () after) :
    state.scopes.Adds (items.map binder).reverse after.scopes := by
  induction items generalizing state with
  | nil =>
      rw [← (EStateM.Result.ok.inj ran).2]
      exact ScopeStack.Adds.refl state.scopes
  | cons item rest ih =>
      rcases ok_of_forM_cons ran with ⟨between, ranFirst, ranRest⟩
      rw [List.map_cons, List.reverse_cons]
      exact (adds item state between ranFirst).trans (ih ranRest)

theorem adds_of_defineResolved {entries : List (String × Ty)} (binder : Binder)
    (fits : ∀ name type, binder.Fits name type)
    (ran : defineResolved entries state = .ok () after) :
    state.scopes.Adds (entries.map fun entry => (entry.1, binder)).reverse after.scopes := by
  refine adds_of_forM (fun entry => (entry.1, binder)) (fun entry state after ran => ?_) entries ran
  rcases ok_of_bind_eq_ok ran with ⟨resolved, between, resolves, defined⟩
  rw [state_of_resolve resolves] at defined
  exact adds_of_define binder (fits entry.1 resolved) defined

/-- In the scope of a function its parameters are new, behind the attributes and the methods of its
template. -/
theorem adds_of_enterFunction {signature : Signature} {template : Option Template}
    (ran : enterFunction signature template state = .ok () after) :
    state.scopes.Adds (functionBinders signature template) after.scopes := by
  rcases ok_of_bind_eq_ok ran with ⟨_, entered, ranEnter, ran⟩
  rcases ok_of_bind_eq_ok ran with ⟨_, between, ranMembers, ranParams⟩
  have sameSymbols : entered.scopes.symbols = state.scopes.symbols := by
    rw [← (EStateM.Result.ok.inj ranEnter).2]
    rfl
  have params := adds_of_defineResolved .parameter (fun _ _ => trivial) ranParams
  refine ScopeStack.Adds.trans ?_ params
  cases template with
  | none =>
      rw [← (EStateM.Result.ok.inj ranMembers).2]
      exact .of_symbols_eq sameSymbols
  | some declared =>
      rcases ok_of_bind_eq_ok ranMembers with ⟨_, filled, ranAttributes, ranMethods⟩
      have attributes := adds_of_defineResolved .attribute (fun _ _ => trivial) ranAttributes
      have methods := adds_of_forM (fun method : String × Signature => (method.1, Binder.method))
        (fun method _ _ defined => adds_of_define .method ⟨method.2, rfl⟩ defined) _ ranMethods
      have begun : state.scopes.Adds [] entered.scopes := .of_symbols_eq sameSymbols
      simpa using begun.trans (attributes.trans methods)

theorem adds_of_fnDecl {declaration : FnDecl}
    (ran : checkFnDecl declaration state = .ok () after) :
    state.scopes.Adds [(declaration.name, .function)] after.scopes := by
  rcases bound_of_checkFnDecl ran with ⟨resolved, bound, _, _⟩
  rw [bound]
  exact ScopeStack.adds_bound .function ⟨resolved, rfl⟩ state.scopes

/-- While the methods of a template are prepared and checked, the template stays bound, with the
signatures that have been found. -/
theorem scopes_of_prepareMethods {base : ScopeStack} {template prepared : Template} {index : Nat}
    {methods : List FnDecl} (unbound : base.inner.binds template.name = false)
    (bound : state.scopes = base.bound template.name (.template template))
    (ran : prepareMethods template index methods state = .ok prepared after) :
    prepared.name = template.name ∧ prepared.attributes = template.attributes ∧
      after.scopes = base.bound template.name (.template prepared) := by
  induction methods generalizing template index state with
  | nil =>
      rw [prepareMethods, pure_apply, EStateM.Result.ok.injEq] at ran
      rcases ran with ⟨rfl, rfl⟩
      exact ⟨rfl, rfl, bound⟩
  | cons method rest ih =>
      rcases ok_of_prepareMethods_cons ran with ⟨signature, _, _, ranRest⟩
      let prepared := template.setMethod index signature
      have free : base.inner.binds prepared.name = false := unbound
      have rebound : (state.updated template.name (.template prepared)).scopes =
          base.bound prepared.name (.template prepared) := by
        rw [CheckState.updated, bound, ScopeStack.update_bound unbound]
        rfl
      have prepares := ih free rebound ranRest
      exact prepares

theorem scopes_of_checkMethods {base : ScopeStack} {template : Template} {index : Nat}
    {methods : List FnDecl} (unbound : base.inner.binds template.name = false)
    (bound : state.scopes = base.bound template.name (.template template))
    (ran : checkMethods template index methods state = .ok () after) :
    ∃ final : Template, final.name = template.name ∧ final.attributes = template.attributes ∧
      after.scopes = base.bound template.name (.template final) := by
  induction methods generalizing template index state with
  | nil =>
      rw [checkMethods, pure_apply, EStateM.Result.ok.injEq] at ran
      rcases ran with ⟨_, rfl⟩
      exact ⟨template, rfl, rfl, bound⟩
  | cons method rest ih =>
      rcases ok_of_checkMethods_cons ran with ⟨resolved, checked, ranBody, ranRest⟩
      have sameChecked := ((keeps_inFunction _ (some template)
        (keeps_checkBody method.body)).of_ok ranBody).2
      let updated := template.setMethod index resolved
      have free : base.inner.binds updated.name = false := unbound
      have rebound : ((checked.updated template.name (.template updated)).recorded method.id
          resolved).scopes = base.bound updated.name (.template updated) := by
        show checked.scopes.update _ _ = _
        rw [← sameChecked, bound, ScopeStack.update_bound unbound]
        rfl
      have checks := ih free rebound ranRest
      exact checks

theorem adds_of_templateDecl {position : Position} {name : String}
    {attributes : List (String × Ty)} {methods : List FnDecl}
    (ran : checkStmt (.templateDecl position name attributes methods) state = .ok () after) :
    state.scopes.Adds [(name, .template)] after.scopes := by
  rcases ok_of_checkStmt_templateDecl ran with
    ⟨declared, prepared, ready, last, ranDeclare, ranPrepare, ranMethods, rfl⟩
  rcases ok_of_declareTemplate ranDeclare with ⟨_, defined, _⟩
  rcases scopes_of_define defined with ⟨unbound, bound⟩
  rcases scopes_of_prepareMethods unbound bound ranPrepare with ⟨sameName, _, prepares⟩
  rw [← sameName] at unbound prepares
  rcases scopes_of_checkMethods unbound prepares ranMethods with ⟨final, sameFinal, _, ends⟩
  show state.scopes.Adds _ last.scopes
  rw [ends, sameName]
  exact ScopeStack.adds_bound .template ⟨final, rfl, sameFinal.trans sameName⟩ state.scopes

/-- An accepted statement adds what it binds to the names in scope. -/
theorem adds_of_checkStmt {stmt : Stmt} (ran : checkStmt stmt state = .ok () after) :
    state.scopes.Adds stmt.binders after.scopes := by
  have gained := ((keeps_checkStmt stmt).of_ok ran).2
  cases stmt with
  | varDecl position id name declared initializer =>
      rcases ok_of_checkStmt_varDecl ran with ⟨actual, between, last, ranExpr, declares, rfl⟩
      rcases ok_of_declareVariable declares with ⟨_, type, _, _, _, _, _, bound⟩
      have sameScopes := ((keeps_checkExpr initializer).of_ok ranExpr).2
      show state.scopes.Adds _ last.scopes
      rw [bound, ← sameScopes]
      exact ScopeStack.adds_bound .variable trivial state.scopes
  | fnDecl declaration =>
      rcases ok_of_checkStmt_fnDecl ran with ⟨last, ranDecl, rfl⟩
      exact (adds_of_fnDecl ranDecl :)
  | templateDecl position name attributes methods => exact adds_of_templateDecl ran
  | _ => exact .of_symbols_eq (ScopeStack.symbols_of_gained_none gained)

end Steps

namespace Visit

variable {visit next : Visit}

/-- Names that are added with their binders leave the binders linked. -/
theorem linked_of_adds {part : Part} {state : CheckState} {binders added : List (String × Binder)}
    {stack : ScopeStack} (stand : List.Forall₂ Stands binders stack.symbols)
    (adds : stack.Adds added state.scopes) (plain : part.owner? = none) :
    Linked ⟨part, state, added ++ binders⟩ := by
  rcases adds with ⟨symbols, same, standAdded⟩
  refine ⟨?_, fun template owned => by simp [plain] at owned⟩
  rw [same]
  exact List.rel_append standAdded stand

theorem linked_of_scopes {part : Part} {state : CheckState} {binders : List (String × Binder)}
    {stack : ScopeStack} (stand : List.Forall₂ Stands binders stack.symbols)
    (same : state.scopes.symbols = stack.symbols) (plain : part.owner? = none) :
    Linked ⟨part, state, binders⟩ :=
  linked_of_adds stand (ScopeStack.Adds.of_symbols_eq same) plain

theorem linked_of_defined {part : Part} {state : CheckState} {binders : List (String × Binder)}
    {name : String} {binder : Binder} {stack : ScopeStack}
    (stand : List.Forall₂ Stands binders stack.symbols)
    (adds : stack.Adds [(name, binder)] state.scopes) (plain : part.owner? = none) :
    Linked ⟨part, state, (name, binder) :: binders⟩ :=
  linked_of_adds stand adds plain

/-- A template that is bound last is the one whose methods may be prepared or checked. -/
theorem linked_of_declared {part : Part} {state : CheckState} {binders : List (String × Binder)}
    {template : Template} {stack : ScopeStack} (stand : List.Forall₂ Stands binders stack.symbols)
    (unbound : stack.inner.binds template.name = false)
    (bound : state.scopes = stack.bound template.name (.template template))
    (owns : part.owner? = some template) :
    Linked ⟨part, state, (template.name, .template) :: binders⟩ := by
  refine ⟨?_, fun other ownsOther => ?_⟩
  · rw [bound, ScopeStack.symbols_bound]
    exact .cons ⟨rfl, template, rfl, rfl⟩ stand
  · rcases Option.some.inj (owns.symm.trans ownsOther) with rfl
    exact ⟨stack, .template template, binders, unbound, bound, rfl⟩

/-- A template that gets another type while its methods are prepared or checked stays linked. -/
theorem Linked.retyped {part following : Part} {state after : CheckState}
    {binders : List (String × Binder)} {template : Template} (updated : Template)
    (linked : Linked ⟨part, state, binders⟩) (owned : part.owner? = some template)
    (sameName : updated.name = template.name) (owns : following.owner? = some updated)
    (same : after.scopes = state.scopes.update template.name (.template updated)) :
    Linked ⟨following, after, binders⟩ := by
  rcases linked.owner template owned with ⟨base, type, rest, unbound, bound, rfl⟩
  have stand := linked.stand
  rw [show state.scopes.symbols = (template.name, type) :: base.symbols by
    rw [bound, ScopeStack.symbols_bound]] at stand
  rcases stand with _ | ⟨_, standRest⟩
  rw [← sameName] at unbound ⊢
  refine linked_of_declared standRest unbound ?_ owns
  rw [same, bound, ← sameName, ScopeStack.update_bound unbound]

theorem Leads.linked (leads : visit.Leads next) (linked : visit.Linked) : next.Linked := by
  have stand := linked.stand
  cases leads with
  | firstExpr expr rest state binders => exact linked_of_scopes stand rfl rfl
  | laterExprs rest binders ranFirst =>
      have same := ((keeps_checkExpr _).of_ok ranFirst).2
      exact linked_of_scopes stand (by rw [same]) rfl
  | operands expr state binders => exact linked_of_scopes stand rfl rfl
  | literalType params body state binders => exact linked_of_scopes stand rfl rfl
  | literal binders prepares => exact linked_of_scopes stand rfl rfl
  | firstStmt stmt rest state binders => exact linked_of_scopes stand rfl rfl
  | laterStmts rest binders ranFirst =>
      exact linked_of_adds stand (adds_of_checkStmt ranFirst) rfl
  | stmtOperands stmt state binders => exact linked_of_scopes stand rfl rfl
  | declaredType id name declared binders ranFirst =>
      have same := ((keeps_checkExpr _).of_ok ranFirst).2
      exact linked_of_scopes stand (by rw [← same]; rfl) rfl
  | block content state binders => exact linked_of_scopes stand rfl rfl
  | thenBlock thenBlock elseBlock binders ranCondition =>
      have same := ((keeps_checkExpr _).of_ok ranCondition).2
      exact linked_of_scopes stand (by rw [CheckState.entered, ← same]; rfl) rfl
  | elseBlock elseBlock binders ranCondition ranThen =>
      have same := ((keeps_checkExpr _).of_ok ranCondition).2
      have settles := ((keeps_within (keeps_checkBody _)).of_ok ranThen).2
      refine linked_of_scopes stand ?_ rfl
      exact (ScopeStack.symbols_of_settled settles).trans (by rw [← same]; rfl)
  | whileBody body binders ranCondition =>
      have same := ((keeps_checkExpr _).of_ok ranCondition).2
      exact linked_of_scopes stand (by rw [CheckState.entered, ← same]; rfl) rfl
  | rangeBody body binders ranParts defined =>
      have same := ((keeps_checkExprs _).of_ok ranParts).2
      refine linked_of_defined ?_ (adds_of_define .loopVariable trivial defined) rfl
      rw [CheckState.entered, ScopeStack.symbols_enter, ← same]
      exact stand
  | eachBody body binders ranIterable defined =>
      have same := ((keeps_checkExpr _).of_ok ranIterable).2
      refine linked_of_defined ?_ (adds_of_define .loopVariable trivial defined) rfl
      rw [CheckState.entered, ScopeStack.symbols_enter, ← same]
      exact stand
  | functionType declaration state binders => exact linked_of_scopes stand rfl rfl
  | @function declaration state declared prepared binders defined prepares =>
      rcases scopes_of_define defined with ⟨unbound, bound⟩
      refine linked_of_defined stand ?_ rfl
      rw [CheckState.updated, bound, ScopeStack.update_bound unbound]
      exact ScopeStack.adds_bound .function ⟨prepared, rfl⟩ state.scopes
  | attributeType binders member defined =>
      have adds := adds_of_define .template ⟨declaredTemplate _ _ _, rfl, rfl⟩ defined
      exact linked_of_defined stand adds rfl
  | signatures binders ranDeclare =>
      rcases ok_of_declareTemplate ranDeclare with ⟨_, defined, _⟩
      rcases scopes_of_define defined with ⟨unbound, bound⟩
      exact linked_of_declared stand unbound bound rfl
  | @methods position name attributes methods state declared ready prepared binders ranDeclare
      prepares =>
      rcases ok_of_declareTemplate ranDeclare with ⟨_, defined, _⟩
      rcases scopes_of_define defined with ⟨unbound, bound⟩
      rcases scopes_of_prepareMethods unbound bound prepares with ⟨sameName, _, boundReady⟩
      rw [← sameName] at unbound boundReady
      have owns : (Part.methods prepared 0 methods).owner? = some prepared := rfl
      have linkedReady := linked_of_declared stand unbound boundReady owns
      rw [sameName] at linkedReady
      exact linkedReady
  | methodType template index method rest state binders => exact linked_of_scopes stand rfl rfl
  | @laterSignatures template index method rest state prepared binders prepares =>
      exact linked.retyped (template.setMethod index prepared) rfl rfl rfl rfl
  | method template index method rest state binders => exact linked_of_scopes stand rfl rfl
  | @laterMethods template index method rest state after resolved binders ranFirst =>
      have same := ((keeps_inFunction _ _ (keeps_checkBody _)).of_ok ranFirst).2
      refine linked.retyped (template.setMethod index resolved) rfl rfl rfl ?_
      rw [same]
      rfl
  | body body binders ranEnter =>
      exact linked_of_adds stand (adds_of_enterFunction ranEnter) rfl

theorem Reaches.linked (reaches : visit.Reaches next) (linked : visit.Linked) : next.Linked := by
  induction reaches with
  | refl => exact linked
  | tail _ leads ih => exact leads.linked ih

/-- At every visit of a program, the binders stand for the names in scope. -/
theorem linked_of_visits {program : Program} (visits : program.Visits visit) : visit.Linked :=
  visits.linked ⟨.nil, fun _ owned => nomatch owned⟩

/-- A name in scope is bound by a binder that fits its type. -/
theorem Linked.fits_of_lookup? (linked : visit.Linked) {name : String} {type : Ty}
    (found : visit.state.scopes.lookup? .everywhere name = some type) :
    ∃ binder, visit.binders.lookup name = some binder ∧ binder.Fits name type := by
  rw [ScopeStack.lookup?_everywhere] at found
  have through (binders : List (String × Binder)) (symbols : List (String × Ty))
      (stand : List.Forall₂ Stands binders symbols) (found : symbols.lookup name = some type) :
      ∃ binder, binders.lookup name = some binder ∧ binder.Fits name type := by
    induction stand with
    | nil => contradiction
    | @cons binder symbol restBinders restSymbols stands _ ih =>
        rcases binder with ⟨bound, binder⟩
        rcases symbol with ⟨other, given⟩
        rcases stands with ⟨rfl, fits⟩
        rw [List.lookup_cons] at found ⊢
        cases here : name == bound with
        | true =>
            rw [here] at found
            cases found
            cases beq_iff_eq.mp here
            exact ⟨binder, rfl, fits⟩
        | false =>
            rw [here] at found
            exact ih found
  exact through visit.binders visit.state.scopes.symbols linked.stand found

/-- A name that has been bound is found. -/
theorem Linked.bound_of_mem (linked : visit.Linked) {name : String} {binder : Binder}
    (member : (name, binder) ∈ visit.binders) :
    visit.state.scopes.lookup? .everywhere name ≠ none := by
  rw [ScopeStack.lookup?_everywhere]
  intro unbound
  rcases List.forall₂_iff_get.mp linked.stand with ⟨sameLength, stand⟩
  rcases List.mem_iff_getElem.mp member with ⟨index, inside, found⟩
  have insideSymbols : index < visit.state.scopes.symbols.length := by omega
  have stands := stand index inside insideSymbols
  have missing := List.lookup_eq_none_iff.mp unbound _ (List.getElem_mem insideSymbols)
  simp only [List.get_eq_getElem, found] at stands
  exact absurd stands.1 (by simpa using missing)

/-- Every type name of an accepted part stands for a template. -/
theorem Accepted.template_of_typeName (accepted : visit.Accepted) {name : String}
    (mentioned : name ∈ visit.part.typeNames) :
    ∃ template, visit.state.scopes.lookup? .everywhere name = some (.template template) := by
  rcases visit with ⟨part, state, binders⟩
  rcases accepted with ⟨after, ran⟩
  cases part with
  | type written => exact (ok_of_mentions ran).2 name mentioned
  | expr expr =>
      rcases ok_of_discard ran with ⟨type, ranExpr⟩
      cases expr with
      | entity declared attributes =>
          rw [checkExpr] at ranExpr
          rcases ok_of_bind_eq_ok ranExpr with ⟨_, _, ranExpr, _⟩
          rcases ok_of_bind_eq_ok ranExpr with ⟨template, looked, found, _⟩
          cases List.mem_singleton.mp mentioned
          exact ⟨template, (state_of_templateOr found).2⟩
      | _ => contradiction
  | _ => contradiction

end Visit

/-- Every type name in an accepted program, be it in a written type or of an entity literal, stands
for a template where it is read, and is bound there by the declaration of a template of that name or
by a value, never by a function and never not at all. -/
theorem type_names_stand_for_templates {program : Program} {analysis : Analysis}
    (accepted : program.check = .ok analysis) :
    (∀ part, program.Contains part → ∃ visit, program.Visits visit ∧ visit.part = part) ∧
    ∀ visit, program.Visits visit → ∀ name ∈ visit.part.typeNames, ∃ template binder,
      visit.state.scopes.lookup? .everywhere name = some (.template template) ∧
      visit.binders.lookup name = some binder ∧
      ((binder = .template ∧ template.name = name) ∨ binder.isValue = true) := by
  refine ⟨fun part contains => Program.visits_of_contains accepted contains, ?_⟩
  intro visit visits name mentioned
  have acceptedVisit := visits.accepted (Program.start_accepted accepted)
  rcases acceptedVisit.template_of_typeName mentioned with ⟨template, found⟩
  rcases (Visit.linked_of_visits visits).fits_of_lookup? found with ⟨binder, bound, fits⟩
  exact ⟨template, binder, found, bound, Binder.template_or_value fits⟩

/-- A template that mentions itself, and a variable of it. -/
def selfMention : Program :=
  ⟨[.templateDecl Position.unknown "N" [("next", .array (.named "N"))] [],
    .varDecl Position.unknown 0 "n" (.named "N") (.entity "N" [("next", .array [])])]⟩

theorem type_names_of_selfMention :
    ∃ analysis, selfMention.check = .ok analysis ∧
      (∀ part, selfMention.Contains part →
        ∃ visit, selfMention.Visits visit ∧ visit.part = part) ∧
      ∀ visit, selfMention.Visits visit → ∀ name ∈ visit.part.typeNames, ∃ template binder,
        visit.state.scopes.lookup? .everywhere name = some (.template template) ∧
        visit.binders.lookup name = some binder ∧
        ((binder = .template ∧ template.name = name) ∨ binder.isValue = true) := by
  have accepted : ∃ analysis, selfMention.check = .ok analysis := ⟨_, rfl⟩
  rcases accepted with ⟨analysis, ran⟩
  exact ⟨analysis, ran, type_names_stand_for_templates ran⟩

/-- A variable whose name is written where the name of a template is expected. -/
def variableAsType : Program :=
  ⟨[.templateDecl Position.unknown "T" [("a", .int)] [],
    .varDecl Position.unknown 0 "t" (.named "T") (.entity "T" [("a", .integer 1)]),
    .varDecl Position.unknown 1 "u" (.named "t") (.entity "T" [("a", .integer 2)])]⟩

/-- A type name need not be bound by the declaration of a template: the type of a variable can be
named by another variable. -/
theorem variable_stands_for_template :
    (∃ analysis, variableAsType.check = .ok analysis) ∧ ∃ visit, variableAsType.Visits visit ∧
      visit.part = .type (.named "t") ∧ visit.binders.lookup "t" = some .variable := by
  have visits : variableAsType.Visits _ :=
    .head (.laterStmts _ _ rfl) (.head (.laterStmts _ _ rfl)
      (.head (.firstStmt _ _ _ _) (.single (.declaredType _ _ (.named "t") _ rfl))))
  exact ⟨⟨_, rfl⟩, _, visits, rfl, rfl⟩

end ScriptCheck
