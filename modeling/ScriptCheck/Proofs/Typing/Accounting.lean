import ScriptCheck.Proofs.Typing.Declarations
import ScriptCheck.Proofs.Typing.Provenance
import ScriptCheck.Proofs.Typing.Settling

/-!
# Types that are accounted for

The types that are written in an accepted program are accounted for where they stand, since their
names have been looked up there. All other types come from these, from the names in scope, and from
the templates that the code declares. So a type that is found for some code is accounted for up to
what strays from the code, and where it keeps such a mention, the mention has got loose there.
-/

namespace ScriptCheck

open Checker

/-- The types that are accounted for by the given declarations. -/
def accountLimits (loose : Mention → Prop) (scope : List Declaration) : Limits where
  mentions := Accounts loose scope
  records _ := True

namespace Program

variable (program : Program)

/-- No type that is written in a program holds a copy of a template. -/
def WritesNoCopies : Prop :=
  ∀ type, program.Contains (.type type) → ∀ copy, .template copy ∉ type.mentions

/-- What strays from the given code is excepted as well. -/
def Straying (loose : Mention → Prop) (code : List Part) (mention : Mention) : Prop :=
  loose mention ∨ program.Strays code mention

/-- What gets loose at a visit and after it, but not in the body of a function, is known to be
loose. -/
def Absorbs (loose : Mention → Prop) (visit : Visit) : Prop :=
  ∀ origin, visit.ReachesAround origin → ∀ mention, program.Frees origin mention → loose mention

/-- The written signature of a function is accounted for, and so is its body with all that strays
from it. -/
structure AccountsFunction (loose : Mention → Prop) (scope : List Declaration)
    (written : Signature) (content : Block) : Prop where
  signature : written.Within (Accounts loose scope)
  body : ∀ (known : Mention → Prop), ∀ stmt ∈ content.body,
    (accountLimits (program.Straying known (content.body.map .stmt)) scope).Admitted (.stmt stmt)

end Program

section Loosening

variable {loose more : Mention → Prop} {scope : List Declaration}

/-- More may be loose in a type that is accounted for. -/
theorem Ty.Within.loosen {type : Ty} (within : type.Within (Accounts loose scope))
    (looser : ∀ mention, loose mention → more mention) : type.Within (Accounts more scope) :=
  fun mention mentioned => (within mention mentioned).loosen looser

theorem Signature.Within.loosen {signature : Signature}
    (within : signature.Within (Accounts loose scope))
    (looser : ∀ mention, loose mention → more mention) : signature.Within (Accounts more scope) :=
  fun mention mentioned => (within mention mentioned).loosen looser

theorem Template.Within.loosen {template : Template}
    (within : template.Within (Accounts loose scope))
    (looser : ∀ mention, loose mention → more mention) : template.Within (Accounts more scope) :=
  fun mention mentioned => (within mention mentioned).loosen looser

end Loosening

section States

variable {loose more : Mention → Prop} {scope : List Declaration} {state after : CheckState}

theorem obeyed_of_symbols
    (within : ∀ symbol ∈ state.scopes.symbols, symbol.2.Within (Accounts loose scope)) :
    (accountLimits loose scope).Obeyed false state :=
  ⟨within, (fun impossible => nomatch impossible), trivial⟩

theorem obeyed_of_scopes (obeyed : (accountLimits loose scope).Obeyed false state)
    (same : state.scopes = after.scopes) : (accountLimits loose scope).Obeyed false after :=
  obeyed_of_symbols (same ▸ obeyed.symbols)

theorem obeyed_loosen (obeyed : (accountLimits loose scope).Obeyed false state)
    (looser : ∀ mention, loose mention → more mention) :
    (accountLimits more scope).Obeyed false state :=
  obeyed_of_symbols fun symbol member => (obeyed.symbols symbol member).loosen looser

theorem obeyed_updated (name : String) {type : Ty}
    (obeyed : (accountLimits loose scope).Obeyed false state)
    (within : type.Within (Accounts loose scope)) :
    (accountLimits loose scope).Obeyed false (state.updated name type) :=
  ((Limits.upholds_update name within).of_ok obeyed (update_apply name type state)).2

/-- A copy of a declared template is accounted for with all that its attributes and methods
mention. -/
theorem within_template_of_declared {template : Template}
    (declared : (template.name, template.attributes) ∈ scope)
    (within : template.Within (Accounts loose scope)) :
    (Ty.template template).Within (Accounts loose scope) :=
  (Ty.within_template template).mpr ⟨.inl ⟨_, declared, rfl, rfl⟩, within⟩

end States

namespace Program

variable {program : Program} {analysis : Analysis} {visit : Visit} {loose more : Mention → Prop}
variable {scope : List Declaration} {code : List Part}

theorem AccountsFunction.loosen {written : Signature} {content : Block}
    (accounts : program.AccountsFunction loose scope written content)
    (looser : ∀ mention, loose mention → more mention) :
    program.AccountsFunction more scope written content :=
  ⟨accounts.signature.loosen looser, accounts.body⟩

section Absorbing

variable {next : Visit}

theorem Absorbs.from (absorbs : program.Absorbs loose visit) (leads : visit.Leads next)
    (notFunction : ∀ signature template body, visit.part ≠ .function signature template body) :
    program.Absorbs loose next :=
  fun origin around mention frees => absorbs origin (around.head ⟨leads, notFunction⟩) mention frees

theorem Loose.onwards {mention : Mention} (isLoose : program.Loose visit mention)
    (leads : visit.Leads next) : program.Loose next mention := by
  rcases isLoose with ⟨stmt, rest, state, binders, visits, reaches, freed⟩
  exact ⟨stmt, rest, state, binders, visits, reaches.tail leads, freed⟩

/-- A visit belongs to a statement of a list, and to no function in this statement. -/
theorem enclosed_of_visits (visits : program.Visits visit)
    (notList : ∀ body, visit.part ≠ .stmts body) :
    ∃ (stmt : Stmt) (rest : List Stmt) (state : CheckState) (binders : List (String × Binder)),
      program.Visits ⟨.stmts (stmt :: rest), state, binders⟩ ∧
        Visit.Reaches ⟨.stmts (stmt :: rest), state, binders⟩ visit ∧
        Visit.ReachesAround ⟨.stmt stmt, state, binders⟩ visit := by
  induction visits with
  | refl => exact absurd rfl (notList program.body)
  | @tail before after visits leads ih =>
      have further (notListBefore : ∀ body, before.part ≠ .stmts body)
          (notFunction : ∀ signature template body,
            before.part ≠ .function signature template body) :
          ∃ (stmt : Stmt) (rest : List Stmt) (state : CheckState)
            (binders : List (String × Binder)),
            program.Visits ⟨.stmts (stmt :: rest), state, binders⟩ ∧
              Visit.Reaches ⟨.stmts (stmt :: rest), state, binders⟩ after ∧
              Visit.ReachesAround ⟨.stmt stmt, state, binders⟩ after := by
        rcases ih notListBefore with ⟨stmt, rest, state, binders, visits, reaches, around⟩
        exact ⟨stmt, rest, state, binders, visits, reaches.tail leads,
          around.tail ⟨leads, notFunction⟩⟩
      cases leads with
      | firstStmt stmt rest state binders =>
          exact ⟨stmt, rest, state, binders, visits, .single (.firstStmt stmt rest state binders),
            .refl⟩
      | laterStmts | block | thenBlock | elseBlock | whileBody | rangeBody | eachBody | body =>
          exact absurd rfl (notList _)
      | _ => exact further nofun nofun

/-- What gets loose at a visit is loose from there on. -/
theorem absorbs_of_visits (visits : program.Visits visit)
    (notList : ∀ body, visit.part ≠ .stmts body) (reaches : visit.Reaches next) :
    program.Absorbs (program.Loose next) visit := by
  intro origin around mention frees
  rcases enclosed_of_visits visits notList with
    ⟨stmt, rest, state, binders, visitsList, reachesVisit, aroundVisit⟩
  exact ⟨stmt, rest, state, binders, visitsList, reachesVisit.trans reaches, origin,
    aroundVisit.trans around, frees⟩

/-- What gets loose in a statement is loose in the statements behind it. -/
theorem absorbs_of_laterStmts {stmt : Stmt} {rest : List Stmt} {state after : CheckState}
    {binders : List (String × Binder)}
    (visits : program.Visits ⟨.stmts (stmt :: rest), state, binders⟩)
    (ran : checkStmt stmt state = .ok () after) :
    program.Absorbs (program.Loose ⟨.stmts rest, after, stmt.binders ++ binders⟩)
      ⟨.stmt stmt, state, binders⟩ :=
  fun origin around _ frees => ⟨stmt, rest, state, binders, visits,
    .single (.laterStmts rest binders ran), origin, around, frees⟩

/-- A type that is found is accounted for, since all that strays into it gets loose there. -/
theorem within_of_finds (absorbs : program.Absorbs loose visit) {type : Ty}
    (finds : visit.Finds code type)
    (within : type.Within (Accounts (program.Straying loose code) visit.declared)) :
    type.Within (Accounts loose visit.declared) := by
  intro mention mentioned
  by_cases inScope : ∃ declaration ∈ visit.declared, mention.From declaration
  · exact .inl inScope
  · refine .inr ?_
    rcases within mention mentioned with bound | isLoose | strays
    · exact absurd bound inScope
    · exact isLoose
    · have elsewhere (declaration : Declaration) (member : declaration ∈ visit.declared)
          (origin : mention.From declaration) : False := inScope ⟨declaration, member, origin⟩
      exact absorbs visit .refl mention ⟨code, type, finds, mentioned, strays, elsewhere⟩

end Absorbing

section Written

theorem contains_of_includes (visits : program.Visits visit) {part : Part}
    (includes : visit.part.Includes part) : program.Contains part := by
  rcases Visit.Reaches.includes visits includes with ⟨root, among, inside⟩
  rcases List.mem_map.mp among with ⟨stmt, member, rfl⟩
  exact ⟨stmt, member, inside⟩

/-- A name that a written type mentions is bound where the type is written, by the declaration of a
template or to a value. -/
theorem bound_of_written (accepted : program.check = .ok analysis) (plain : program.WritesNoCopies)
    (visits : program.Visits visit) {written : Ty} (isType : visit.part = .type written)
    {mention : Mention} (mentioned : mention ∈ written.mentions) :
    ∃ name, mention = .name name ∧ ((name, .template) ∈ visit.binders ∨
      ∃ binder, visit.binders.lookup name = some binder ∧ binder.isValue = true) := by
  have includes : visit.part.Includes (.type written) := by
    rw [isType]
    exact Part.includes_root List.mem_cons_self
  have noCopies := plain written (contains_of_includes visits includes)
  cases mention with
  | template copy => exact absurd mentioned (noCopies copy)
  | name name =>
      have acceptedVisit := Visit.Reaches.accepted visits (start_accepted accepted)
      have listed : name ∈ visit.part.typeNames := by
        rw [isType]
        exact Ty.mem_referencedNames written noCopies mentioned
      rcases acceptedVisit.template_of_typeName listed with ⟨template, found⟩
      rcases (Visit.linked_of_visits visits).fits_of_lookup? found with ⟨binder, bound, fits⟩
      rcases Binder.template_or_value fits with ⟨rfl, _⟩ | isValue
      · exact ⟨name, rfl, .inl (mem_of_lookup bound)⟩
      · exact ⟨name, rfl, .inr ⟨binder, bound, isValue⟩⟩

/-- What stands in the part of a visit keeps to the declarations in scope, up to what strays from
the part. -/
theorem admitted_of_visits (accepted : program.check = .ok analysis)
    (plain : program.WritesNoCopies) (visits : program.Visits visit)
    (bound : ∀ name, (name, .template) ∈ visit.binders →
      ∃ declaration ∈ scope, declaration.1 = name)
    {part : Part} (includes : visit.part.Includes part) :
    (accountLimits (program.Straying loose visit.part.roots) scope).Admitted part := by
  intro inner inside
  have includesInner : visit.part.Includes inner := by
    rcases includes with ⟨root, among, reaches⟩
    exact ⟨root, among, reaches.trans inside⟩
  cases inner with
  | type written =>
      intro mention mentioned
      have acceptedVisit := Visit.Reaches.accepted visits (start_accepted accepted)
      rcases Visit.covers_of_includes includesInner acceptedVisit with ⟨next, reaches, isType⟩
      have visitsNext := visits.trans reaches
      rcases bound_of_written accepted plain visitsNext isType mentioned with
        ⟨name, rfl, boundNext | ⟨binder, boundNext, isValue⟩⟩
      · rcases Visit.Reaches.binders_added reaches with ⟨added, same, declared⟩
        rw [same] at boundNext
        rcases List.mem_append.mp boundNext with isAdded | isOld
        · rcases declared name isAdded with ⟨position, attributes, methods, isInside⟩
          have strays : program.Strays visit.part.roots (.name name) :=
            .declared (name, attributes) isInside rfl
          exact .inr (.inr strays)
        · rcases bound name isOld with ⟨declaration, member, same⟩
          exact .inl ⟨declaration, member, same.symm⟩
      · exact .inr (.inr (.confused includesInner visitsNext isType mentioned boundNext isValue))
  | stmt stmt =>
      cases stmt with
      | varDecl position id name declared initializer => exact fun _ _ _ _ => trivial
      | fnDecl declaration => exact fun _ _ _ _ => trivial
      | templateDecl position name attributes methods =>
          refine ⟨fun template sameName sameAttributes => ?_, fun _ _ _ _ _ _ => trivial⟩
          have strays : program.Strays visit.part.roots (.template template) :=
            .declared (name, attributes) includesInner ⟨sameName, sameAttributes⟩
          exact .inr (.inr strays)
      | _ => trivial
  | _ => trivial

end Written

section Functions

variable {written prepared resolved : Signature} {template : Option Template} {body : Block}
variable {state after : CheckState}

theorem noTemplate_within (loose : Mention → Prop) (scope : List Declaration) (owner : Template)
    (none : owner ∈ (none : Option Template)) : owner.Within (Accounts loose scope) :=
  nomatch none

/-- The prepared signature of a function is accounted for up to what strays from the body. -/
theorem within_of_prepareSignature (accounts : program.AccountsFunction loose scope written body)
    (within : ∀ declared ∈ template, declared.Within (Accounts loose scope))
    (obeyed : (accountLimits loose scope).Obeyed false state)
    (prepares : prepareSignature written template body state = .ok prepared after) :
    prepared.Within (Accounts (program.Straying loose (body.body.map .stmt)) scope) := by
  have search : (accountLimits (program.Straying loose (body.body.map .stmt)) scope).Upholds false
      (accountLimits (program.Straying loose (body.body.map .stmt)) scope).WithinOption
      (searchBody body) := Limits.upholds_searchBody body (accounts.body loose)
  have upholds : (accountLimits (program.Straying loose (body.body.map .stmt)) scope).Upholds false
      (·.Within (Accounts (program.Straying loose (body.body.map .stmt)) scope))
      (prepareSignature written template body) :=
    Limits.upholds_inferResult body.firstReturn? (accounts.signature.loosen fun _ => .inl)
      (fun declared among => (within declared among).loosen fun _ => .inl) search
  exact (upholds.of_ok (obeyed_loosen obeyed fun _ => .inl) prepares).1

/-- The checked signature of a function is accounted for up to what strays from the body. -/
theorem within_of_checkFunction
    (admitted : ∀ stmt ∈ body.body,
      (accountLimits (program.Straying loose (body.body.map .stmt)) scope).Admitted (.stmt stmt))
    (withinPrepared : prepared.Within (Accounts loose scope))
    (within : ∀ declared ∈ template, declared.Within (Accounts loose scope))
    (obeyed : (accountLimits loose scope).Obeyed false state)
    (ran : checkFunction prepared template body state = .ok resolved after) :
    resolved.Within (Accounts (program.Straying loose (body.body.map .stmt)) scope) := by
  have checks : (accountLimits (program.Straying loose (body.body.map .stmt)) scope).Upholds true
      (fun _ => True) (checkBody body) := Limits.upholds_checkBody body admitted
  have upholds : (accountLimits (program.Straying loose (body.body.map .stmt)) scope).Upholds false
      (·.Within (Accounts (program.Straying loose (body.body.map .stmt)) scope))
      (checkFunction prepared template body) :=
    Limits.upholds_inFunction (withinPrepared.loosen fun _ => .inl)
      (fun declared among => (within declared among).loosen fun _ => .inl)
      (keeps_checkBody body) checks
  exact (upholds.of_ok (obeyed_loosen obeyed fun _ => .inl) ran).1

end Functions

end Program

end ScriptCheck
