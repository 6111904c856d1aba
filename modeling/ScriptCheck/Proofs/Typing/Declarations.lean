import ScriptCheck.Proofs.Typing.Binding
import ScriptCheck.Proofs.Typing.Contents
import ScriptCheck.Proofs.Typing.Mention

/-!
# Declared templates in scope

The names in scope that are bound by the declarations of templates give the templates that a mention
can come from, with the names and attributes that are written there. A mention in the type of a name
is accounted for by a declaration that is no later than the name, in the same scope or in one around
it.

Other mentions have got loose. A type that is found for some code, such as the signature of a
function with its result, can mention a template that is declared in the code itself and not in
scope. And a type name that is written where a value is bound to the name does not stand for a
declared template at all. From there on the mention is loose: in the statement where it has got
loose, and in what follows that statement.
-/

namespace ScriptCheck

open Checker

/-- The name and the attributes with which a template is declared. -/
abbrev Declaration := String × List (String × Ty)

/-- What the declaration of a template has bound. -/
def Binder.declaration? : Binder → Ty → Option Declaration
  | .template, .template declared => some (declared.name, declared.attributes)
  | _, _ => none

/-- The declarations of templates among the names in scope, the latest first. -/
def declarations (binders : List (String × Binder)) (symbols : List (String × Ty)) :
    List Declaration :=
  (binders.zip symbols).filterMap fun entry => entry.1.2.declaration? entry.2.2

/-- The declarations of templates that are in scope at a visit. -/
def Visit.declared (visit : Visit) : List Declaration :=
  declarations visit.binders visit.state.scopes.symbols

/-- A mention can come from a declaration: it has the same name and, if it is a copy, the same
attributes. -/
def Mention.From (declaration : Declaration) : Mention → Prop
  | .name written => written = declaration.1
  | .template copy => copy.name = declaration.1 ∧ copy.attributes = declaration.2

/-- Something stands in the given code, at any depth. -/
def Part.Inside (code : List Part) (inner : Part) : Prop :=
  ∃ root ∈ code, Relation.ReflTransGen Part.Holds root inner

namespace Visit

/-- A type that is found at a visit, with the code that it is found for: a type that is written, the
type of an expression, and the signature of a function before and after its body is checked. -/
inductive Finds (visit : Visit) : List Part → Ty → Prop where
  | written {type : Ty} (isType : visit.part = .type type) : Finds visit [.type type] type
  | typed {expr : Expr} {type : Ty} {after : CheckState} (isExpr : visit.part = .expr expr)
      (ran : checkExpr expr visit.state = .ok type after) : Finds visit [.expr expr] type
  | prepared {signature : Signature} {template : Option Template} {body : Block}
      (isFunction : visit.part = .function signature template body) :
      Finds visit (body.body.map .stmt) (.function signature)
  | preparedMethod {template : Template} {index : Nat} {method : FnDecl} {rest : List FnDecl}
      {signature : Signature} {after : CheckState}
      (isList : visit.part = .signatures template index (method :: rest))
      (prepares : prepareSignature method.signature (some template) method.body visit.state =
        .ok signature after) : Finds visit (method.body.body.map .stmt) (.function signature)
  | checked {signature resolved : Signature} {template : Option Template} {body : Block}
      {after : CheckState} (isFunction : visit.part = .function signature template body)
      (ran : checkFunction signature template body visit.state = .ok resolved after) :
      Finds visit (body.body.map .stmt) (.function resolved)

/-- The second visit is made from the first one, and not in the body of a function that is checked
on the way. -/
abbrev ReachesAround : Visit → Visit → Prop :=
  Relation.ReflTransGen fun visit next => visit.Leads next ∧
    ∀ signature template body, visit.part ≠ .function signature template body

end Visit

namespace Program

variable (program : Program)

/-- A program declares a template somewhere. -/
def Declares (declaration : Declaration) : Prop :=
  ∃ position methods,
    program.Contains (.stmt (.templateDecl position declaration.1 declaration.2 methods))

/-- What code can mention besides the templates that are declared around it: those that it declares
itself, and the type names in it that are written where a value is bound to them. -/
inductive Strays (code : List Part) : Mention → Prop where
  | declared {position : Position} {methods : List FnDecl} {mention : Mention}
      (declaration : Declaration) (inside : Part.Inside code
        (.stmt (.templateDecl position declaration.1 declaration.2 methods)))
      (origin : mention.From declaration) : Strays code mention
  | confused {visit : Visit} {written : Ty} {name : String} {binder : Binder}
      (inside : Part.Inside code (.type written)) (visits : program.Visits visit)
      (isType : visit.part = .type written) (mentioned : .name name ∈ written.mentions)
      (bound : visit.binders.lookup name = some binder) (isValue : binder.isValue = true) :
      Strays code (.name name)

/-- A mention gets loose at a visit: a type that is found there mentions it, the code that the type
is found for is where it comes from, and no declaration in scope is. -/
def Frees (visit : Visit) (mention : Mention) : Prop :=
  ∃ code type, visit.Finds code type ∧ mention ∈ type.mentions ∧ program.Strays code mention ∧
    ∀ declaration ∈ visit.declared, ¬ mention.From declaration

/-- A mention is loose at a visit: it has got loose in a statement that stands around the visit, or
in front of it in a list of statements around it, and not in the body of a function in this
statement. -/
def Loose (visit : Visit) (mention : Mention) : Prop :=
  ∃ (stmt : Stmt) (rest : List Stmt) (state : CheckState) (binders : List (String × Binder)),
    program.Visits ⟨.stmts (stmt :: rest), state, binders⟩ ∧
      Visit.Reaches ⟨.stmts (stmt :: rest), state, binders⟩ visit ∧
      ∃ origin, Visit.ReachesAround ⟨.stmt stmt, state, binders⟩ origin ∧
        program.Frees origin mention

end Program

/-- A mention comes from one of the declarations in scope, if it is not loose. -/
def Accounts (loose : Mention → Prop) (scope : List Declaration) (mention : Mention) : Prop :=
  (∃ declaration ∈ scope, mention.From declaration) ∨ loose mention

/-- The type of every name is accounted for by the declarations that are no later. -/
def AccountsAll (loose : Mention → Prop) : List (String × Binder) → List (String × Ty) → Prop
  | binder :: binders, symbol :: symbols =>
    symbol.2.Within (Accounts loose (declarations (binder :: binders) (symbol :: symbols))) ∧
      AccountsAll loose binders symbols
  | _, _ => True

section Lists

variable {binder : String × Binder} {binders : List (String × Binder)}
variable {symbol : String × Ty} {symbols : List (String × Ty)} {declaration : Declaration}

theorem declarations_cons (binder : String × Binder) (binders : List (String × Binder))
    (symbol : String × Ty) (symbols : List (String × Ty)) :
    declarations (binder :: binders) (symbol :: symbols) =
      (binder.2.declaration? symbol.2).toList ++ declarations binders symbols := by
  rw [declarations, List.zip_cons_cons, List.filterMap_cons]
  cases binder.2.declaration? symbol.2 with
  | none => rfl
  | some declaration => rfl

theorem declarations_append {added : List (String × Binder)} {addedSymbols : List (String × Ty)}
    (sameLength : added.length = addedSymbols.length) :
    declarations (added ++ binders) (addedSymbols ++ symbols) =
      declarations added addedSymbols ++ declarations binders symbols := by
  rw [declarations, List.zip_append sameLength, List.filterMap_append]
  rfl

/-- Only what a template declaration has bound is a declaration. -/
theorem declarations_of_notMem (plain : ∀ name, (name, .template) ∉ binders) :
    declarations binders symbols = [] := by
  refine List.filterMap_eq_nil_iff.mpr fun entry member => ?_
  rcases entry with ⟨⟨name, binder⟩, symbol⟩
  have other : binder ≠ .template := by
    rintro rfl
    exact plain name (List.of_mem_zip member).1
  cases binder with
  | template => contradiction
  | _ => rfl

/-- A declaration is that of a name in scope. -/
theorem name_mem_of_mem_declarations (stand : List.Forall₂ Stands binders symbols)
    (member : declaration ∈ declarations binders symbols) :
    (declaration.1, .template) ∈ binders ∧ ∃ template : Template,
      (declaration.1, .template template) ∈ symbols ∧ template.attributes = declaration.2 := by
  induction stand with
  | nil => contradiction
  | @cons binder symbol binders symbols stands _ ih =>
      rw [declarations_cons] at member
      rcases List.mem_append.mp member with here | later
      · rcases binder with ⟨name, binder⟩
        rcases symbol with ⟨other, type⟩
        rcases stands with ⟨rfl, fits⟩
        cases binder with
        | template =>
            rcases fits with ⟨template, rfl, rfl⟩
            cases List.mem_singleton.mp here
            exact ⟨List.mem_cons_self, template, List.mem_cons_self, rfl⟩
        | _ => contradiction
      · rcases ih later with ⟨bound, template, found, same⟩
        exact ⟨List.mem_cons_of_mem _ bound, template, List.mem_cons_of_mem _ found, same⟩

/-- What the declaration of a template has bound is a declaration in scope. -/
theorem mem_declarations_of_name_mem {name : String} (stand : List.Forall₂ Stands binders symbols)
    (member : (name, .template) ∈ binders) :
    ∃ declaration ∈ declarations binders symbols, declaration.1 = name := by
  induction stand with
  | nil => contradiction
  | @cons binder symbol binders symbols stands _ ih =>
      rw [declarations_cons]
      rcases List.mem_cons.mp member with rfl | later
      · rcases symbol with ⟨other, type⟩
        rcases stands with ⟨rfl, template, rfl, rfl⟩
        exact ⟨(template.name, template.attributes), List.mem_cons_self, rfl⟩
      · rcases ih later with ⟨declaration, found, same⟩
        exact ⟨declaration, List.mem_append_right _ found, same⟩

end Lists

section Accounting

variable {loose more : Mention → Prop} {scope larger : List Declaration} {mention : Mention}
variable {binders : List (String × Binder)} {symbols : List (String × Ty)}

theorem Accounts.mono (accounts : Accounts loose scope mention)
    (subset : ∀ declaration ∈ scope, declaration ∈ larger) : Accounts loose larger mention := by
  rcases accounts with ⟨declaration, member, origin⟩ | isLoose
  · exact .inl ⟨declaration, subset declaration member, origin⟩
  · exact .inr isLoose

theorem Accounts.loosen (accounts : Accounts loose scope mention)
    (looser : ∀ mention, loose mention → more mention) : Accounts more scope mention :=
  accounts.imp_right (looser mention)

theorem AccountsAll.loosen (accounts : AccountsAll loose binders symbols)
    (looser : ∀ mention, loose mention → more mention) : AccountsAll more binders symbols := by
  induction binders generalizing symbols with
  | nil => trivial
  | cons binder rest ih =>
      cases symbols with
      | nil => trivial
      | cons symbol later =>
          exact ⟨accounts.1.mono fun mention accounted => accounted.loosen looser,
            ih accounts.2⟩

/-- All types in scope are accounted for by the declarations in scope. -/
theorem AccountsAll.within (accounts : AccountsAll loose binders symbols)
    (stand : List.Forall₂ Stands binders symbols) {symbol : String × Ty}
    (member : symbol ∈ symbols) :
    symbol.2.Within (Accounts loose (declarations binders symbols)) := by
  induction stand with
  | nil => contradiction
  | @cons binder first binders symbols _ _ ih =>
      rcases List.mem_cons.mp member with rfl | later
      · exact accounts.1
      · refine (ih accounts.2 later).mono fun mention accounted => accounted.mono ?_
        intro declaration found
        rw [declarations_cons]
        exact List.mem_append_right _ found

/-- Names may be added with types that the declarations in scope account for. -/
theorem AccountsAll.append {added : List (String × Binder)} {addedSymbols : List (String × Ty)}
    (accounts : AccountsAll loose binders symbols)
    (sameLength : added.length = addedSymbols.length)
    (within : ∀ symbol ∈ addedSymbols,
      symbol.2.Within (Accounts loose (declarations binders symbols))) :
    AccountsAll loose (added ++ binders) (addedSymbols ++ symbols) := by
  induction added generalizing addedSymbols with
  | nil =>
      rw [List.eq_nil_of_length_eq_zero sameLength.symm]
      exact accounts
  | cons binder rest ih =>
      cases addedSymbols with
      | nil => contradiction
      | cons symbol later =>
          rcases List.forall_mem_cons.mp within with ⟨withinFirst, withinRest⟩
          have lengths : rest.length = later.length := Nat.succ.inj sameLength
          refine ⟨withinFirst.mono fun mention accounted => accounted.mono ?_,
            ih lengths withinRest⟩
          intro declaration found
          show declaration ∈
            declarations (binder :: (rest ++ binders)) (symbol :: (later ++ symbols))
          rw [declarations_cons, declarations_append lengths]
          exact List.mem_append_right _ (List.mem_append_right _ found)

/-- The type of a name is accounted for by the declarations that are no later than the name. -/
theorem AccountsAll.getElem (accounts : AccountsAll loose binders symbols)
    (stand : List.Forall₂ Stands binders symbols) {index : Nat} {symbol : String × Ty}
    (found : symbols[index]? = some symbol) :
    symbol.2.Within
      (Accounts loose (declarations (binders.drop index) (symbols.drop index))) := by
  induction stand generalizing index with
  | nil => contradiction
  | cons _ _ ih =>
      cases index with
      | zero =>
          cases Option.some.inj found
          exact accounts.1
      | succ index => exact ih accounts.2 found

end Accounting

end ScriptCheck
