import ScriptCheck.Proofs.Typing.Moment
import ScriptCheck.Proofs.Typing.RenamedScopes

/-!
# What is in the way of a new name

The new name of a variable must not be in use in its function. Even then there are three things that
the renaming can change, since the checker does not keep names apart where it should.

* Type names are looked up where a type is used, also names that come from elsewhere with the type
  of a value. In the scope of the variable, the variable is found in the place of the template.
* The search for a first returned value goes on after a fault, in the scopes that the fault has left
  behind. Variables of a function within can be in the way there.
* The search may come to a call without having bound what is called, and it takes a function of the
  same name from further out.

All three are said of the moments of a check: of those that come after the variable has been bound,
and of those within its function.
-/

namespace ScriptCheck

open Checker

namespace Part

/-- The functions of a part: what is bound in the scope of each before its body, and the body. -/
def functions : Part → List (List String × Block)
  | .expr (.function params body) =>
    [(Renaming.boundNames { result := .infer, params } none, body)]
  | .stmt (.fnDecl declaration) =>
    [(Renaming.boundNames declaration.signature none, declaration.body)]
  | .stmt (.templateDecl _ name attributes declared) =>
    declared.map fun method =>
      (Renaming.boundNames method.signature (some (declaredTemplate name attributes declared)),
        method.body)
  | _ => []

/-- The statements of a function stand in the part that it is a function of. -/
theorem holds_of_functions {part : Part} {function : List String × Block} {stmt : Stmt}
    (among : function ∈ part.functions) (member : stmt ∈ function.2.body) :
    part.Holds (.stmt stmt) := by
  unfold functions at among
  split at among
  · cases List.mem_singleton.mp among
    exact .literalBody _ member
  · cases List.mem_singleton.mp among
    exact .functionBody member
  · rcases List.mem_map.mp among with ⟨method, listed, rfl⟩
    exact .methodBody _ _ _ listed member
  · contradiction

/-- The names that a part binds, reads or calls by itself. -/
def usedNames : Part → List String
  | .expr (.identifier name) => [name]
  | .expr (.call callee _) => callee.name?.toList
  | .stmt (.varDecl _ _ name _ _) => [name]
  | .stmt (.range _ name _ _ _ _) => [name]
  | .stmt (.each _ name _ _) => [name]
  | .stmt (.fnDecl declaration) => [declaration.name]
  | .stmt (.templateDecl _ name _ _) => [name]
  | _ => []

/-- The names that are looked up as those of templates when a function is entered. -/
def enteredNames (signature : Signature) (template : Option Template) : List String :=
  template.elim [] (fun declared => paramNames declared.attributes) ++ paramNames signature.params

/-- The names that are written as those of templates in a part, and looked up with it. -/
def templateNames : Part → List String
  | .expr (.function params _) => Signature.referencedNames { result := .infer, params }
  | .expr (.entity name _) => [name]
  | .stmt (.varDecl _ _ _ declared _) => declared.referencedNames
  | .stmt (.fnDecl declaration) => declaration.signature.referencedNames
  | .stmt (.templateDecl _ name attributes _) => name :: paramNames attributes
  | .function signature template _ => enteredNames signature template
  | .signatures template _ declared =>
    template.name :: paramNames template.attributes ++
      declared.flatMap (·.signature.referencedNames)
  | .methods template _ _ => [template.name]
  | _ => []

/-- What is looked up when a function is entered is written in its signature, or in its
template. -/
theorem mem_of_entered {signature : Signature} {template : Option Template} {name : String}
    (among : name ∈ enteredNames signature template) :
    (∃ declared ∈ template, name ∈ paramNames declared.attributes) ∨
      name ∈ signature.referencedNames := by
  rcases signature with ⟨result, params⟩
  rcases List.mem_append.mp among with inTemplate | param
  · cases template with
    | none => contradiction
    | some declared => exact .inl ⟨declared, rfl, inTemplate⟩
  · exact .inr (List.mem_append_right _ param)

end Part

namespace Moment

/-- A moment that is come to, sooner or later, from another one. -/
abbrev Reaches : Moment → Moment → Prop :=
  Relation.ReflTransGen Leads

/-- The names that are written as those of templates, and looked up at a moment. -/
def typeNames : Moment → List String
  | .check part _ => part.templateNames
  | .search [] _ => []
  | .search (stmt :: _) _ => (Part.stmt stmt).templateNames

/-- The type that is found for an expression is a bare name, which is looked up. -/
inductive Resolves (name : String) : Moment → Prop where
  | read {written : String} {state : CheckState}
      (bound : state.scopes.lookup? .function written = some (.named name)) :
      Resolves name (.check (.expr (.identifier written)) state)
  | element {base index : Expr} {state after : CheckState}
      (ran : checkExpr base state = .ok (.array (.named name)) after) :
      Resolves name (.check (.expr (.index base index)) state)
  | result {callee : Expr} {arguments : List Expr} {state after : CheckState}
      {signature : Signature}
      (ran : calleeSignature callee.name? arguments.length (checkExpr callee) state =
        .ok signature after)
      (isName : signature.result = .named name) :
      Resolves name (.check (.expr (.call callee arguments)) state)
  | member {object : Expr} {written : String} {state after : CheckState} {type : Ty}
      (ran : checkExpr object state = .ok type after)
      (typed : Rule.member type written = .ok (.named name)) :
      Resolves name (.check (.expr (.member object written)) state)
  | methodResult {object : Expr} {method : String} {arguments : List Expr}
      {state after : CheckState} {type : Ty} {signature : Signature}
      (ran : checkExpr object state = .ok type after)
      (typed : Rule.method type method arguments.length = .ok signature)
      (isName : signature.result = .named name) :
      Resolves name (.check (.expr (.methodCall object method arguments)) state)

/-- A name is looked up as the name of a template. -/
def UsesType (name : String) (moment : Moment) : Prop :=
  name ∈ moment.typeNames ∨ moment.Resolves name

/-- A function is called by the given name. -/
inductive Calls (name : String) : Moment → Prop where
  | call (arguments : List Expr) (state : CheckState) :
      Calls name (.check (.expr (.call (.identifier name) arguments)) state)

/-- A search goes on in scopes that a fault has left behind. -/
inductive Strands : Moment → Prop where
  | initializer {position : Position} {id : Nat} {name : String} {initializer : Expr}
      {rest : List Stmt} {state after : CheckState} {diagnostic : Diagnostic}
      (failed : checkExpr initializer (state.movedTo position) = .error diagnostic after)
      (deeper : after.scopes.depth ≠ state.scopes.depth) :
      Strands (.search (.varDecl position id name .infer initializer :: rest) state)

end Moment

namespace Renaming

variable (names : Renaming)

/-- A search goes on in the scope of a name that it has not bound, while one of the two names is
bound further out. -/
inductive Misses : Moment → Prop where
  | passed {position : Position} {id : Nat} {declared : Ty} {initializer : Expr}
      {rest : List Stmt} {state after : CheckState}
      (ran : searchStmt (.varDecl position id names.old declared initializer) state =
        .ok none after)
      (unbound : after.scopes.inner.binds names.old = false)
      (around : ¬names.Unbound after.scopes.outer) :
      Misses (.search (.varDecl position id names.old declared initializer :: rest) state)
  | function {declaration : FnDecl} {rest : List Stmt} {state : CheckState}
      (same : declaration.name = names.old)
      (isOpen : declaration.signature.result.isInfer = true)
      (returns : declaration.body.firstReturn?.any (·.isSome) = true)
      (unbound : state.scopes.inner.binds names.old = false)
      (around : ¬names.Unbound state.scopes.outer) :
      Misses (.search (.fnDecl declaration :: rest) state)

/-- The function of the variable is checked, or searched. -/
inductive Opens : Moment → Prop where
  | check {signature : Signature} {template : Option Template} {body : Block} {state : CheckState}
      (declares : names.declaresIn body = true) :
      Opens (.check (.function signature template body) state)
  | search {body : List Stmt} {state : CheckState} (declares : names.declaresAny body = true) :
      Opens (.search body state)

/-- The variable is bound, or a search passes over it. -/
inductive Binds : Moment → Moment → Prop where
  | check {position : Position} {declared : Ty} {initializer : Expr} {rest : List Stmt}
      {state after : CheckState}
      (ran : checkStmt (.varDecl position names.number names.old declared initializer) state =
        .ok () after) :
      Binds
        (.check (.stmts (.varDecl position names.number names.old declared initializer :: rest))
          state)
        (.check (.stmts rest) after)
  | search {position : Position} {declared : Ty} {initializer : Expr} {rest : List Stmt}
      {state after : CheckState}
      (ran : searchStmt (.varDecl position names.number names.old declared initializer) state =
        .ok none after) :
      Binds
        (.search (.varDecl position names.number names.old declared initializer :: rest) state)
        (.search rest after)

/-- A moment within the function of the variable. -/
def Inside (program : Program) (moment : Moment) : Prop :=
  ∃ start, program.Comes start ∧ names.Opens start ∧ start.Reaches moment

/-- A moment in the scope of the variable. -/
def InScope (program : Program) (moment : Moment) : Prop :=
  ∃ before start, program.Comes before ∧ names.Binds before start ∧ start.Reaches moment

variable {names} in
theorem Inside.comes {program : Program} {moment : Moment} (inside : names.Inside program moment) :
    program.Comes moment := by
  rcases inside with ⟨start, comes, _, reaches⟩
  exact comes.trans reaches

variable {names} in
theorem InScope.comes {program : Program} {moment : Moment}
    (inScope : names.InScope program moment) : program.Comes moment := by
  rcases inScope with ⟨before, start, comes, binds, reaches⟩
  have leads : before.Leads start := by
    cases binds with
    | check ran => exact .visit (.laterStmts _ [] ran)
    | search ran => exact .later ran
  exact (comes.tail leads).trans reaches

/-- A function is called by the old name in the scope of the variable. -/
def Called (program : Program) : Prop :=
  ∃ moment, names.InScope program moment ∧ moment.Calls names.old

/-- The new name is not in use in a part. -/
def Lacks (part : Part) : Prop :=
  ∀ inner, Relation.ReflTransGen Part.Holds part inner →
    names.new ∉ inner.usedNames ∧ ∀ function ∈ inner.functions, names.new ∉ function.1

/-- The new name is free for the variable: it is not in use in its function, and nothing that the
renaming can change happens while the function is checked or searched. -/
structure Harmless (program : Program) : Prop where
  fresh : ∀ part, program.Contains part → ∀ function ∈ part.functions,
    names.declaresIn function.2 = true →
      names.new ∉ function.1 ∧ ∀ stmt ∈ function.2.body, names.Lacks (.stmt stmt)
  types : ∀ moment, names.InScope program moment → ∀ name, moment.UsesType name → names.Apart name
  stays : ∀ moment, names.Inside program moment → ¬moment.Strands
  around : ∀ position id name initializer rest state,
    program.Comes (.search (.varDecl position id name .infer initializer :: rest) state) →
      names.expr [] initializer ≠ initializer →
        ¬Moment.Strands (.search (.varDecl position id name .infer initializer :: rest) state)
  bound : names.Called program → ∀ moment,
    (names.InScope program moment ∨ ∃ next, program.Comes moment ∧ names.Binds moment next) →
      ¬names.Misses moment

/-- A moment in a check of the program, with the scopes that are known there. -/
structure At (program : Program) (shape : Shape) (moment : Moment) : Prop where
  comes : program.Comes moment
  inside : shape ≠ [] → names.Inside program moment
  inScope : shape.Hides → names.InScope program moment

/-- What is asked of a part: the new name is not in use in it, or not in the function of the
variable in it. -/
structure Fits (shape : Shape) (part : Part) : Prop where
  inside : shape ≠ [] → names.Lacks part
  outside : shape = [] → ∀ inner, Relation.ReflTransGen Part.Holds part inner →
    ∀ function ∈ inner.functions, names.declaresIn function.2 = true →
      names.new ∉ function.1 ∧ ∀ stmt ∈ function.2.body, names.Lacks (.stmt stmt)

variable {names} {program : Program} {shape shape' : Shape} {moment after : Moment} {name : String}

namespace At

theorem start : names.At program [] (.check (.stmts program.body) CheckState.initial) :=
  ⟨.refl, fun inside => absurd rfl inside, fun hides => absurd hides Shape.not_hides_nil⟩

/-- The next moment, within the same scope of the variable, and within the same function unless the
function is opened. -/
theorem next (place : names.At program shape moment) (leads : moment.Leads after)
    (inside : shape' ≠ [] → shape ≠ [] ∨ names.Opens after) (hides : shape'.Hides → shape.Hides) :
    names.At program shape' after where
  comes := place.comes.tail leads
  inside some := by
    rcases inside some with within | opens
    · rcases place.inside within with ⟨start, comes, opens, reaches⟩
      exact ⟨start, comes, opens, reaches.tail leads⟩
    · exact ⟨_, place.comes.tail leads, opens, .refl⟩
  inScope inScope := by
    rcases place.inScope (hides inScope) with ⟨before, start, comes, binds, reaches⟩
    exact ⟨before, start, comes, binds, reaches.tail leads⟩

/-- The scopes are known in another way as well. -/
theorem congr (place : names.At program shape moment) (inside : shape' ≠ [] → shape ≠ [])
    (hides : shape'.Hides → shape.Hides) : names.At program shape' moment :=
  ⟨place.comes, fun some => place.inside (inside some),
    fun inScope => place.inScope (hides inScope)⟩

/-- Around a function, its name is bound. -/
theorem named (place : names.At program shape moment) :
    names.At program (names.bound shape name .kept) moment :=
  place.congr names.bound_eq_nil.not.mp names.hides_bound_kept.mp

theorem same (place : names.At program shape moment) (leads : moment.Leads after) :
    names.At program shape after :=
  place.next leads .inl id

/-- In a scope that is entered, the same variables are in scope. -/
theorem enter (place : names.At program shape moment) (leads : moment.Leads after) :
    names.At program (shape.enter none) after :=
  place.next leads (fun some => .inl fun none => some (Shape.enter_eq_nil.mpr none))
    Shape.hides_enter_none.mp

theorem loop (place : names.At program shape moment) (leads : moment.Leads after) :
    names.At program (names.loop shape name) after :=
  place.next leads (fun some => .inl fun none => some (names.loop_eq_nil.mpr none))
    names.hides_loop.mp

/-- Where the old name is bound to something else, the variable is in scope as before. -/
theorem kept (place : names.At program shape moment) (leads : moment.Leads after) :
    names.At program (names.bound shape name .kept) after :=
  place.next leads (fun some => .inl fun none => some (names.bound_eq_nil.mpr none))
    names.hides_bound_kept.mp

theorem binds (place : names.At program shape moment) (leads : moment.Leads after)
    (inside : shape' ≠ [] → shape ≠ []) (binds : names.Binds moment after) :
    names.At program shape' after where
  comes := place.comes.tail leads
  inside some := (place.same leads).inside (inside some)
  inScope _ := ⟨moment, after, place.comes, binds, .refl⟩

section Steps

variable {state past : CheckState}

theorem operands {expr : Expr} (place : names.At program shape (.check (.expr expr) state)) :
    names.At program shape (.check (.exprs expr.operands) state) :=
  place.same (.visit (.operands expr state []))

theorem head {expr : Expr} {rest : List Expr}
    (place : names.At program shape (.check (.exprs (expr :: rest)) state)) :
    names.At program shape (.check (.expr expr) state) :=
  place.same (.visit (.firstExpr expr rest state []))

theorem tail {expr : Expr} {rest : List Expr} {type : Ty}
    (place : names.At program shape (.check (.exprs (expr :: rest)) state))
    (ran : checkExpr expr state = .ok type past) :
    names.At program shape (.check (.exprs rest) past) :=
  place.same (.visit (.laterExprs rest [] ran))

theorem firstStmt {stmt : Stmt} {rest : List Stmt}
    (place : names.At program shape (.check (.stmts (stmt :: rest)) state)) :
    names.At program shape (.check (.stmt stmt) state) :=
  place.same (.visit (.firstStmt stmt rest state []))

theorem stmtOperands {stmt : Stmt} (place : names.At program shape (.check (.stmt stmt) state)) :
    names.At program shape (.check (.exprs stmt.operands) (state.movedTo stmt.position)) :=
  place.same (.visit (.stmtOperands stmt state []))

/-- A variable that is renamed while it is not in scope is the one with the number. -/
theorem number_of_declared {id : Nat} (renamed : names.declared shape id = .renamed)
    (free : ¬shape.Hides) : id = names.number := by
  have unread := Shape.read_ne_of_not_hides free
  rw [declared] at renamed
  cases read : shape.read with
  | some binding =>
      rw [read, Option.getD_some] at renamed
      exact absurd (congrArg some renamed) (read ▸ unread)
  | none =>
      rw [read, Option.getD_none] at renamed
      split at renamed
      · rename_i both
        exact both.1
      · contradiction

/-- Behind a statement, the variable is in scope where it was before, or has just been bound. -/
theorem behind {stmt : Stmt} (place : names.At program shape moment) (leads : moment.Leads after)
    (binds : ∀ position declared initializer,
      stmt = .varDecl position names.number names.old declared initializer →
        names.Binds moment after) : names.At program (names.after shape stmt) after := by
  cases stmt with
  | varDecl position id name declared initializer =>
      rw [Renaming.after]
      by_cases isOld : name = names.old
      case neg =>
        rw [names.bound_of_ne isOld]
        exact place.same leads
      subst isOld
      cases binding : names.declared shape id with
      | kept => exact place.kept leads
      | renamed =>
          have inside : names.bound shape names.old .renamed ≠ [] → shape ≠ [] :=
            names.bound_eq_nil.not.mp
          by_cases hides : shape.Hides
          · exact place.next leads (fun some => .inl (inside some)) fun _ => hides
          · cases number_of_declared binding hides
            exact place.binds leads inside (binds position declared initializer rfl)
  | fnDecl declaration => exact place.kept leads
  | templateDecl position name attributes methods => exact place.kept leads
  | _ => exact place.same leads

theorem laterStmts {stmt : Stmt} {rest : List Stmt}
    (place : names.At program shape (.check (.stmts (stmt :: rest)) state))
    (ran : checkStmt stmt state = .ok () past) :
    names.At program (names.after shape stmt) (.check (.stmts rest) past) := by
  refine place.behind (.visit (.laterStmts rest [] ran)) ?_
  intro position declared initializer same
  subst same
  exact .check ran

theorem later {stmt : Stmt} {rest : List Stmt}
    (place : names.At program shape (.search (stmt :: rest) state))
    (ran : searchStmt stmt state = .ok none past) :
    names.At program (names.after shape stmt) (.search rest past) := by
  refine place.behind (.later ran) fun position declared initializer same => ?_
  subst same
  exact .search ran

theorem function_ne_nil {bound : List String} {body : Block}
    (inside : names.function shape bound body ≠ []) :
    shape ≠ [] ∨ names.declaresIn body = true := by
  rw [Renaming.function] at inside
  split at inside
  · contradiction
  · rename_i both
    by_cases outside : shape = []
    · exact .inr (by simpa [outside] using both)
    · exact .inl outside

/-- A function is checked, which may be the one with the variable. -/
theorem function {bound : List String} {signature : Signature} {template : Option Template}
    {body : Block} (place : names.At program shape moment)
    (leads : moment.Leads (.check (.function signature template body) state)) :
    names.At program (names.function shape bound body)
      (.check (.function signature template body) state) :=
  place.next leads (fun inside => (function_ne_nil inside).imp_right .check)
    names.hides_function.mp

/-- The result of a function is searched for. -/
theorem search {bound : List String} {body : Block} (place : names.At program shape moment)
    (leads : moment.Leads (.search body.body state)) :
    names.At program (names.function shape bound body) (.search body.body state) := by
  rcases body with ⟨position, body⟩
  exact place.next leads (fun inside => (function_ne_nil inside).imp_right .search)
    names.hides_function.mp

end Steps

variable (harmless : names.Harmless program) (place : names.At program shape moment)

include harmless place

/-- A name of a template stands for the same in both runs. -/
theorem steady (uses : moment.UsesType name) : shape.Hides → names.Apart name :=
  fun hides => harmless.types moment (place.inScope hides) name uses

theorem steady_written (written : name ∈ moment.typeNames) : shape.Hides → names.Apart name :=
  place.steady harmless (.inl written)

theorem steady_resolved (resolves : moment.Resolves name) : shape.Hides → names.Apart name :=
  place.steady harmless (.inr resolves)

end At

namespace Fits

variable {part inner : Part}

theorem of_holds (fits : names.Fits shape part) (holds : part.Holds inner)
    (same : shape' = [] ↔ shape = []) : names.Fits shape' inner where
  inside some deeper within := fits.inside (same.not.mp some) deeper (within.head holds)
  outside none deeper within := fits.outside (same.mp none) deeper (within.head holds)

/-- Names that are in use in a part are not the new one. -/
theorem usable (fits : names.Fits shape part) (used : name ∈ part.usedNames) (inside : shape ≠ []) :
    name ≠ names.new := by
  rintro rfl
  exact (fits.inside inside part .refl).1 used

/-- The names that are bound in the scope of a function are not the new one. -/
theorem unbound (fits : names.Fits shape part) {function : List String × Block}
    (among : function ∈ part.functions)
    (inside : names.function shape function.1 function.2 ≠ []) : names.new ∉ function.1 := by
  by_cases outside : shape = []
  · refine (fits.outside outside part .refl function among ?_).1
    by_contra undeclared
    rw [Renaming.function, if_pos ⟨outside, by simpa using undeclared⟩] at inside
    exact inside rfl
  · exact (fits.inside outside part .refl).2 function among

/-- The body of a function fits within the function. -/
theorem body (fits : names.Fits shape part) {function : List String × Block}
    (among : function ∈ part.functions) {stmt : Stmt} (member : stmt ∈ function.2.body)
    (holds : part.Holds (.stmt stmt)) :
    names.Fits (names.function shape function.1 function.2) (.stmt stmt) where
  inside inside := by
    by_cases outside : shape = []
    · refine (fits.outside outside part .refl function among ?_).2 stmt member
      by_contra undeclared
      rw [Renaming.function, if_pos ⟨outside, by simpa using undeclared⟩] at inside
      exact inside rfl
    · exact fun deeper within => fits.inside outside deeper (within.head holds)
  outside unchanged := by
    by_cases outside : shape = []
    · exact fun deeper within => fits.outside outside deeper (within.head holds)
    · rw [Renaming.function, if_neg (fun both => outside both.1)] at unchanged
      exact absurd unchanged (List.cons_ne_nil _ _)

theorem congr (fits : names.Fits shape part) (same : shape' = [] ↔ shape = []) :
    names.Fits shape' part :=
  ⟨fun some => fits.inside (same.not.mp some), fun none => fits.outside (same.mp none)⟩

/-- Around a function, its name is bound. -/
theorem named (fits : names.Fits shape part) (name : String) :
    names.Fits (names.bound shape name .kept) part :=
  fits.congr names.bound_eq_nil

end Fits

/-- What is asked of a function in order to follow its renamed form. -/
structure FunctionFits (names : Renaming) (shape : Shape) (bound : List String) (body : Block) :
    Prop where
  fresh : names.function shape bound body ≠ [] → names.new ∉ bound
  body : ∀ stmt ∈ body.body, names.Fits (names.function shape bound body) (.stmt stmt)

theorem Fits.function {part : Part} (fits : names.Fits shape part)
    {function : List String × Block} (among : function ∈ part.functions)
    (holds : ∀ stmt ∈ function.2.body, part.Holds (.stmt stmt)) :
    names.FunctionFits shape function.1 function.2 where
  fresh := fits.unbound among
  body stmt member := fits.body among member (holds stmt member)

end Renaming

end ScriptCheck
