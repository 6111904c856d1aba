import ScriptCheck.Proofs.Typing.Found
import ScriptCheck.Proofs.Typing.Contents

/-!
# The moments of a check

The search for a first returned value checks expressions as well, in states that no visit has, and
its own effects are undone. A moment is a visit, or a place that a search has come to. `Leads` goes
from a visit to the searches that it makes, and on to the places in the body that is searched and
to the expressions that are checked on the way. A search passes over a variable whose first value
is not accepted, so a moment need not be accepted.

At a moment, a function is read while it is open where its value is taken before its own result is
found. A call by its name would be refused. This happens only under names that open functions and
methods are declared with, so it is said for a choice of names.
-/

namespace ScriptCheck

open Checker

inductive Moment where
  | check (part : Part) (state : CheckState)
  | search (body : List Stmt) (state : CheckState)

/-- The result of a function is searched for in its body. -/
structure Seeks (signature : Signature) (template : Option Template) (body : Block)
    (state inside : CheckState) : Prop where
  isOpen : signature.result.isInfer = true
  returns : body.firstReturn?.any (·.isSome) = true
  entered : enterFunction signature template state = .ok () inside

/-- A signature is prepared without a trace. -/
theorem state_of_inferResult {signature : Signature} {template : Option Template}
    {firstReturn : Option (Option Expr)} {search : Checker (Option Ty)}
    {prepared : Signature} {state after : CheckState}
    (ran : inferResult signature template firstReturn search state = .ok prepared after) :
    after = state := by
  rcases inferResult_apply signature template firstReturn search state with ⟨_, prepares⟩
  rw [prepares] at ran
  exact (EStateM.Result.ok.inj ran).2.symm

namespace Moment

inductive Leads : Moment → Moment → Prop where
  | visit {visit next : Visit} (leads : visit.Leads next) :
      Leads (.check visit.part visit.state) (.check next.part next.state)
  | literal {params : List (String × Ty)} {body : Block} {state inside : CheckState}
      (seeks : Seeks { result := .infer, params } none body state inside) :
      Leads (.check (.expr (.function params body)) state) (.search body.body inside)
  | function {declaration : FnDecl} {state declared inside : CheckState}
      (defined : define declaration.name (.function declaration.signature)
        (state.movedTo declaration.position) = .ok () declared)
      (seeks : Seeks declaration.signature none declaration.body declared inside) :
      Leads (.check (.stmt (.fnDecl declaration)) state) (.search declaration.body.body inside)
  | method {template : Template} {index : Nat} {method : FnDecl} {rest : List FnDecl}
      {state inside : CheckState}
      (seeks : Seeks method.signature (some template) method.body state inside) :
      Leads (.check (.signatures template index (method :: rest)) state)
        (.search method.body.body inside)
  | later {stmt : Stmt} {rest : List Stmt} {state after : CheckState}
      (ran : searchStmt stmt state = .ok none after) :
      Leads (.search (stmt :: rest) state) (.search rest after)
  | returned (position : Position) (expr : Expr) (rest : List Stmt) (state : CheckState) :
      Leads (.search (.returning position (some expr) :: rest) state)
        (.check (.expr expr) (state.movedTo position))
  | initializer (position : Position) (id : Nat) (name : String) (expr : Expr) (rest : List Stmt)
      (state : CheckState) :
      Leads (.search (.varDecl position id name .infer expr :: rest) state)
        (.check (.expr expr) (state.movedTo position))
  | innerFunction {declaration : FnDecl} {rest : List Stmt} {state inside : CheckState}
      (seeks : Seeks declaration.signature none declaration.body
        (state.movedTo declaration.position) inside) :
      Leads (.search (.fnDecl declaration :: rest) state) (.search declaration.body.body inside)
  | block (content : Block) (rest : List Stmt) (state : CheckState) :
      Leads (.search (.block content :: rest) state)
        (.search content.body ((state.movedTo content.position).entered .block))
  | thenBlock (position : Position) (condition : Expr) (thenBlock : Block)
      (elseBlock : Option Block) (rest : List Stmt) (state : CheckState) :
      Leads (.search (.ifElse position condition thenBlock elseBlock :: rest) state)
        (.search thenBlock.body ((state.movedTo position).entered .block))
  | elseBlock {position : Position} {condition : Expr} {thenBlock elseBlock : Block}
      {rest : List Stmt} {state between : CheckState}
      (ran : searchBlock none (searchBody thenBlock) (state.movedTo position) = .ok none between) :
      Leads (.search (.ifElse position condition thenBlock (some elseBlock) :: rest) state)
        (.search elseBlock.body (between.entered .block))
  | whileBody (position : Position) (condition : Expr) (body : Block) (rest : List Stmt)
      (state : CheckState) :
      Leads (.search (.whileLoop position condition body :: rest) state)
        (.search body.body ((state.movedTo position).entered .block))
  | rangeBody {position : Position} {name : String} {first last step : Expr} {body : Block}
      {rest : List Stmt} {state inside : CheckState}
      (defined : define name .int ((state.movedTo position).entered .block) = .ok () inside) :
      Leads (.search (.range position name first last step body :: rest) state)
        (.search body.body inside)
  | iterable (position : Position) (name : String) (iterable : Expr) (body : Block)
      (rest : List Stmt) (state : CheckState) :
      Leads (.search (.each position name iterable body :: rest) state)
        (.check (.expr iterable) (state.movedTo position))
  | eachBody {position : Position} {name : String} {iterable : Expr} {body : Block}
      {rest : List Stmt} {state between inside : CheckState} {element : Ty}
      (ran : checkExpr iterable (state.movedTo position) = .ok (.array element) between)
      (defined : define name element (between.entered .block) = .ok () inside) :
      Leads (.search (.each position name iterable body :: rest) state) (.search body.body inside)

/-- The value of a function is taken by one of the given names, and its result is still to be
found. -/
inductive ReadsOpen (opens : String → Prop) : Moment → Prop where
  | name {name : String} {state : CheckState} {signature : Signature} (opened : opens name)
      (bound : state.scopes.lookup? .function name = some (.function signature))
      (isOpen : signature.result.isInfer = true) :
      ReadsOpen opens (.check (.expr (.identifier name)) state)
  | member {object : Expr} {name : String} {state after : CheckState} {type : Ty}
      {signature : Signature} (opened : opens name) (ran : checkExpr object state = .ok type after)
      (declared : type.member? name = some (.function signature))
      (isOpen : signature.result.isInfer = true) :
      ReadsOpen opens (.check (.expr (.member object name)) state)

/-- From this moment on, no function is read by one of the given names while it is open. -/
def Closed (opens : String → Prop) (moment : Moment) : Prop :=
  ∀ later, Relation.ReflTransGen Leads moment later → ¬later.ReadsOpen opens

variable {opens : String → Prop} {moment after : Moment}

theorem Closed.self (closed : moment.Closed opens) : ¬moment.ReadsOpen opens :=
  closed moment .refl

theorem Closed.next (closed : moment.Closed opens) (leads : moment.Leads after) :
    after.Closed opens :=
  fun later reaches => closed later (reaches.head leads)

namespace Closed

variable {state : CheckState}

theorem operands {expr : Expr} (closed : Closed opens (.check (.expr expr) state)) :
    Closed opens (.check (.exprs expr.operands) state) :=
  closed.next (.visit (.operands expr state []))

theorem head {expr : Expr} {rest : List Expr}
    (closed : Closed opens (.check (.exprs (expr :: rest)) state)) :
    Closed opens (.check (.expr expr) state) :=
  closed.next (.visit (.firstExpr expr rest state []))

theorem tail {expr : Expr} {rest : List Expr} {past : CheckState} {type : Ty}
    (closed : Closed opens (.check (.exprs (expr :: rest)) state))
    (ran : checkExpr expr state = .ok type past) : Closed opens (.check (.exprs rest) past) :=
  closed.next (.visit (.laterExprs rest [] ran))

theorem firstStmt {stmt : Stmt} {rest : List Stmt}
    (closed : Closed opens (.check (.stmts (stmt :: rest)) state)) :
    Closed opens (.check (.stmt stmt) state) :=
  closed.next (.visit (.firstStmt stmt rest state []))

theorem laterStmts {stmt : Stmt} {rest : List Stmt} {past : CheckState}
    (closed : Closed opens (.check (.stmts (stmt :: rest)) state))
    (ran : checkStmt stmt state = .ok () past) : Closed opens (.check (.stmts rest) past) :=
  closed.next (.visit (.laterStmts rest [] ran))

theorem stmtOperands {stmt : Stmt} (closed : Closed opens (.check (.stmt stmt) state)) :
    Closed opens (.check (.exprs stmt.operands) (state.movedTo stmt.position)) :=
  closed.next (.visit (.stmtOperands stmt state []))

end Closed

/-- The bodies of methods are searched where their signatures are prepared. -/
def searched : Part → List Part
  | .signatures _ _ declared => declared.flatMap fun method => method.body.body.map .stmt
  | _ => []

/-- What is checked or searched at a moment is made of these. -/
def roots : Moment → List Part
  | .check part _ => part.roots ++ searched part
  | .search body _ => body.map .stmt

/-- Something stands in what is checked or searched, at any depth. -/
def Includes (moment : Moment) (inner : Part) : Prop :=
  ∃ root ∈ moment.roots, Relation.ReflTransGen Part.Holds root inner

theorem searched_of_leads {visit next : Visit} (leads : visit.Leads next) {root : Part}
    (among : root ∈ searched next.part) : Includes (.check visit.part visit.state) root := by
  cases leads with
  | signatures binders ran =>
      rcases List.mem_flatMap.mp among with ⟨method, member, among⟩
      rcases List.mem_map.mp among with ⟨stmt, inside, rfl⟩
      exact ⟨_, List.mem_append_left _ List.mem_cons_self,
        .single (.methodBody _ _ _ member inside)⟩
  | laterSignatures rest binders prepares =>
      exact ⟨root, List.mem_append_right _ (List.mem_append_right _ among), .refl⟩
  | _ => nomatch among

theorem Leads.includes_root (leads : moment.Leads after) {root : Part}
    (among : root ∈ after.roots) : moment.Includes root := by
  have mapped {Item : Type} {view : Item → Part} {list : List Item}
      (includes : ∀ item ∈ list, moment.Includes (view item)) (among : root ∈ list.map view) :
      moment.Includes root := by
    rcases List.mem_map.mp among with ⟨item, member, rfl⟩
    exact includes item member
  have held {whole held : Part} (member : whole ∈ moment.roots) (holds : whole.Holds held) :
      moment.Includes held := ⟨whole, member, .single holds⟩
  have single {expr : Expr} {state : CheckState} (includes : moment.Includes (.expr expr))
      (among : root ∈ roots (.check (.expr expr) state)) : moment.Includes root := by
    cases List.mem_singleton.mp among
    exact includes
  cases leads with
  | visit leads =>
      rcases List.mem_append.mp among with among | among
      · rcases leads.includes_root among with ⟨origin, member, reaches⟩
        exact ⟨origin, List.mem_append_left _ member, reaches⟩
      · exact searched_of_leads leads among
  | literal seeks =>
      exact mapped (fun stmt member => held List.mem_cons_self (.literalBody _ member)) among
  | function defined seeks =>
      exact mapped (fun stmt member => held List.mem_cons_self (.functionBody member)) among
  | method seeks =>
      exact mapped (fun stmt member => ⟨_, List.mem_append_right _ (List.mem_append_left _
        (List.mem_map_of_mem member)), .refl⟩) among
  | later ran => exact ⟨root, List.mem_cons_of_mem _ among, .refl⟩
  | returned position expr rest state =>
      exact single (held List.mem_cons_self (.stmtOperand List.mem_cons_self)) among
  | initializer position id name expr rest state =>
      exact single (held List.mem_cons_self (.stmtOperand List.mem_cons_self)) among
  | iterable position name iterable body rest state =>
      exact single (held List.mem_cons_self (.stmtOperand List.mem_cons_self)) among
  | innerFunction seeks =>
      exact mapped (fun stmt member => held List.mem_cons_self (.functionBody member)) among
  | elseBlock ran =>
      exact mapped (fun stmt member => held List.mem_cons_self
        (.nested (List.mem_cons_of_mem _ List.mem_cons_self) member)) among
  | block | thenBlock | whileBody | rangeBody | eachBody =>
      exact mapped (fun stmt member =>
        held List.mem_cons_self (.nested List.mem_cons_self member)) among

theorem Leads.includes (leads : moment.Leads after) {inner : Part}
    (includes : after.Includes inner) : moment.Includes inner := by
  rcases includes with ⟨root, among, inside⟩
  rcases leads.includes_root among with ⟨origin, member, reaches⟩
  exact ⟨origin, member, reaches.trans inside⟩

end Moment

/-- A visit or a search that is made while a program is checked. -/
def Program.Comes (program : Program) (moment : Moment) : Prop :=
  Relation.ReflTransGen Moment.Leads (.check (.stmts program.body) CheckState.initial) moment

/-- What is checked or searched stands in the program. -/
theorem Program.contains_of_comes {program : Program} {moment : Moment} {inner : Part}
    (comes : program.Comes moment) (includes : moment.Includes inner) : program.Contains inner := by
  induction comes with
  | refl =>
      rcases includes with ⟨root, among, inside⟩
      rcases List.mem_map.mp ((List.mem_append.mp among).resolve_right nofun) with
        ⟨stmt, member, rfl⟩
      exact ⟨stmt, member, inside⟩
  | tail _ leads ih => exact ih (leads.includes includes)

end ScriptCheck
