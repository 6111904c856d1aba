import ScriptCheck.Proofs.Typing.Visit

/-!
# What stands in the part of a visit

A visit leads only to what stands in its part, and all of that is visited. A name that is bound on
the way by the declaration of a template has that declaration in the part. So a type that is written
in the part is read where no templates are declared but those of the visit and those that the part
declares itself.
-/

namespace ScriptCheck

open Checker

/-- The expressions, statements and types that a part is made of. -/
def Part.roots : Part → List Part
  | .exprs list => list.map .expr
  | .stmts body => body.map .stmt
  | .function _ _ body => body.body.map .stmt
  | .signatures _ _ declared => declared.map fun method => .type (.function method.signature)
  | .methods _ _ declared => declared.flatMap fun method => method.body.body.map .stmt
  | .expr written => [.expr written]
  | .stmt written => [.stmt written]
  | .type written => [.type written]

/-- Something stands in a part, at any depth. -/
def Part.Includes (part inner : Part) : Prop :=
  ∃ root ∈ part.roots, Relation.ReflTransGen Part.Holds root inner

theorem Part.Includes.of_roots {part following inner : Part}
    (roots : ∀ root ∈ following.roots, part.Includes root) (includes : following.Includes inner) :
    part.Includes inner := by
  rcases includes with ⟨root, among, inside⟩
  rcases roots root among with ⟨origin, member, reaches⟩
  exact ⟨origin, member, reaches.trans inside⟩

theorem Part.includes_root {part root : Part} (among : root ∈ part.roots) : part.Includes root :=
  ⟨root, among, .refl⟩

theorem template_notMem_singleton {name : String} (declared : String) {binder : Binder}
    (other : binder ≠ .template) : (name, .template) ∉ [(declared, binder)] := by
  simpa using fun _ => other.symm

/-- No template is bound in the scope of a function before its body is checked. -/
theorem template_notMem_functionBinders {name : String} (signature : Signature)
    (template : Option Template) : (name, .template) ∉ functionBinders signature template := by
  cases template with
  | none => simp [functionBinders]
  | some declared => simp [functionBinders]

namespace Visit

variable {visit next : Visit} {inner : Part}

theorem Leads.includes_root (leads : visit.Leads next) {root : Part}
    (among : root ∈ next.part.roots) : visit.part.Includes root := by
  have held {whole held : Part} (member : whole ∈ visit.part.roots) (holds : whole.Holds held) :
      visit.part.Includes held := ⟨whole, member, .single holds⟩
  have mapped {Item : Type} {view : Item → Part} {list : List Item}
      (includes : ∀ item ∈ list, visit.part.Includes (view item)) (among : root ∈ list.map view) :
      visit.part.Includes root := by
    rcases List.mem_map.mp among with ⟨item, member, rfl⟩
    exact includes item member
  cases leads with
  | firstExpr expr rest state binders =>
      cases List.mem_singleton.mp among
      exact Part.includes_root List.mem_cons_self
  | laterExprs rest binders ran => exact Part.includes_root (List.mem_cons_of_mem _ among)
  | operands expr state binders =>
      exact mapped (fun operand member => held List.mem_cons_self (.operand member)) among
  | literalType params body state binders =>
      cases List.mem_singleton.mp among
      exact held List.mem_cons_self (.literalType params body)
  | literal binders prepares =>
      exact mapped (fun stmt member => held List.mem_cons_self (.literalBody _ member)) among
  | firstStmt stmt rest state binders =>
      cases List.mem_singleton.mp among
      exact Part.includes_root List.mem_cons_self
  | laterStmts rest binders ran => exact Part.includes_root (List.mem_cons_of_mem _ among)
  | stmtOperands stmt state binders =>
      exact mapped (fun operand member => held List.mem_cons_self (.stmtOperand member)) among
  | declaredType id name declared binders ran =>
      cases List.mem_singleton.mp among
      exact held List.mem_cons_self (.declaredType _ id name declared _)
  | block content state binders =>
      exact mapped (fun stmt member =>
        held List.mem_cons_self (.nested List.mem_cons_self member)) among
  | thenBlock thenBlock elseBlock binders ran =>
      exact mapped (fun stmt member =>
        held List.mem_cons_self (.nested List.mem_cons_self member)) among
  | elseBlock elseBlock binders ran ranThen =>
      exact mapped (fun stmt member => held List.mem_cons_self
        (.nested (List.mem_cons_of_mem _ List.mem_cons_self) member)) among
  | whileBody body binders ran =>
      exact mapped (fun stmt member =>
        held List.mem_cons_self (.nested List.mem_cons_self member)) among
  | rangeBody body binders ran defined =>
      exact mapped (fun stmt member =>
        held List.mem_cons_self (.nested List.mem_cons_self member)) among
  | eachBody body binders ran defined =>
      exact mapped (fun stmt member =>
        held List.mem_cons_self (.nested List.mem_cons_self member)) among
  | functionType declaration state binders =>
      cases List.mem_singleton.mp among
      exact held List.mem_cons_self (.functionType declaration)
  | function binders defined prepares =>
      exact mapped (fun stmt member => held List.mem_cons_self (.functionBody member)) among
  | attributeType binders member defined =>
      cases List.mem_singleton.mp among
      exact held List.mem_cons_self (.attributeType _ _ _ member)
  | signatures binders ran =>
      exact mapped (fun method member => held List.mem_cons_self (.methodType _ _ _ member)) among
  | methods binders ran prepares =>
      rcases List.mem_flatMap.mp among with ⟨method, member, among⟩
      exact mapped (fun stmt inside =>
        held List.mem_cons_self (.methodBody _ _ _ member inside)) among
  | methodType template index method rest state binders =>
      cases List.mem_singleton.mp among
      exact Part.includes_root List.mem_cons_self
  | laterSignatures rest binders prepares =>
      exact Part.includes_root (List.mem_cons_of_mem _ among)
  | method template index method rest state binders =>
      exact Part.includes_root (List.mem_append_left _ among)
  | laterMethods rest binders ran => exact Part.includes_root (List.mem_append_right _ among)
  | body body binders ran => exact Part.includes_root among

theorem Leads.includes (leads : visit.Leads next) (includes : next.part.Includes inner) :
    visit.part.Includes inner :=
  includes.of_roots fun _ among => leads.includes_root among

/-- What stands in the part of a later visit stands in that of the first one. -/
theorem Reaches.includes (reaches : visit.Reaches next) (includes : next.part.Includes inner) :
    visit.part.Includes inner := by
  induction reaches with
  | refl => exact includes
  | tail _ leads ih => exact ih (leads.includes includes)

/-- A name that is bound by the declaration of a template has that declaration in the part. -/
theorem Leads.binders_added (leads : visit.Leads next) :
    ∃ added, next.binders = added ++ visit.binders ∧ ∀ name, (name, .template) ∈ added →
      ∃ position attributes methods,
        visit.part.Includes (.stmt (.templateDecl position name attributes methods)) := by
  have unchanged : ∃ added, visit.binders = added ++ visit.binders ∧
      ∀ name, (name, .template) ∈ added → ∃ position attributes methods,
        visit.part.Includes (.stmt (.templateDecl position name attributes methods)) :=
    ⟨[], rfl, fun _ member => absurd member List.not_mem_nil⟩
  cases leads with
  | laterStmts rest binders ran =>
      refine ⟨_, rfl, fun name member => ?_⟩
      rename_i stmt _ _
      cases stmt with
      | templateDecl position declared attributes methods =>
          cases List.mem_singleton.mp member
          exact ⟨position, attributes, methods, Part.includes_root List.mem_cons_self⟩
      | _ => simp [Stmt.binders] at member
  | attributeType | signatures | methods =>
      refine ⟨[_], rfl, fun name member => ?_⟩
      cases List.mem_singleton.mp member
      exact ⟨_, _, _, Part.includes_root List.mem_cons_self⟩
  | rangeBody | eachBody | function =>
      exact ⟨[_], rfl, fun name member =>
        absurd member (template_notMem_singleton _ Binder.noConfusion)⟩
  | body body binders ran =>
      exact ⟨_, rfl, fun name member => absurd member (template_notMem_functionBinders _ _)⟩
  | _ => exact unchanged

theorem Reaches.binders_added (reaches : visit.Reaches next) :
    ∃ added, next.binders = added ++ visit.binders ∧ ∀ name, (name, .template) ∈ added →
      ∃ position attributes methods,
        visit.part.Includes (.stmt (.templateDecl position name attributes methods)) := by
  induction reaches with
  | refl => exact ⟨[], rfl, fun _ member => absurd member List.not_mem_nil⟩
  | tail reaches leads ih =>
      rcases ih with ⟨added, same, declared⟩
      rcases leads.binders_added with ⟨more, sameNext, declaredNext⟩
      refine ⟨more ++ added, by rw [sameNext, same, List.append_assoc], fun name member => ?_⟩
      rcases List.mem_append.mp member with isMore | isOld
      · rcases declaredNext name isMore with ⟨position, attributes, methods, includes⟩
        exact ⟨position, attributes, methods, Reaches.includes reaches includes⟩
      · exact declared name isOld

/-- What stands in a part that is visited later is visited later. -/
theorem Covers.inside {root : Part} (covers : visit.Covers root)
    (inside : Relation.ReflTransGen Part.Holds root inner) (accepted : visit.Accepted) :
    visit.Covers inner := by
  rcases covers with ⟨between, reaches, rfl⟩
  rcases covers_of_inside inside (Reaches.accepted reaches accepted) with
    ⟨next, reachesNext, same⟩
  exact ⟨next, reaches.trans reachesNext, same⟩

/-- All that stands in an accepted part is visited. -/
theorem covers_of_includes (includes : visit.part.Includes inner) (accepted : visit.Accepted) :
    visit.Covers inner := by
  rcases includes with ⟨root, among, inside⟩
  refine Covers.inside ?_ inside accepted
  rcases visit with ⟨part, state, binders⟩
  cases part with
  | exprs list =>
      rcases List.mem_map.mp among with ⟨expr, member, rfl⟩
      exact covers_of_exprs member accepted
  | stmts body =>
      rcases List.mem_map.mp among with ⟨stmt, member, rfl⟩
      exact covers_of_stmts member accepted
  | function signature template body =>
      rcases List.mem_map.mp among with ⟨stmt, member, rfl⟩
      exact covers_of_function member accepted
  | signatures template index methods =>
      rcases List.mem_map.mp among with ⟨method, member, rfl⟩
      exact covers_of_signatures member accepted
  | methods template index methods =>
      rcases List.mem_flatMap.mp among with ⟨method, member, among⟩
      rcases List.mem_map.mp among with ⟨stmt, inBody, rfl⟩
      exact covers_of_methods member inBody accepted
  | _ =>
      cases List.mem_singleton.mp among
      exact ⟨_, .refl, rfl⟩

/-- The body of every method of an accepted template is visited while the template is bound. -/
theorem function_of_methods {template : Template} {index : Nat} {methods : List FnDecl}
    {method : FnDecl} {state : CheckState} {binders : List (String × Binder)}
    (among : method ∈ methods)
    (accepted : Accepted ⟨.methods template index methods, state, binders⟩) :
    ∃ signature owner inside, Reaches ⟨.methods template index methods, state, binders⟩
      ⟨.function signature owner method.body, inside, binders⟩ := by
  induction methods generalizing template index state with
  | nil => contradiction
  | cons first rest ih =>
      rcases List.mem_cons.mp among with rfl | later
      · exact ⟨_, _, _, .single (.method template index method rest state binders)⟩
      · rcases accepted with ⟨after, ran⟩
        rcases ok_of_checkMethods_cons ran with ⟨resolved, checked, ranBody, ranRest⟩
        rcases ih later ⟨after, ranRest⟩ with ⟨signature, owner, inside, reaches⟩
        exact ⟨signature, owner, inside, reaches.head (.laterMethods rest binders ranBody)⟩

end Visit

end ScriptCheck
