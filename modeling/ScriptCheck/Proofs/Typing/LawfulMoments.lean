import ScriptCheck.Proofs.Typing.Moment
import ScriptCheck.Proofs.Typing.Upholding

/-!
# Laws at the moments of a check

Where a law holds for all that a program writes, declares and records, the types in scope keep to it
at every moment of the check of the program, in a search for a first returned value as well.
-/

namespace ScriptCheck.Law

open Checker

variable (law : Law)

/-- What is checked at a moment keeps to the law. -/
def Grants : Part → Prop
  | .exprs list => ∀ expr ∈ list, law.Admitted (.expr expr)
  | .expr written => law.Admitted (.expr written)
  | .stmts body => ∀ stmt ∈ body, law.Admitted (.stmt stmt)
  | .stmt written => law.Admitted (.stmt written)
  | .type _ => True
  | .function signature template body =>
    law.HoldsFor signature ∧ (∀ declared ∈ template, law.Members declared) ∧
      ∀ stmt ∈ body.body, law.Admitted (.stmt stmt)
  | .signatures template _ methods =>
    law.Declarable template ∧ ∀ method ∈ methods, law.AdmittedFunction method
  | .methods template _ methods =>
    law.Declarable template ∧ (∀ method ∈ methods, law.RecordsMethod method.id) ∧
      ∀ method ∈ methods, law.AdmittedFunction method

/-- What is checked or searched at a moment keeps to the law, and so do the types in scope. -/
def Lawful : Moment → Prop
  | .check part state => law.Grants part ∧ law.Obeyed false state
  | .search body state => (∀ stmt ∈ body, law.Admitted (.stmt stmt)) ∧ law.Obeyed false state

variable {law} {moment following : Moment}

section Steps

variable {state after : CheckState}

theorem Admitted.operands {expr : Expr} (admitted : law.Admitted (.expr expr)) (operand : Expr)
    (member : operand ∈ expr.operands) : law.Admitted (.expr operand) :=
  admitted.of_holds (.operand member)

theorem Admitted.stmtOperands {stmt : Stmt} (admitted : law.Admitted (.stmt stmt)) (operand : Expr)
    (member : operand ∈ stmt.operands) : law.Admitted (.expr operand) :=
  admitted.of_holds (.stmtOperand member)

theorem Admitted.nested {stmt : Stmt} (admitted : law.Admitted (.stmt stmt)) {block : Block}
    (among : block ∈ stmt.blocks) (inner : Stmt) (member : inner ∈ block.body) :
    law.Admitted (.stmt inner) :=
  admitted.of_holds (.nested among member)

theorem obeyed_checkExpr {expr : Expr} {type : Ty} (admitted : law.Admitted (.expr expr))
    (obeyed : law.Obeyed false state) (ran : checkExpr expr state = .ok type after) :
    law.Obeyed false after :=
  ((upholds_checkExpr expr admitted).of_ok obeyed ran).2

theorem obeyed_checkExprs {exprs : List Expr} (admitted : ∀ expr ∈ exprs, law.Admitted (.expr expr))
    (obeyed : law.Obeyed false state) (ran : checkExprs exprs state = .ok () after) :
    law.Obeyed false after := by
  induction exprs generalizing state with
  | nil =>
      cases (EStateM.Result.ok.inj ran).2
      exact obeyed
  | cons first rest ih =>
      rcases List.forall_mem_cons.mp admitted with ⟨admittedFirst, admittedRest⟩
      rcases ok_of_checkExprs_cons ran with ⟨type, between, ranFirst, ranRest⟩
      exact ih admittedRest (obeyed_checkExpr admittedFirst obeyed ranFirst) ranRest

/-- A function whose result is searched for is entered within the law. -/
theorem lawful_seeks {signature : Signature} {template : Option Template} {body : Block}
    {inside : CheckState} (holds : law.HoldsFor signature)
    (members : ∀ declared ∈ template, law.Members declared)
    (admitted : ∀ stmt ∈ body.body, law.Admitted (.stmt stmt)) (obeyed : law.Obeyed false state)
    (seeks : Seeks signature template body state inside) :
    law.Lawful (.search body.body inside) := by
  have entered := obeyed_enterFunction holds members obeyed
  rw [seeks.entered] at entered
  exact ⟨admitted, entered.unwatched⟩

theorem holds_prepared {signature prepared : Signature} {template : Option Template} {body : Block}
    (holds : law.HoldsFor signature) (members : ∀ declared ∈ template, law.Members declared)
    (admitted : ∀ stmt ∈ body.body, law.Admitted (.stmt stmt)) (obeyed : law.Obeyed false state)
    (prepares : prepareSignature signature template body state = .ok prepared state) :
    law.HoldsFor prepared :=
  ((upholds_inferResult _ holds members (upholds_searchBody body admitted)).of_ok obeyed
    prepares).1

theorem Declarable.someMembers {template : Template} (declarable : law.Declarable template)
    (declared : Template) (same : declared ∈ some template) : law.Members declared :=
  Option.some.inj same ▸ declarable.members

theorem obeyed_define {name : String} {type : Ty} (holds : law.Holds type)
    (obeyed : law.Obeyed false state) (ran : define name type state = .ok () after) :
    law.Obeyed false after :=
  ((upholds_define name holds).of_ok obeyed ran).2

theorem obeyed_updated (name : String) {type : Ty} (holds : law.Holds type)
    (obeyed : law.Obeyed false state) : law.Obeyed false (state.updated name type) :=
  ((upholds_update name holds).of_ok obeyed (update_apply name type state)).2

theorem obeyed_checkStmt {stmt : Stmt} (admitted : law.Admitted (.stmt stmt))
    (obeyed : law.Obeyed false state) (ran : checkStmt stmt state = .ok () after) :
    law.Obeyed false after :=
  ((upholds_checkStmt stmt admitted).of_ok obeyed ran).2

theorem Obeyed.movedTo (obeyed : law.Obeyed false state) (position : Position) :
    law.Obeyed false (state.movedTo position) :=
  obeyed_iff.mpr ((obeyed_iff.mp obeyed).movedTo position)

theorem Obeyed.entered {kind : ScopeKind} (obeyed : law.Obeyed false state)
    (plain : (Scope.empty kind).isFunction = false) : law.Obeyed false (state.entered kind) :=
  obeyed_iff.mpr ((obeyed_iff.mp obeyed).entered plain)

/-- A method is checked with the signature that has been prepared for it. -/
theorem holds_checkFunction {signature resolved : Signature} {template : Option Template}
    {body : Block} (holds : law.HoldsFor signature)
    (members : ∀ declared ∈ template, law.Members declared)
    (admitted : ∀ stmt ∈ body.body, law.Admitted (.stmt stmt)) (obeyed : law.Obeyed false state)
    (ran : checkFunction signature template body state = .ok resolved after) :
    law.HoldsFor resolved ∧ law.Obeyed false after :=
  (upholds_inFunction holds members (keeps_checkBody body)
    (upholds_checkBody body admitted)).of_ok obeyed ran

/-- A template is declared within the law with a method whose signature has been prepared. -/
theorem Declarable.setMethod {template : Template} (index : Nat) {signature : Signature}
    (declarable : law.Declarable template) (holds : law.HoldsFor signature) :
    law.Declarable (template.setMethod index signature) :=
  ⟨declarable.declares, law.members_setMethod index declarable.members holds⟩

end Steps

section Visits

variable {visit following : Visit}

/-- A visit that the check of a part makes keeps to the law where the part does. -/
theorem lawful_of_leads (leads : visit.Leads following)
    (lawful : law.Lawful (.check visit.part visit.state)) :
    law.Lawful (.check following.part following.state) := by
  rcases lawful with ⟨grants, obeyed⟩
  cases leads with
  | firstExpr expr rest state binders => exact ⟨grants expr List.mem_cons_self, obeyed⟩
  | laterExprs rest binders ran =>
      rcases List.forall_mem_cons.mp grants with ⟨admitted, admittedRest⟩
      exact ⟨admittedRest, obeyed_checkExpr admitted obeyed ran⟩
  | operands expr state binders => exact ⟨Admitted.operands grants, obeyed⟩
  | literalType params body state binders => exact ⟨trivial, obeyed⟩
  | @literal params body state prepared binders prepares =>
      have holds := (Admitted.of_holds grants (.literalType params body)).self
      have admitted (stmt : Stmt) (member : stmt ∈ body.body) : law.Admitted (.stmt stmt) :=
        Admitted.of_holds grants (.literalBody params member)
      refine ⟨⟨?_, members_no_template, admitted⟩, obeyed⟩
      exact holds_prepared holds members_no_template admitted obeyed prepares
  | firstStmt stmt rest state binders => exact ⟨grants stmt List.mem_cons_self, obeyed⟩
  | laterStmts rest binders ran =>
      rcases List.forall_mem_cons.mp grants with ⟨admitted, admittedRest⟩
      exact ⟨admittedRest, obeyed_checkStmt admitted obeyed ran⟩
  | stmtOperands stmt state binders =>
      exact ⟨Admitted.stmtOperands grants, obeyed.movedTo stmt.position⟩
  | declaredType id name declared binders ran =>
      refine ⟨trivial, obeyed_checkExpr ?_ (obeyed.movedTo _) ran⟩
      exact Admitted.stmtOperands grants _ List.mem_cons_self
  | block content state binders =>
      exact ⟨Admitted.nested grants List.mem_cons_self, (obeyed.movedTo _).entered rfl⟩
  | thenBlock thenBlock elseBlock binders ran =>
      have condition := obeyed_checkExpr (Admitted.stmtOperands grants _ List.mem_cons_self)
        (obeyed.movedTo _) ran
      exact ⟨Admitted.nested grants List.mem_cons_self, condition.entered rfl⟩
  | elseBlock elseBlock binders ran ranThen =>
      have condition := obeyed_checkExpr (Admitted.stmtOperands grants _ List.mem_cons_self)
        (obeyed.movedTo _) ran
      have past := (upholds_within rfl (keeps_checkBody _) (upholds_checkBody _
        (Admitted.nested grants List.mem_cons_self))).of_ok condition ranThen
      refine ⟨Admitted.nested grants ?_, past.2.entered rfl⟩
      exact List.mem_cons_of_mem _ List.mem_cons_self
  | whileBody body binders ran =>
      have condition := obeyed_checkExpr (Admitted.stmtOperands grants _ List.mem_cons_self)
        (obeyed.movedTo _) ran
      exact ⟨Admitted.nested grants List.mem_cons_self, condition.entered rfl⟩
  | rangeBody body binders ran defined =>
      have parts := obeyed_checkExprs (Admitted.stmtOperands grants) (obeyed.movedTo _) ran
      refine ⟨Admitted.nested grants List.mem_cons_self, ?_⟩
      exact obeyed_define (law.primitive .int) (parts.entered rfl) defined
  | eachBody body binders ran defined =>
      have iterable := (upholds_checkExpr _
        (Admitted.stmtOperands grants _ List.mem_cons_self)).of_ok (obeyed.movedTo _) ran
      refine ⟨Admitted.nested grants List.mem_cons_self, ?_⟩
      exact obeyed_define ((law.array_iff _).mp iterable.1) (iterable.2.entered rfl) defined
  | functionType declaration state binders => exact ⟨trivial, obeyed.movedTo _⟩
  | function binders defined prepares =>
      have function := Admitted.function grants
      have named := obeyed_define function.signature (obeyed.movedTo _) defined
      have prepared := holds_prepared function.signature members_no_template function.body named
        prepares
      exact ⟨⟨prepared, members_no_template, function.body⟩, obeyed_updated _ prepared named⟩
  | attributeType binders member defined =>
      exact ⟨trivial, obeyed_define (Admitted.template grants).holds (obeyed.movedTo _) defined⟩
  | signatures binders ran =>
      have declared := (upholds_declareTemplate (Admitted.template grants).holds).of_ok
        (obeyed.movedTo _) ran
      exact ⟨⟨Admitted.template grants, fun _ among => Admitted.method grants among⟩, declared.2⟩
  | methods binders ran prepares =>
      have declared := (upholds_declareTemplate (Admitted.template grants).holds).of_ok
        (obeyed.movedTo _) ran
      have ready := (upholds_prepareMethods _ 0 _ (Admitted.template grants)
        fun _ among => Admitted.method grants among).of_ok declared.2 prepares
      exact ⟨⟨ready.1, grants.self.2, fun _ among => Admitted.method grants among⟩, ready.2⟩
  | methodType template index method rest state binders => exact ⟨trivial, obeyed⟩
  | @laterSignatures template index method rest state signature binders prepares =>
      rcases grants with ⟨declarable, functions⟩
      rcases List.forall_mem_cons.mp functions with ⟨function, later⟩
      have prepared := holds_prepared function.signature declarable.someMembers function.body
        obeyed prepares
      have updated := declarable.setMethod index prepared
      exact ⟨⟨updated, later⟩, obeyed_updated _ updated.holds obeyed⟩
  | method template index method rest state binders =>
      rcases grants with ⟨declarable, records, functions⟩
      have function := functions method List.mem_cons_self
      refine ⟨⟨?_, declarable.someMembers, function.body⟩, obeyed⟩
      exact holds_preparedMethod index declarable.members function.signature
  | @laterMethods template index method rest state past resolved binders ran =>
      rcases grants with ⟨declarable, records, functions⟩
      rcases List.forall_mem_cons.mp functions with ⟨function, later⟩
      have prepared := holds_preparedMethod index declarable.members function.signature
      have checked := holds_checkFunction prepared declarable.someMembers function.body obeyed ran
      have updated := declarable.setMethod index checked.1
      rcases List.forall_mem_cons.mp records with ⟨recordsFirst, recordsRest⟩
      refine ⟨⟨updated, recordsRest, later⟩, ?_⟩
      have named := obeyed_updated template.name updated.holds checked.2
      exact ⟨named.symbols, named.nearest, recordsFirst _ _ named.records checked.1⟩
  | body body binders ran =>
      rcases grants with ⟨holds, members, admitted⟩
      have inside := obeyed_enterFunction holds members obeyed
      rw [ran] at inside
      exact ⟨admitted, inside.unwatched⟩

end Visits

/-- What keeps to the law at a moment does so at the next one. -/
theorem Lawful.next (lawful : law.Lawful moment) (leads : moment.Leads following) :
    law.Lawful following := by
  cases leads with
  | visit leads => exact lawful_of_leads leads lawful
  | @literal params body state inside seeks =>
      rcases lawful with ⟨grants, obeyed⟩
      have holds := (Admitted.of_holds grants (.literalType params body)).self
      refine lawful_seeks holds members_no_template (fun stmt member => ?_) obeyed seeks
      exact Admitted.of_holds grants (.literalBody params member)
  | function defined seeks =>
      rcases lawful with ⟨grants, obeyed⟩
      have function := Admitted.function grants
      have named := obeyed_define function.signature (obeyed.movedTo _) defined
      exact lawful_seeks function.signature members_no_template function.body named seeks
  | method seeks =>
      rcases lawful with ⟨⟨declarable, functions⟩, obeyed⟩
      have function := functions _ List.mem_cons_self
      exact lawful_seeks function.signature declarable.someMembers function.body obeyed seeks
  | later ran =>
      rcases lawful with ⟨grants, obeyed⟩
      rcases List.forall_mem_cons.mp grants with ⟨admitted, admittedRest⟩
      exact ⟨admittedRest, ((upholds_searchStmt _ admitted).of_ok obeyed ran).2⟩
  | returned position expr rest state =>
      rcases lawful with ⟨grants, obeyed⟩
      refine ⟨Admitted.stmtOperands (grants _ List.mem_cons_self) expr ?_, obeyed.movedTo _⟩
      exact List.mem_cons_self
  | initializer position id name expr rest state =>
      rcases lawful with ⟨grants, obeyed⟩
      refine ⟨Admitted.stmtOperands (grants _ List.mem_cons_self) expr ?_, obeyed.movedTo _⟩
      exact List.mem_cons_self
  | innerFunction seeks =>
      rcases lawful with ⟨grants, obeyed⟩
      have function := Admitted.function (grants _ List.mem_cons_self)
      exact lawful_seeks function.signature members_no_template function.body
        (obeyed.movedTo _) seeks
  | block content rest state =>
      rcases lawful with ⟨grants, obeyed⟩
      refine ⟨Admitted.nested (grants _ List.mem_cons_self) List.mem_cons_self, ?_⟩
      exact (obeyed.movedTo _).entered rfl
  | thenBlock position condition thenBlock elseBlock rest state =>
      rcases lawful with ⟨grants, obeyed⟩
      refine ⟨Admitted.nested (grants _ List.mem_cons_self) List.mem_cons_self, ?_⟩
      exact (obeyed.movedTo _).entered rfl
  | elseBlock ran =>
      rcases lawful with ⟨grants, obeyed⟩
      have admitted := grants _ List.mem_cons_self
      have unbound (entry : String × Ty) (impossible : entry ∈ (none : Option (String × Ty))) :
          law.Holds entry.2 := absurd impossible (by simp)
      have between := (upholds_searchBlock unbound
        (upholds_searchBody _ (Admitted.nested admitted List.mem_cons_self))).of_ok
        (obeyed.movedTo _) ran
      refine ⟨Admitted.nested admitted ?_, between.2.entered rfl⟩
      exact List.mem_cons_of_mem _ List.mem_cons_self
  | whileBody position condition body rest state =>
      rcases lawful with ⟨grants, obeyed⟩
      refine ⟨Admitted.nested (grants _ List.mem_cons_self) List.mem_cons_self, ?_⟩
      exact (obeyed.movedTo _).entered rfl
  | rangeBody defined =>
      rcases lawful with ⟨grants, obeyed⟩
      refine ⟨Admitted.nested (grants _ List.mem_cons_self) List.mem_cons_self, ?_⟩
      exact obeyed_define (law.primitive .int) ((obeyed.movedTo _).entered rfl) defined
  | iterable position name iterable body rest state =>
      rcases lawful with ⟨grants, obeyed⟩
      refine ⟨Admitted.stmtOperands (grants _ List.mem_cons_self) iterable ?_, obeyed.movedTo _⟩
      exact List.mem_cons_self
  | eachBody ran defined =>
      rcases lawful with ⟨grants, obeyed⟩
      have admitted := grants _ List.mem_cons_self
      have iterable := (upholds_checkExpr _
        (Admitted.stmtOperands admitted _ List.mem_cons_self)).of_ok (obeyed.movedTo _) ran
      refine ⟨Admitted.nested admitted List.mem_cons_self, ?_⟩
      exact obeyed_define ((law.array_iff _).mp iterable.1) (iterable.2.entered rfl) defined

/-- All moments of the check of a program keep to a law that the program keeps to. -/
theorem lawful_of_comes {program : Program}
    (admitted : ∀ stmt ∈ program.body, law.Admitted (.stmt stmt))
    (records : law.Records CheckState.initial.analysis) (comes : program.Comes moment) :
    law.Lawful moment := by
  induction comes with
  | refl =>
      refine ⟨admitted, fun symbol member => ?_, ?_, records⟩
      · exact absurd member List.not_mem_nil
      · simp
  | tail _ leads ih => exact Lawful.next ih leads

end ScriptCheck.Law
