import ScriptCheck.Proofs.Typing.Abandoned
import ScriptCheck.Proofs.Typing.LawfulMoments
import ScriptCheck.Proofs.Typing.Mention
import ScriptCheck.Proofs.Typing.RenamedCheck
import ScriptCheck.Proofs.Typing.Run

/-!
# Names of local variables

One variable of an accepted program may get another name, with everything that reads or calls it,
and the findings stay the same. The new name must not be in use in the function of the variable, and
the checker must not have a reason to mix up names there. Such a reason does not come up where no
type in the program mentions a template of the old or the new name, variables without a written type
start with values in which no function stands, and nothing is called by the old name.

Without this the renaming may fail, also where the new name is not in use in the function. The
result of a called function may be named like the variable, and the name is looked up where the
function is called.
-/

namespace ScriptCheck

open Checker

/-- Where nothing is in the way of the new name, the renamed program is accepted with the same
findings. -/
theorem renamed_variable_checks_alike {names : Renaming} {program : Program} {analysis : Analysis}
    (accepted : program.check = .ok analysis) (harmless : names.Harmless program) :
    (names.program program).check = .ok analysis := by
  have fits (stmt : Stmt) (member : stmt ∈ program.body) : names.Fits [] (.stmt stmt) := by
    refine ⟨fun inside => absurd rfl inside, fun _ inner within function among declares => ?_⟩
    exact harmless.fresh inner ⟨stmt, member, within⟩ function among declares
  have outcomes := Renaming.alike_checkStmts harmless program.body fits .start (.refl _)
  rcases Program.ok_of_check accepted with ⟨after, ran, rfl⟩
  unfold Program.check
  rw [Renaming.program]
  rw [ran] at outcomes
  generalize checkStmts (names.stmts [] program.body) CheckState.initial = renamed at outcomes ⊢
  cases outcomes with
  | ok same states => exact congrArg Except.ok states.analysis.symm

namespace Renaming

variable (names : Renaming)

/-- The law that types mention neither of the two names. -/
def law : Law where
  toTypeLaw := mentionLaw fun mention => names.Apart mention.templateName
  Records _ := True

/-- What the text of a program shows: the new name is not in use, nothing is called by the old one,
neither of them is that of a template, and no function stands in the first value of a variable
without a written type. -/
structure Clear (program : Program) : Prop where
  unused : ∀ part, program.Contains part →
    names.new ∉ part.usedNames ∧ ∀ function ∈ part.functions, names.new ∉ function.1
  uncalled : ∀ arguments, ¬program.Contains (.expr (.call (.identifier names.old) arguments))
  types : ∀ type, program.Contains (.type type) →
    type.Within fun mention => names.Apart mention.templateName
  templates : ∀ part, program.Contains part → ∀ name ∈ part.templateNames, names.Apart name
  flat : ∀ position id name initializer,
    program.Contains (.stmt (.varDecl position id name .infer initializer)) → initializer.IsFlat

variable {names} {program : Program} {moment : Moment} {name : String}

theorem apart_of_mentioned {type : Ty} (holds : names.law.Holds type)
    (mentioned : name ∈ type.referencedNames) : names.Apart name :=
  holds _ (Ty.name_mem_mentions type mentioned)

/-- What is looked up when a function is entered is written in its signature or its template. -/
theorem apart_of_entered {signature : Signature} {template : Option Template}
    (holds : names.law.HoldsFor signature)
    (members : ∀ declared ∈ template, names.law.Members declared)
    (entered : name ∈ Part.enteredNames signature template) : names.Apart name := by
  rcases Part.mem_of_entered entered with ⟨declared, among, inAttributes⟩ | written
  · rcases mem_mentionsIn.mp (name_mem_mentionsIn _ inAttributes) with ⟨entry, member, mentioned⟩
    exact (members declared among).1 entry member _ mentioned
  · exact apart_of_mentioned holds written

/-- Names that are written for templates are apart from both names. -/
theorem apart_of_typeNames (lawful : names.law.Lawful moment)
    (written : ∀ part, moment.Includes part → ∀ name ∈ part.templateNames, names.Apart name)
    (among : name ∈ moment.typeNames) : names.Apart name := by
  have declared {template : Template} (declarable : names.law.Declarable template) :
      names.Apart template.name :=
    ((Ty.within_template template).mp declarable.holds).1
  cases moment with
  | search body state =>
      cases body with
      | nil => contradiction
      | cons first rest => exact written _ ⟨_, List.mem_cons_self, .refl⟩ name among
  | check part state =>
      rcases lawful with ⟨grants, -⟩
      cases part with
      | exprs list => contradiction
      | stmts body => contradiction
      | type type => contradiction
      | expr expr => exact written _ ⟨_, List.mem_cons_self, .refl⟩ name among
      | stmt stmt => exact written _ ⟨_, List.mem_cons_self, .refl⟩ name among
      | function signature template body => exact apart_of_entered grants.1 grants.2.1 among
      | methods template index methods =>
          cases List.mem_singleton.mp among
          exact declared grants.1
      | signatures template index methods =>
          rcases grants with ⟨declarable, functions⟩
          rcases List.mem_append.mp among with inTemplate | inMethods
          · rcases List.mem_cons.mp inTemplate with rfl | inAttributes
            · exact declared declarable
            · rcases mem_mentionsIn.mp (name_mem_mentionsIn _ inAttributes) with
                ⟨entry, member, mentioned⟩
              exact declarable.members.1 entry member _ mentioned
          · rcases List.mem_flatMap.mp inMethods with ⟨method, member, mentioned⟩
            exact apart_of_mentioned (functions method member).signature mentioned

/-- Names that are found as the types of values are apart from both names. -/
theorem apart_of_resolves (lawful : names.law.Lawful moment) (resolves : moment.Resolves name) :
    names.Apart name := by
  have named (holds : names.law.Holds (.named name)) : names.Apart name :=
    (Ty.within_named name).mp holds
  have result {signature : Signature} (holds : names.law.HoldsFor signature)
      (isName : signature.result = .named name) : names.Apart name :=
    named (isName ▸ ((names.law.function_iff signature).mp holds).1)
  cases resolves with
  | read bound => exact named ((Law.obeyed_iff.mp lawful.2).lookup? bound)
  | @element base index state after ran =>
      have found := (Law.upholds_checkExpr base
        (Law.Admitted.operands lawful.1 base List.mem_cons_self)).of_ok lawful.2 ran
      exact named ((names.law.array_iff _).mp found.1)
  | @result callee arguments state after signature ran isName =>
      have value (isName : callee.name? = none) :
          names.law.Upholds false names.law.Holds (checkExpr callee) := by
        refine Law.upholds_checkExpr callee (Law.Admitted.operands lawful.1 callee ?_)
        simp [Expr.operands, isName]
      have upholds := Law.upholds_calleeSignature callee.name? arguments.length value
      exact result (upholds.of_ok lawful.2 ran).1 isName
  | @member object written state after type ran typed =>
      have found := (Law.upholds_checkExpr object
        (Law.Admitted.operands lawful.1 object List.mem_cons_self)).of_ok lawful.2 ran
      exact named (names.law.holds_member found.1 typed)
  | @methodResult object method arguments state after type signature ran typed isName =>
      have found := (Law.upholds_checkExpr object
        (Law.Admitted.operands lawful.1 object List.mem_cons_self)).of_ok lawful.2 ran
      exact result (names.law.holds_method found.1 typed) isName

namespace Clear

variable (clear : names.Clear program)

include clear

theorem admitted (stmt : Stmt) (member : stmt ∈ program.body) :
    names.law.Admitted (.stmt stmt) := by
  intro part inside
  have contains : program.Contains part := ⟨stmt, member, inside⟩
  cases part with
  | type written => exact clear.types written contains
  | stmt held =>
      cases held with
      | varDecl position id name declared initializer => exact fun _ _ _ _ _ => trivial
      | fnDecl declaration => exact fun _ _ _ _ _ _ => trivial
      | templateDecl position name attributes methods =>
          refine ⟨?_, fun _ _ _ _ _ _ => trivial⟩
          rintro template rfl - members
          have apart := clear.templates _ contains _ List.mem_cons_self
          exact (Ty.within_template template).mpr ⟨apart, (mentionLaw_members template).mp members⟩
      | _ => trivial
  | _ => trivial

/-- Every name that is looked up as that of a template is apart from both names. -/
theorem apart (comes : program.Comes moment) (uses : moment.UsesType name) : names.Apart name := by
  have lawful : names.law.Lawful moment := Law.lawful_of_comes clear.admitted trivial comes
  rcases uses with written | resolves
  · exact apart_of_typeNames lawful
      (fun part includes => clear.templates part (program.contains_of_comes comes includes)) written
  · exact apart_of_resolves lawful resolves

/-- No search leaves a scope behind. -/
theorem stays (comes : program.Comes moment) : ¬moment.Strands := by
  rintro ⟨failed, deeper⟩
  have contains := program.contains_of_comes comes ⟨_, List.mem_cons_self, .refl⟩
  have flat := clear.flat _ _ _ _ contains
  have level := (unwinds_checkExpr _ fun _ : True => flat).level trivial _ _ _ failed
  exact deeper (congrArg ScopeStack.depth level.symm)

theorem uncalled_at (comes : program.Comes moment) : ¬moment.Calls names.old := by
  rintro ⟨arguments, state⟩
  exact clear.uncalled arguments (program.contains_of_comes comes ⟨_, List.mem_cons_self, .refl⟩)

theorem harmless : names.Harmless program where
  fresh part contains function among _ := by
    refine ⟨(clear.unused part contains).2 function among, fun stmt member inner within => ?_⟩
    have held := Program.contains_of_holds contains (Part.holds_of_functions among member)
    exact clear.unused inner (Program.contains_of_inside held within)
  types _ inScope _ := clear.apart inScope.comes
  stays _ inside := clear.stays inside.comes
  around _ _ _ _ _ _ comes _ := clear.stays comes
  bound called := by
    rcases called with ⟨moment, inScope, calls⟩
    exact absurd calls (clear.uncalled_at inScope.comes)

end Clear

end Renaming

/-- A function where one variable is declared in a block, another one of the same name behind it,
and a function between them has a parameter of this name. -/
def namesakes (name : String) : Program :=
  ⟨[.fnDecl ⟨Position.unknown, 0, "f", { result := .infer, params := [("n", .int)] },
    ⟨Position.unknown,
      [.block ⟨Position.unknown,
          [.varDecl Position.unknown 1 name .int (.identifier "n"),
            .echo Position.unknown (.identifier name)]⟩,
        .fnDecl ⟨Position.unknown, 2, "g", { result := .int, params := [("x", .int)] },
          ⟨Position.unknown, [.returning Position.unknown (some (.identifier "x"))]⟩⟩,
        .varDecl Position.unknown 3 "x" .infer (.call (.identifier "g") [.identifier "n"]),
        .returning Position.unknown (some (.identifier "x"))]⟩⟩]⟩

def namesakeRenaming : Renaming := ⟨1, "x", "z"⟩

/-- What stands in the program. -/
def namesakeParts : List Part :=
  (namesakes "x").body.map .stmt ++
    [.type (.function { result := .infer, params := [("n", .int)] }),
      .stmt (.block ⟨Position.unknown,
        [.varDecl Position.unknown 1 "x" .int (.identifier "n"),
          .echo Position.unknown (.identifier "x")]⟩),
      .stmt (.varDecl Position.unknown 1 "x" .int (.identifier "n")), .type .int,
      .expr (.identifier "n"), .stmt (.echo Position.unknown (.identifier "x")),
      .expr (.identifier "x"),
      .stmt (.fnDecl ⟨Position.unknown, 2, "g", { result := .int, params := [("x", .int)] },
        ⟨Position.unknown, [.returning Position.unknown (some (.identifier "x"))]⟩⟩),
      .type (.function { result := .int, params := [("x", .int)] }),
      .stmt (.returning Position.unknown (some (.identifier "x"))),
      .stmt (.varDecl Position.unknown 3 "x" .infer
        (.call (.identifier "g") [.identifier "n"])),
      .type .infer, .expr (.call (.identifier "g") [.identifier "n"])]

theorem mem_namesakeParts {part : Part} (contains : (namesakes "x").Contains part) :
    part ∈ namesakeParts := by
  rcases contains with ⟨stmt, member, within⟩
  refine Part.mem_of_inside ?_ (List.mem_append_left _ (List.mem_map_of_mem member)) within
  simp [namesakeParts, namesakes, Part.inner, Expr.operands, Stmt.operands, Stmt.blocks,
    Expr.name?]

theorem namesakes_clear : namesakeRenaming.Clear (namesakes "x") where
  unused part contains := by
    have unused : ∀ part ∈ namesakeParts, namesakeRenaming.new ∉ part.usedNames ∧
        ∀ function ∈ part.functions, namesakeRenaming.new ∉ function.1 := by
      simp [namesakeParts, namesakes, namesakeRenaming, Part.usedNames, Part.functions,
        Renaming.boundNames, Expr.name?]
    exact unused part (mem_namesakeParts contains)
  uncalled arguments contains := by
    have among := mem_namesakeParts contains
    simp [namesakeParts, namesakes, namesakeRenaming] at among
  types type contains := by
    have among := mem_namesakeParts contains
    simp only [namesakeParts, namesakes, List.map_cons, List.map_nil, List.cons_append,
      List.nil_append, List.mem_cons, Part.type.injEq, reduceCtorEq, false_or, or_false,
      List.not_mem_nil] at among
    rcases among with rfl | rfl | rfl | rfl <;>
      simp [Ty.Within, Ty.mentions, Signature.mentions, mentionsIn]
  templates part contains := by
    have names : ∀ part ∈ namesakeParts, part.templateNames = [] := by
      simp [namesakeParts, namesakes, Part.templateNames, Signature.referencedNames,
        Ty.referencedNames, paramNames]
    simp [names part (mem_namesakeParts contains)]
  flat position id name initializer contains params body within := by
    have held := Program.contains_of_holds contains (.stmtOperand List.mem_cons_self)
    have among := mem_namesakeParts (Program.contains_of_inside held within)
    simp [namesakeParts, namesakes] at among

/-- One variable of three with this name is renamed. -/
theorem renamed_namesake_checks_alike :
    (namesakes "x").check.isOk = true ∧
      namesakeRenaming.program (namesakes "x") = namesakes "z" ∧
      (namesakes "z").check = (namesakes "x").check := by
  have accepted : (namesakes "x").check.isOk = true := by decide +kernel
  have renamed : namesakeRenaming.program (namesakes "x") = namesakes "z" := rfl
  refine ⟨accepted, renamed, ?_⟩
  cases ran : (namesakes "x").check with
  | error diagnostic =>
      rw [ran] at accepted
      contradiction
  | ok analysis =>
      rw [← renamed]
      exact renamed_variable_checks_alike ran namesakes_clear.harmless

/-- A function with a variable, which calls a function that returns a value of a template. -/
def hidingFunction (name : String) : FnDecl :=
  ⟨Position.unknown, 1, "g", { result := .int, params := [] }, ⟨Position.unknown,
    [.varDecl Position.unknown 2 name .int (.integer 1),
      .returning Position.unknown (some (.member (.call (.identifier "f") []) "a"))]⟩⟩

def hidingProgram (name : String) : Program :=
  ⟨[.templateDecl Position.unknown "T" [("a", .int)] [],
    .fnDecl ⟨Position.unknown, 0, "f", { result := .named "T", params := [] }, ⟨Position.unknown,
      [.returning Position.unknown (some (.entity "T" [("a", .integer 1)]))]⟩⟩,
    .fnDecl (hidingFunction name)]⟩

def hidingRenaming : Renaming := ⟨2, "x", "T"⟩

/-- What stands in the function with the variable. -/
def hidingParts : List Part :=
  [.stmt (.fnDecl (hidingFunction "x")), .type (.function { result := .int, params := [] }),
    .stmt (.varDecl Position.unknown 2 "x" .int (.integer 1)), .type .int, .expr (.integer 1),
    .stmt (.returning Position.unknown (some (.member (.call (.identifier "f") []) "a"))),
    .expr (.member (.call (.identifier "f") []) "a"), .expr (.call (.identifier "f") [])]

theorem mem_hidingParts {part : Part}
    (inside : Relation.ReflTransGen Part.Holds (.stmt (.fnDecl (hidingFunction "x"))) part) :
    part ∈ hidingParts := by
  refine Part.mem_of_inside ?_ List.mem_cons_self inside
  simp [hidingParts, hidingFunction, Part.inner, Expr.operands, Stmt.operands, Stmt.blocks,
    Expr.name?]

/-- The new name is not in use in the function, and no type that is written there names it. But the
type of the called function does. So the program is refused once the variable has been renamed. -/
theorem renamed_variable_hides_template :
    (hidingProgram "x").check.isOk = true ∧
      hidingRenaming.program (hidingProgram "x") = hidingProgram "T" ∧
      hidingRenaming.Lacks (.stmt (.fnDecl (hidingFunction "x"))) ∧
      (∀ part, Relation.ReflTransGen Part.Holds (.stmt (.fnDecl (hidingFunction "x"))) part →
        hidingRenaming.new ∉ part.templateNames) ∧
      (hidingProgram "T").check =
        .error { cause := .typing (.notATemplate "T"), position := Position.unknown } := by
  refine ⟨rfl, rfl, fun part inside => ?_, fun part inside => ?_, rfl⟩
  · have unused : ∀ part ∈ hidingParts, hidingRenaming.new ∉ part.usedNames ∧
        ∀ function ∈ part.functions, hidingRenaming.new ∉ function.1 := by
      simp [hidingParts, hidingFunction, hidingRenaming, Part.usedNames, Part.functions,
        Renaming.boundNames, Expr.name?]
    exact unused part (mem_hidingParts inside)
  · have unnamed : ∀ part ∈ hidingParts, hidingRenaming.new ∉ part.templateNames := by
      simp [hidingParts, hidingFunction, Part.templateNames, Signature.referencedNames,
        Ty.referencedNames, paramNames]
    exact unnamed part (mem_hidingParts inside)

end ScriptCheck
