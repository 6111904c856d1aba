import Mathlib
import ScriptCheck.Proofs.Grammar.MarkedForms
import ScriptCheck.Proofs.Typing.ScopedTemplates

/-!
# Where templates come from

In an accepted program, a template that is mentioned at a visit comes from a declaration in scope,
and two mentions of one name come from the same declaration. In the type of a name the declaration
is no later than the name. It is looked up by its name, unless something else has been given that
name later.

This fails for a mention that has got loose. A function with an open result can have a result that
mentions a template of its body, and the result carries the template out of its scope. Where another
template of the same name is declared later, the two are taken for the same, since templates agree
where their names do. Nothing else is loose: the mention stands in a type that was found for the
code that it strays from, in a statement around the visit or in front of it.
-/

namespace ScriptCheck

open Checker

/-- The declarations of templates that are no later than the name at the given place. -/
def Visit.declaredUpTo (visit : Visit) (index : Nat) : List Declaration :=
  declarations (visit.binders.drop index) (visit.state.scopes.symbols.drop index)

/-- What a visit mentions: in the types of the names in scope, and in the types that are found
there. -/
inductive Visit.Mentions (visit : Visit) : Mention → Prop where
  | symbol {symbol : String × Ty} {mention : Mention}
      (member : symbol ∈ visit.state.scopes.symbols) (mentioned : mention ∈ symbol.2.mentions) :
      Mentions visit mention
  | found {code : List Part} {type : Ty} {mention : Mention} (finds : visit.Finds code type)
      (mentioned : mention ∈ type.mentions) : Mentions visit mention

/-- The templates that are mentioned at a visit are declared in scope, each by one declaration, if
they are not loose there. -/
structure Program.KeepsTemplates (program : Program) (visit : Visit) : Prop where
  symbols : ∀ (index : Nat) (symbol : String × Ty),
    visit.state.scopes.symbols[index]? = some symbol →
      symbol.2.Within (Accounts (program.Loose visit) (visit.declaredUpTo index))
  mentions : ∀ mention, visit.Mentions mention →
    Accounts (program.Loose visit) visit.declared mention
  declared : ∀ declaration ∈ visit.declared, program.Declares declaration
  visible : ∀ index, ∀ declaration ∈ visit.declaredUpTo index,
    (visit.binders.drop index).lookup declaration.1 = some .template →
      ∃ template : Template, template.name = declaration.1 ∧
        template.attributes = declaration.2 ∧
        (visit.state.scopes.symbols.drop index).lookup declaration.1 = some (.template template)
  origin : ∀ first second, visit.Mentions first → visit.Mentions second →
    first.templateName = second.templateName →
      (∃ declaration ∈ visit.declared, first.From declaration ∧ second.From declaration) ∨
        program.Loose visit first ∨ program.Loose visit second

section Lists

variable {binders : List (String × Binder)} {symbols : List (String × Ty)}
variable {first second : Mention} {declaration : Declaration}

theorem Mention.From.templateName_eq (origin : first.From declaration) :
    first.templateName = declaration.1 := by
  cases first with
  | name written => exact origin
  | template copy => exact origin.1

/-- Declarations with distinct names are told apart by what is mentioned. -/
theorem eq_of_from {scope : List Declaration} (distinct : (scope.map (·.1)).Nodup)
    {other : Declaration} (member : declaration ∈ scope) (memberOther : other ∈ scope)
    (origin : first.From declaration) (originOther : second.From other)
    (same : first.templateName = second.templateName) : declaration = other := by
  refine List.inj_on_of_nodup_map distinct member memberOther ?_
  rw [← origin.templateName_eq, same, originOther.templateName_eq]

theorem declarations_drop_sublist (binders : List (String × Binder)) (symbols : List (String × Ty))
    (index : Nat) :
    (declarations (binders.drop index) (symbols.drop index)).Sublist
      (declarations binders symbols) := by
  rw [declarations, List.zip_eq_zipWith, ← List.drop_zipWith]
  exact (List.drop_sublist index _).filterMap _

/-- What is looked up where a declaration is not hidden is what it has bound. -/
theorem template_of_lookup (stand : List.Forall₂ Stands binders symbols)
    (distinct : ((declarations binders symbols).map (·.1)).Nodup)
    (member : declaration ∈ declarations binders symbols)
    (bound : binders.lookup declaration.1 = some .template) :
    ∃ template : Template, template.name = declaration.1 ∧
      template.attributes = declaration.2 ∧
      symbols.lookup declaration.1 = some (.template template) := by
  induction stand with
  | nil => contradiction
  | @cons binder symbol binders symbols stands _ ih =>
      rcases binder with ⟨name, binder⟩
      rcases symbol with ⟨other, type⟩
      rcases stands with ⟨same, fits⟩
      cases same
      rw [declarations_cons] at distinct member
      rw [List.lookup_cons] at bound ⊢
      by_cases here : declaration.1 = name
      · rw [here, beq_self_eq_true] at bound ⊢
        cases Option.some.inj bound
        rcases fits with ⟨template, rfl, named⟩
        have declares : (template.name, template.attributes) = declaration := by
          refine List.inj_on_of_nodup_map distinct List.mem_cons_self member ?_
          exact named.trans here.symm
        subst declares
        exact ⟨template, here, rfl, rfl⟩
      · have skipped : (declaration.1 == name) = false := beq_eq_false_iff_ne.mpr here
        rw [skipped] at bound ⊢
        refine ih ?_ ?_ bound
        · rw [List.map_append] at distinct
          exact distinct.of_append_right
        · rcases List.mem_append.mp member with first | later
          · cases binder with
            | template =>
                rcases fits with ⟨template, rfl, named⟩
                cases List.mem_singleton.mp first
                exact absurd named here
            | _ => contradiction
          · exact later

end Lists

section Visits

variable {program : Program} {analysis : Analysis} {visit : Visit}

/-- At every visit the names in scope are accounted for. -/
theorem Visit.accounted_of_visits (accepted : program.check = .ok analysis)
    (plain : program.WritesNoCopies) (visits : program.Visits visit) :
    visit.Accounted program (program.Loose visit) := by
  induction visits with
  | refl => exact ⟨⟨trivial, .nil, fun _ member => nomatch member⟩, trivial⟩
  | tail visits leads ih => exact leads.accounted accepted plain visits ih

/-- A type that is found at a visit is accounted for. -/
theorem Visit.Finds.within (accepted : program.check = .ok analysis)
    (plain : program.WritesNoCopies) (visits : program.Visits visit) {code : List Part} {type : Ty}
    (finds : visit.Finds code type) :
    type.Within (Accounts (program.Loose visit) visit.declared) := by
  have accounted := Visit.accounted_of_visits accepted plain visits
  have absorbs (notList : ∀ body, visit.part ≠ .stmts body) :
      program.Absorbs (program.Loose visit) visit :=
    Program.absorbs_of_visits visits notList .refl
  rcases visit with ⟨part, state, binders⟩
  cases finds with
  | written isType =>
      cases isType
      exact Program.within_of_type accepted plain visits (absorbs nofun)
  | typed isExpr ran =>
      cases isExpr
      exact Program.within_of_expr accepted plain visits (absorbs nofun) accounted.scope ran
  | prepared isFunction =>
      cases isFunction
      exact (Ty.within_function _).mpr accounted.part.1
  | preparedMethod isList prepares =>
      cases isList
      exact (Ty.within_function _).mpr
        (accounted.within_preparedMethod visits (absorbs nofun) prepares)
  | checked isFunction ran =>
      cases isFunction
      exact (Ty.within_function _).mpr
        (Program.within_of_function accepted plain visits (absorbs nofun) accounted ran)

/-- What a visit mentions is accounted for. -/
theorem Program.accounts_of_mentions (accepted : program.check = .ok analysis)
    (plain : program.WritesNoCopies) (visits : program.Visits visit) {mention : Mention}
    (mentions : visit.Mentions mention) :
    Accounts (program.Loose visit) visit.declared mention := by
  cases mentions with
  | symbol member mentioned =>
      exact (Visit.accounted_of_visits accepted plain visits).scope.types.within
        (Visit.linked_of_visits visits).stand member mention mentioned
  | found finds mentioned => exact finds.within accepted plain visits mention mentioned

/-- Templates stay in the scopes of their declarations, apart from the mentions that have got loose
in a type that was found before. -/
theorem templates_stay_in_scope (accepted : program.check = .ok analysis)
    (plain : program.WritesNoCopies) (visits : program.Visits visit) :
    program.KeepsTemplates visit := by
  have scope := (Visit.accounted_of_visits accepted plain visits).scope
  have stand := (Visit.linked_of_visits visits).stand
  have accounts (mention : Mention) (mentions : visit.Mentions mention) :=
    Program.accounts_of_mentions accepted plain visits mentions
  refine ⟨fun index symbol found => scope.types.getElem stand found, accounts, scope.declared,
    fun index declaration member bound => ?_, fun first second inFirst inSecond same => ?_⟩
  · have kept := declarations_drop_sublist visit.binders visit.state.scopes.symbols index
    exact template_of_lookup (List.forall₂_drop index stand)
      (scope.distinct.sublist (kept.map _)) member bound
  · rcases accounts first inFirst with ⟨declaration, member, origin⟩ | loose
    · rcases accounts second inSecond with ⟨other, memberOther, originOther⟩ | loose
      · cases eq_of_from scope.distinct member memberOther origin originOther same
        exact .inl ⟨declaration, member, origin, originOther⟩
      · exact .inr (.inr loose)
    · exact .inr (.inl loose)

end Visits

theorem Program.writesNoCopies_of_parse {program : Program} {tokens : List Token} {file : String}
    {after : ParserState} (parsed : Parser.parse tokens file = .ok program after) :
    program.WritesNoCopies :=
  fun _ contains => Parser.noCopies_of_parse parsed contains

/-- A template that mentions itself, a function from it to itself, and a variable of it. -/
def keptTemplate : Program :=
  ⟨[.templateDecl Position.unknown "N" [("next", .array (.named "N"))] [],
    .fnDecl ⟨Position.unknown, 0, "f", { result := .named "N", params := [("n", .named "N")] },
      ⟨Position.unknown, [.returning Position.unknown (some (.identifier "n"))]⟩⟩,
    .varDecl Position.unknown 1 "m" (.named "N")
      (.call (.identifier "f") [.entity "N" [("next", .array [])]])]⟩

def keptTemplateParts : List Part :=
  keptTemplate.body.map .stmt ++
    [.type (.array (.named "N")),
      .type (.function { result := .named "N", params := [("n", .named "N")] }),
      .stmt (.returning Position.unknown (some (.identifier "n"))), .expr (.identifier "n"),
      .type (.named "N"), .expr (.call (.identifier "f") [.entity "N" [("next", .array [])]]),
      .expr (.entity "N" [("next", .array [])]), .expr (.array [])]

theorem keptTemplate_writesNoCopies : keptTemplate.WritesNoCopies := by
  rintro type ⟨stmt, member, within⟩ copy
  have among : .type type ∈ keptTemplateParts := by
    refine Part.mem_of_inside ?_ (List.mem_append_left _ (List.mem_map_of_mem member)) within
    simp [keptTemplateParts, keptTemplate, Part.inner, Expr.operands, Stmt.operands, Stmt.blocks,
      Expr.name?]
  simp only [keptTemplateParts, keptTemplate, List.map_cons, List.map_nil, List.cons_append,
    List.nil_append, List.mem_cons, Part.type.injEq, reduceCtorEq, false_or, or_false,
    List.not_mem_nil] at among
  rcases among with rfl | rfl | rfl <;> simp [Ty.mentions, Signature.mentions, mentionsIn]

theorem keptTemplate_stays_in_scope :
    ∃ analysis, keptTemplate.check = .ok analysis ∧ keptTemplate.WritesNoCopies ∧
      ∀ visit, keptTemplate.Visits visit → keptTemplate.KeepsTemplates visit := by
  have accepted : ∃ analysis, keptTemplate.check = .ok analysis := ⟨_, rfl⟩
  rcases accepted with ⟨analysis, ran⟩
  have plain := keptTemplate_writesNoCopies
  exact ⟨analysis, ran, plain, fun visit visits => templates_stay_in_scope ran plain visits⟩

/-- A function that declares a template and returns a value of it, and a value of another template
of the same name. -/
def leavingTemplate : Program :=
  ⟨[.fnDecl ⟨Position.unknown, 0, "f", { result := .infer, params := [] }, ⟨Position.unknown,
      [.templateDecl Position.unknown "T" [("a", .int)] [],
        .returning Position.unknown (some (.entity "T" [("a", .integer 1)]))]⟩⟩,
    .templateDecl Position.unknown "T" [("a", .str)] [],
    .varDecl Position.unknown 1 "t" (.named "T") (.call (.identifier "f") [])]⟩

/-- A template leaves the scope of its declaration with the result of a function. It is not declared
where the function has been declared, and later it is taken for a template with other attributes. -/
theorem template_leaves_function :
    (∃ analysis, leavingTemplate.check = .ok analysis) ∧ ∃ copy other : Template,
      (∃ visit type, leavingTemplate.Visits visit ∧ ("f", type) ∈ visit.state.scopes.symbols ∧
        .template copy ∈ type.mentions ∧
        visit.state.scopes.lookup? .everywhere copy.name = none) ∧
      (∃ visit type, leavingTemplate.Visits visit ∧ ("f", type) ∈ visit.state.scopes.symbols ∧
        .template copy ∈ type.mentions ∧
        visit.state.scopes.lookup? .everywhere copy.name = some (.template other)) ∧
      copy.attributes ≠ other.attributes ∧
      (Ty.template copy).agrees (.template other) = true := by
  have afterFunction : leavingTemplate.Visits _ := .single (.laterStmts _ _ rfl)
  have afterTemplate : leavingTemplate.Visits _ := afterFunction.tail (.laterStmts _ _ rfl)
  refine ⟨⟨_, rfl⟩, ⟨"T", [("a", .int)], []⟩, ⟨"T", [("a", .str)], []⟩,
    ⟨_, _, afterFunction, List.mem_cons_self, List.mem_cons_self, rfl⟩,
    ⟨_, _, afterTemplate, List.mem_cons_of_mem _ List.mem_cons_self, List.mem_cons_self, rfl⟩,
    ?_, rfl⟩
  simp [Ty.int, Ty.str]

end ScriptCheck
