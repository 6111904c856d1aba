import ScriptCheck.Proofs.Grammar.DeclarationIds
import ScriptCheck.Proofs.Grammar.MarkedForms
import ScriptCheck.Proofs.Typing.Blamed

/-!
# Names that are defined twice

The parser admits one member of each name in a template. So a name that the checker finds defined
already is given to two parameters of the same function, or to a parameter of a method and to a
member of its template.
-/

namespace ScriptCheck

open Checker

/-- A function in a part has two parameters of the same name, or it is a method with a parameter
that has the name of a member of the template. -/
inductive Part.Duplicates (name : String) : Part → Prop where
  | literal {params : List (String × Ty)} (body : Block)
      (twice : 2 ≤ (params.map (·.1)).count name) : Duplicates name (.expr (.function params body))
  | function {declaration : FnDecl}
      (twice : 2 ≤ (declaration.signature.params.map (·.1)).count name) :
      Duplicates name (.stmt (.fnDecl declaration))
  | method (position : Position) (template : String) (attributes : List (String × Ty))
      {methods : List FnDecl} {method : FnDecl} (among : method ∈ methods)
      (twice : 2 ≤ (method.signature.params.map (·.1)).count name) :
      Duplicates name (.stmt (.templateDecl position template attributes methods))
  | member (position : Position) (template : String) {attributes : List (String × Ty)}
      {methods : List FnDecl} {method : FnDecl} (among : method ∈ methods)
      (param : name ∈ method.signature.params.map (·.1))
      (member : name ∈ attributes.map (·.1) ++ methods.map (·.name)) :
      Duplicates name (.stmt (.templateDecl position template attributes methods))

section Counting

variable {name : String}

theorem boundNames_declaredTemplate (signature : Signature) (template : String)
    (attributes : List (String × Ty)) (methods : List FnDecl) :
    Renaming.boundNames signature (some (declaredTemplate template attributes methods)) =
      (attributes.map (·.1) ++ methods.map (·.name)) ++ signature.params.map (·.1) := by
  simp only [Renaming.boundNames, declaredTemplate, Option.elim_some, List.map_map]
  rfl

/-- A name that stands twice in a list of distinct names and some more is twice among those, or once
in each of the lists. -/
theorem twice_of_count_append {distinct others : List String} (nodup : distinct.Nodup)
    (twice : 2 ≤ (distinct ++ others).count name) :
    2 ≤ others.count name ∨ name ∈ others ∧ name ∈ distinct := by
  have once := List.nodup_iff_count_le_one.mp nodup name
  rw [List.count_append] at twice
  by_cases among : name ∈ distinct
  · exact .inr ⟨List.count_pos_iff.mp (by omega), among⟩
  · rw [List.count_eq_zero_of_not_mem among] at twice
    exact .inl (by omega)

/-- What a function of a part binds twice before its body is a duplicate, where the members of a
template have distinct names. -/
theorem Part.duplicates_of_functions {part : Part} {function : List String × Block}
    (distinct : ∀ stmt, part = .stmt stmt → stmt.memberNames.Nodup)
    (among : function ∈ part.functions) (twice : 2 ≤ function.1.count name) :
    part.Duplicates name := by
  unfold Part.functions at among
  split at among
  · rename_i params body
    cases List.mem_singleton.mp among
    exact .literal body twice
  · rename_i declaration
    cases List.mem_singleton.mp among
    exact .function twice
  · rename_i position template attributes methods
    rcases List.mem_map.mp among with ⟨method, inMethods, rfl⟩
    rw [boundNames_declaredTemplate] at twice
    rcases twice_of_count_append (distinct _ rfl) twice with again | ⟨param, member⟩
    · exact .method position template attributes inMethods again
    · exact .member position template inMethods param member
  · contradiction

end Counting

/-- Any position may be reported, and the names that are duplicated in some parts. -/
def Blame.duplicatesAmong (parts : Part → Prop) : Blame where
  position _ := True
  name name := ∃ part, parts part ∧ part.Duplicates name

theorem Blame.covers_duplicatesAmong {parts : Part → Prop} {part : Part}
    (closed : ∀ held, Relation.ReflTransGen Part.Holds part held → parts held)
    (distinct : ∀ stmt, parts (.stmt stmt) → stmt.memberNames.Nodup) :
    (Blame.duplicatesAmong parts).Covers part := by
  refine ⟨fun _ _ => trivial, ?_⟩
  intro held inside function among name twice
  have reached := closed held inside
  refine ⟨held, reached, Part.duplicates_of_functions ?_ among twice⟩
  rintro stmt rfl
  exact distinct stmt reached

/-- In a program that is parsed the members of each template have distinct names. A name is found
defined already only for a parameter: a statement fails so, whatever is bound around it, only where
it has such a parameter inside, and so does the check of the program. -/
theorem only_params_are_defined_twice {tokens : List Token} {file : String} {program : Program}
    {afterTokens : ParserState} (parsed : Parser.parse tokens file = .ok program afterTokens) :
    (∀ stmt, program.Contains (.stmt stmt) → stmt.memberNames.Nodup) ∧
      (∀ stmt, program.Contains (.stmt stmt) → ∀ state diagnostic after name,
        checkStmt stmt state = .error diagnostic after →
          diagnostic.cause = .naming (.symbolAlreadyDefined name) →
            ∃ part, Relation.ReflTransGen Part.Holds (.stmt stmt) part ∧ part.Duplicates name) ∧
      ∀ diagnostic name, program.check = .error diagnostic →
        diagnostic.cause = .naming (.symbolAlreadyDefined name) →
          ∃ part, program.Contains part ∧ part.Duplicates name := by
  have distinct (stmt : Stmt) (contains : program.Contains (.stmt stmt)) :
      stmt.memberNames.Nodup := (Parser.regular_of_parse parsed contains).distinct
  refine ⟨distinct, ?_, ?_⟩
  · intro stmt contains state diagnostic after name failed cause
    have covers : (Blame.duplicatesAmong _).Covers (.stmt stmt) :=
      Blame.covers_duplicatesAmong (fun _ within => within)
        fun inner within => distinct inner (Program.contains_of_inside contains within)
    have blamed := blames_checkStmt stmt covers state
    rw [failed] at blamed
    exact blamed.name name cause
  · intro diagnostic name refused cause
    have covers (stmt : Stmt) (member : stmt ∈ program.body) :
        (Blame.duplicatesAmong program.Contains).Covers (.stmt stmt) :=
      Blame.covers_duplicatesAmong (fun _ inside => ⟨stmt, member, inside⟩) distinct
    exact (Program.admits_of_check covers refused).name name cause

/-- A function without a name that has two parameters of one name. -/
def twoParamsTokens : List Token :=
  [placeless .funcWord "func", placeless .openBracket "[", placeless .intWord "int",
    placeless .identifier "a", placeless .comma ",", placeless .intWord "int",
    placeless .identifier "a", placeless .closeBracket "]", placeless .arrow ">>",
    placeless .openCurly "\x7b", placeless .closeCurly "\x7d", placeless .semicolon ";"]

def twoParams : Program :=
  ⟨[.expression Position.unknown
    (.function [("a", .int), ("a", .int)] ⟨Position.unknown, []⟩)]⟩

theorem twoParams_duplicate :
    Parser.parse twoParamsTokens "shell" = .ok twoParams (placelessEnd 1024) ∧
      ∃ diagnostic, twoParams.check = .error diagnostic ∧
        diagnostic.cause = .naming (.symbolAlreadyDefined "a") ∧
          ∃ part, twoParams.Contains part ∧ part.Duplicates "a" := by
  have parsed : Parser.parse twoParamsTokens "shell" = .ok twoParams (placelessEnd 1024) := by cbv
  refine ⟨parsed, ⟨.naming (.symbolAlreadyDefined "a"), Position.unknown⟩, rfl, rfl, ?_⟩
  exact (only_params_are_defined_twice parsed).2.2 _ "a" rfl rfl

end ScriptCheck
