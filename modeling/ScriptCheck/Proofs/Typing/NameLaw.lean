import ScriptCheck.Proofs.Grammar.ShownTypes
import ScriptCheck.Proofs.Reporting
import ScriptCheck.Proofs.Typing.Upholding

/-!
# The names in types are identifiers

In a program that is parsed from tokens, the names of templates and parameters come from
identifiers, which are no reserved words. All types that the check comes by are made out of the
written ones, and the parameters of the fixed methods of sets and maps have names of this kind as
well. So no type in scope has any other name in it.
-/

namespace ScriptCheck

/-- All names in a type are identifiers. -/
def Ty.Spelled (type : Ty) : Prop :=
  type.Named fun name => isName name = true

/-- The law that the names in types are identifiers. Nothing is asked of what is recorded. -/
def nameLaw : Law where
  Holds := Ty.Spelled
  Allows name := isName name = true
  allows name among := by
    simp only [List.mem_cons, List.not_mem_nil, or_false] at among
    rcases among with rfl | rfl | rfl <;> decide
  primitive _ := trivial
  array_iff _ := Iff.rfl
  set _ holds := holds
  of_set holds := holds
  map _ holdsKey holdsValue := ⟨holdsKey, holdsValue⟩
  of_map holds := holds
  function_iff signature := Signature.named_iff
  of_attribute holds member := (Template.named_iff.mp holds).2.1 _ member
  of_method holds member := (Template.named_iff.mp holds).2.2 _ member
  Records _ := True

/-- A part whose names are identifiers keeps to the law. -/
theorem Part.IsRegular.admits {part : Part} (regular : part.IsRegular .identifiers) :
    nameLaw.Admits part := by
  cases part with
  | type written => exact regular.isNamed
  | stmt written =>
      cases written with
      | varDecl position id name declared initializer => exact fun _ _ _ _ _ => trivial
      | fnDecl declaration => exact fun _ _ _ _ _ _ => trivial
      | templateDecl position name attributes methods =>
          refine ⟨?_, fun _ _ _ _ _ _ => trivial⟩
          rintro template rfl - members
          exact Template.named_iff.mpr ⟨regular.isNamed _ rfl, members.1, members.2⟩
      | _ => trivial
  | _ => trivial

/-- What is parsed from the tokens of a source keeps to the law. -/
theorem admitted_of_parse {source file : String} {tokens : List Token} {program : Program}
    {after : ParserState} (found : tokenize source file = .ok tokens)
    (parsed : Parser.parse tokens file = .ok program after) :
    ∀ stmt ∈ program.body, nameLaw.Admitted (.stmt stmt) := by
  have areMarked (token : Token) (among : token ∈ tokens) : token.Marked .identifiers :=
    Token.marked_of_tokenize found among
  have starts : (ParserState.ofTokens tokens file).Marked .identifiers := by
    rcases (tiles_of_tokenize found).covers with ⟨others, rfl, -⟩
    exact ParserState.marked_ofTokens rfl areMarked
  have regular := Parser.marks_parse starts
  rw [parsed] at regular
  intro stmt member inner inside
  exact (regular inner ⟨stmt, member, inside⟩).admits

end ScriptCheck
