import ScriptCheck.Proofs.Grammar.Reading
import ScriptCheck.Proofs.Typing.Mention
import ScriptCheck.Proofs.Typing.Naming

/-!
# Marked positions and names

Some positions are marked and some names, and all tokens of a list start at marked positions, and
are marked names where they are identifiers. The parser makes up no position and no name of its own:
`Marks` says that a run which starts in front of such tokens fails at a marked position, with a
fault of the grammar, or else is still in front of such tokens and has found something good. What is
good is left open here; it may be that the positions in a tree are marked. There is a rule for each
way in which parsers are put together. Types have no positions, and all names in them are marked.
Templates are mentioned in them by name only: the parser never writes one out.
-/

namespace ScriptCheck

/-- Which positions and which names are marked. -/
structure Marking where
  position : Position → Prop
  name : String → Prop

def Marking.anything : Marking where
  position _ := True
  name _ := True

/-- A token starts at a marked position, and if it is an identifier then it is a marked name. -/
structure Token.Marked (marked : Marking) (token : Token) : Prop where
  position : marked.position token.start
  name : token.kind = .identifier → marked.name token.value

/-- A fault of the grammar at a marked position. -/
structure Diagnostic.Marked (marked : Marking) (diagnostic : Diagnostic) : Prop where
  cause : ∃ fault, diagnostic.cause = .grammar fault
  position : marked.position diagnostic.position

/-- The names in a written type are marked, and no template is written out in it. -/
structure Ty.Regular (marked : Marking) (type : Ty) : Prop where
  isNamed : type.Named marked.name
  noCopies : ∀ copy, .template copy ∉ type.mentions

/-- A parameter with a marked name and a regular type. -/
structure RegularParam (marked : Marking) (param : String × Ty) : Prop where
  isName : marked.name param.1
  type : param.2.Regular marked

namespace Ty

variable {marked : Marking}

theorem regular_primitive (primitive : Primitive) : (Ty.primitive primitive).Regular marked :=
  ⟨trivial, nofun⟩

theorem regular_named {name : String} (isName : marked.name name) :
    (Ty.named name).Regular marked :=
  ⟨isName, by simp [mentions]⟩

theorem Regular.array {element : Ty} (regular : element.Regular marked) :
    (Ty.array element).Regular marked :=
  ⟨regular.isNamed, regular.noCopies⟩

theorem Regular.set {element : Ty} (regular : element.Regular marked) :
    (Ty.set element).Regular marked :=
  ⟨regular.isNamed, regular.noCopies⟩

theorem Regular.map {key value : Ty} (regularKey : key.Regular marked)
    (regular : value.Regular marked) : (Ty.map key value).Regular marked := by
  refine ⟨⟨regularKey.isNamed, regular.isNamed⟩, fun copy mentioned => ?_⟩
  rcases List.mem_append.mp mentioned with inKey | inValue
  · exact regularKey.noCopies copy inKey
  · exact regular.noCopies copy inValue

theorem Regular.function {result : Ty} {params : List (String × Ty)}
    (regular : result.Regular marked)
    (regularParams : ∀ param ∈ params, RegularParam marked param) :
    (Ty.function { result, params }).Regular marked := by
  refine ⟨Signature.named_iff.mpr ⟨regular.isNamed, fun param member => ?_⟩, ?_⟩
  · exact ⟨(regularParams param member).isName, (regularParams param member).type.isNamed⟩
  · intro copy mentioned
    rcases List.mem_append.mp mentioned with inResult | inParams
    · exact regular.noCopies copy inResult
    · rcases mem_mentionsIn.mp inParams with ⟨param, member, inside⟩
      exact (regularParams param member).type.noCopies copy inside

end Ty

/-- The tokens that are still to be read are marked. -/
def ParserState.Marked (marked : Marking) (state : ParserState) : Prop :=
  (∀ token ∈ state.upcoming, token.Marked marked) ∧ state.final.Marked marked

/-- The parser stands in front of the tokens of its list, and of the mark at the end of it. -/
theorem ParserState.marked_ofTokens {marked : Marking} {last : Token} {others : List Token}
    {file : String} (ends : last.kind = .eof)
    (areMarked : ∀ token ∈ others ++ [last], token.Marked marked) :
    (ofTokens (others ++ [last]) file).Marked marked := by
  rw [ofTokens_concat others ends]
  exact ⟨fun token among => areMarked token (List.mem_append_left _ among),
    areMarked last (List.mem_append_right _ List.mem_cons_self)⟩

namespace Parser

variable {α β : Type} {marked : Marking} {good : α → Prop} {best : β → Prop}
  {parser : Parser α} {next : α → Parser β}

/-- A run in front of marked tokens finds something good, or fails at a marked position. -/
def Marks (marked : Marking) (good : α → Prop) (parser : Parser α) : Prop :=
  ∀ state : ParserState, state.Marked marked →
    match parser state with
    | .ok value after => after.Marked marked ∧ good value
    | .error diagnostic _ => diagnostic.Marked marked

def anything (_ : α) : Prop :=
  True

section Combinators

theorem Marks.bind (marks : Marks marked good parser)
    (marksNext : ∀ value, good value → Marks marked best (next value)) :
    Marks marked best (parser >>= next) := by
  intro state starts
  have first := marks state starts
  rw [bind_apply]
  cases ran : parser state with
  | error diagnostic after =>
      rw [ran] at first
      exact first
  | ok value between =>
      rw [ran] at first
      exact marksNext value first.2 between first.1

theorem Marks.mono {better : α → Prop} (marks : Marks marked better parser)
    (weaker : ∀ value, better value → good value) : Marks marked good parser := by
  intro state starts
  have found := marks state starts
  cases ran : parser state with
  | error diagnostic after =>
      rw [ran] at found
      exact found
  | ok value after =>
      rw [ran] at found
      exact ⟨found.1, weaker value found.2⟩

/-- What every run yields is found besides what is good. -/
theorem Marks.and_yields {more : α → Prop} (marks : Marks marked good parser)
    (yields : Yields more parser) : Marks marked (fun value => good value ∧ more value) parser := by
  intro state starts
  have found := marks state starts
  cases ran : parser state with
  | error diagnostic after =>
      rw [ran] at found
      exact found
  | ok value after =>
      rw [ran] at found
      exact ⟨found.1, found.2, yields _ _ _ ran⟩

theorem marks_pure {value : α} (isGood : good value) : Marks marked good (pure value) :=
  fun _ starts => ⟨starts, isGood⟩

theorem marks_failAt {position : Position} (isMarked : marked.position position)
    (fault : SyntaxFault) :
    Marks marked good (failAt position fault) :=
  fun _ _ => ⟨⟨fault, rfl⟩, isMarked⟩

theorem marks_get : Marks marked anything (get : Parser ParserState) :=
  fun _ starts => ⟨starts, trivial⟩

theorem marked_current {state : ParserState} (starts : state.Marked marked) :
    state.current.Marked marked := by
  rw [ParserState.current]
  cases first : state.upcoming.head? with
  | none => exact starts.2
  | some token => exact starts.1 token (List.mem_of_mem_head? first)

theorem marks_current : Marks marked (Token.Marked marked) current :=
  fun _ starts => ⟨starts, marked_current starts⟩

theorem marks_kind : Marks marked anything kind :=
  marks_current.bind fun _ _ => marks_pure trivial

theorem marks_position : Marks marked marked.position position :=
  marks_current.bind fun _ isMarked => marks_pure isMarked.position

theorem marks_unexpected : Marks marked good unexpected :=
  marks_current.bind fun _ isMarked => marks_failAt isMarked.position _

theorem marks_advance : Marks marked (Token.Marked marked) advance :=
  fun _ starts => ⟨⟨fun token member => starts.1 token (List.mem_of_mem_tail member), starts.2⟩,
    marked_current starts⟩

theorem marks_expectOr (expected : Kind) (fault : Token → SyntaxFault) :
    Marks marked (fun token => token.Marked marked ∧ token.kind = expected)
      (expectOr expected fault) := by
  -- The token that is looked at is the one that is passed.
  intro state starts
  have isMarked := marked_current starts
  have looked : current state = .ok state.current state := rfl
  rw [expectOr, bind_of_ok looked]
  by_cases same : state.current.kind = expected
  · rw [if_pos same]
    exact ⟨(marks_advance state starts).1, isMarked, same⟩
  · rw [if_neg same]
    exact ⟨⟨_, rfl⟩, isMarked.position⟩

theorem marks_expect (expected : Kind) :
    Marks marked (fun token => token.Marked marked ∧ token.kind = expected) (expect expected) :=
  marks_expectOr expected _

theorem marks_identifier : Marks marked marked.name identifier :=
  (marks_expect _).bind fun _ found => marks_pure (found.1.name found.2)

theorem marks_freshId : Marks marked anything freshId :=
  fun _ starts => ⟨starts, trivial⟩

theorem marks_repeatWhile {again : Kind → Bool} {step : α → Parser α}
    (marks : ∀ value, good value → Marks marked good (step value)) {value : α}
    (isGood : good value) : Marks marked good (repeatWhile again step value) := by
  have rounds (count : Nat) : ∀ value, good value →
      Marks marked good (repeatUpTo again step count value) := by
    induction count with
    | zero => exact fun _ isGood => marks_pure isGood
    | succ count ih =>
        intro value isGood
        apply marks_kind.bind
        intro kind _
        split
        · exact (marks value isGood).bind ih
        · exact marks_pure isGood
  exact marks_get.bind fun _ _ => rounds _ value isGood

theorem marks_collectWhile {again : Kind → Bool} (marks : Marks marked good parser) :
    Marks marked (fun values => ∀ value ∈ values, good value) (collectWhile again parser) := by
  have rounds (count : Nat) :
      Marks marked (fun values => ∀ value ∈ values, good value)
        (collectUpTo again parser count) := by
    induction count with
    | zero => exact marks_pure (by simp)
    | succ count ih =>
        apply marks_kind.bind
        intro kind _
        split
        · apply marks.bind
          intro first isGood
          apply ih.bind
          intro rest areGood
          exact marks_pure (List.forall_mem_cons.mpr ⟨isGood, areGood⟩)
        · exact marks_pure (by simp)
  exact marks_get.bind fun _ _ => rounds _

theorem marks_moreItems (marks : Marks marked good parser) :
    Marks marked (fun values => ∀ value ∈ values, good value) (moreItems parser) :=
  marks_collectWhile (marks_advance.bind fun _ _ => marks)

theorem marks_itemsUntil {close : Kind} (marks : Marks marked good parser) :
    Marks marked (fun values => ∀ value ∈ values, good value) (itemsUntil close parser) := by
  apply marks_kind.bind
  intro kind _
  split
  · exact marks_pure (by simp)
  · apply marks.bind
    intro first isGood
    apply (marks_moreItems marks).bind
    intro rest areGood
    exact marks_pure (List.forall_mem_cons.mpr ⟨isGood, areGood⟩)

end Combinators

section Types

variable {inside : Parser Ty}

abbrev MarksType (marked : Marking) (parser : Parser Ty) : Prop :=
  Marks marked (Ty.Regular marked) parser

abbrev MarksParams (marked : Marking) (parser : Parser (List (String × Ty))) : Prop :=
  Marks marked (fun params => ∀ param ∈ params, RegularParam marked param) parser

theorem marks_resultType (marks : MarksType marked inside) :
    MarksType marked (resultType inside) := by
  apply marks_kind.bind
  intro kind _
  split
  · exact marks_advance.bind fun _ _ => marks_pure (Ty.regular_primitive _)
  · exact marks

theorem marks_parameters (marks : MarksType marked inside) :
    MarksParams marked (parameters inside) := by
  have marksOne : Marks marked (RegularParam marked) (parameter inside) := by
    apply marks.bind
    intro type regular
    exact marks_identifier.bind fun _ isName => marks_pure ⟨isName, regular⟩
  apply (marks_expect _).bind
  intro _ _
  apply (marks_itemsUntil marksOne).bind
  intro params regular
  exact (marks_expect _).bind fun _ _ => marks_pure regular

theorem marks_functionType (marks : MarksType marked inside) :
    MarksType marked (functionType inside) := by
  apply (marks_expect _).bind
  intro _ _
  apply (marks_expect _).bind
  intro _ _
  apply (marks_resultType marks).bind
  intro result regular
  apply (marks_expect _).bind
  intro _ _
  apply (marks_parameters marks).bind
  intro params regularParams
  apply (marks_expect _).bind
  intro _ _
  exact marks_pure (regular.function regularParams)

theorem marks_typeStart (marks : MarksType marked inside) :
    MarksType marked (typeStart inside) := by
  have primitive : MarksType marked primitiveType := by
    apply marks_kind.bind
    intro kind _
    split
    · exact marks_unexpected
    · exact marks_advance.bind fun _ _ => marks_pure (Ty.regular_primitive _)
  apply marks_kind.bind
  intro kind _
  split
  · exact marks_unexpected
  · exact primitive
  · exact marks_identifier.bind fun _ isName => marks_pure (Ty.regular_named isName)
  · exact marks_functionType marks

theorem marks_typeTail (marks : MarksType marked inside) {left : Ty}
    (regular : left.Regular marked) : MarksType marked (typeTail inside left) := by
  apply marks_kind.bind
  intro kind _
  split
  · exact marks_unexpected
  · apply (marks_expect _).bind
    intro _ _
    exact (marks_expect _).bind fun _ _ => marks_pure regular.array
  · apply (marks_expect _).bind
    intro _ _
    apply marks_kind.bind
    intro kind _
    split
    · exact marks_advance.bind fun _ _ => marks_pure regular.set
    · apply marks.bind
      intro key regularKey
      exact (marks_expect _).bind fun _ _ => marks_pure (regularKey.map regular)

theorem marks_typeForm (marks : MarksType marked inside) (power : Power) :
    MarksType marked (typeForm inside power) := by
  apply (marks_typeStart marks).bind
  intro left regular
  exact marks_repeatWhile (fun left regular => marks_typeTail marks regular) regular

theorem marks_nestedType (depth : Nat) : MarksType marked (nestedType depth) := by
  induction depth with
  | zero => exact marks_unexpected
  | succ depth ih => exact marks_typeForm ih .lowest

theorem marks_withTypes {form : Parser Ty → Parser α}
    (marks : ∀ inside, MarksType marked inside → Marks marked good (form inside)) :
    Marks marked good (withTypes form) :=
  marks_get.bind fun _ _ => marks _ (marks_nestedType _)

theorem marks_parseType (power : Power) : MarksType marked (parseType power) :=
  marks_withTypes fun _ marks => marks_typeForm marks power

end Types

end Parser

end ScriptCheck
