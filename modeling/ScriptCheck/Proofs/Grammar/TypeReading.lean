import ScriptCheck.Proofs.Grammar.Consumption

/-!
# Reading types

A type that is written is read back, and the parser gives only types that are. It reads nothing but
the tokens of the type: the suffixes of a type are rounds of a loop, so what is said of a type
leaves open what comes behind it.
-/

namespace ScriptCheck

open ScriptCheck.Parser

variable {β : Type} {spell : Number.Binary64 → String} {ends : Kind → Bool} {others : List Piece}

def Kind.endsType (kind : Kind) : Bool :=
  !kind.continuesType .lowest

/-- A type that is read back: a start, and then one suffix after the other. -/
inductive Ty.Readable (spell : Number.Binary64 → String) : Ty → Prop where
  | start {type : Ty} {piece : Piece} {pieces : List Piece} (same : type.pieces = piece :: pieces)
      (starts : piece.kind.typeStart?.isSome = true)
      (reads : ∀ depth, type.pieces.length ≤ depth + 1 →
        Reads spell anyKind (typeStart (nestedType depth)) type.pieces (Eq type)) :
      type.Readable spell
  | suffix {type longer : Ty} {piece : Piece} {pieces : List Piece}
      (readable : type.Readable spell) (same : longer.pieces = type.pieces ++ piece :: pieces)
      (continues : piece.kind.continuesType .lowest = true)
      (reads : ∀ depth, longer.pieces.length ≤ depth + 1 →
        Reads spell anyKind (typeTail (nestedType depth) type) (piece :: pieces) (Eq longer)) :
      longer.Readable spell

/-- The type of a result may be `void` as well. -/
def Ty.ReadableResult (spell : Number.Binary64 → String) (type : Ty) : Prop :=
  type = .void ∨ type.Readable spell

def Signature.Readable (spell : Number.Binary64 → String) (signature : Signature) : Prop :=
  signature.result.ReadableResult spell ∧ ∀ param ∈ signature.params, param.2.Readable spell

theorem paramPieces_eq_map (params : List (String × Ty)) :
    paramPieces params = params.map fun param => param.2.pieces ++ [word param.1] := by
  induction params with
  | nil => rw [paramPieces, List.map_nil]
  | cons param rest ih => rw [paramPieces, ih, List.map_cons]

namespace Ty

variable {type : Ty}

theorem Readable.starts (readable : type.Readable spell) :
    ∃ piece pieces, type.pieces = piece :: pieces ∧ piece.kind.typeStart?.isSome = true := by
  induction readable with
  | start same starts reads => exact ⟨_, _, same, starts⟩
  | suffix readable same continues reads ih =>
      rcases ih with ⟨first, rest, begins, starts⟩
      rw [begins] at same
      exact ⟨first, _, same, starts⟩

/-- The rounds of the loop over the suffixes of a type. -/
theorem Readable.rounds (readable : type.Readable spell) :
    ∃ base start tail suffixes, type.pieces = start ++ tail ∧ suffixes ≤ tail.length ∧
      (∀ depth, type.pieces.length ≤ depth + 1 →
        Reads spell anyKind (typeStart (nestedType depth)) start (Eq base)) ∧
      ∀ depth rounds (ends : Kind → Bool) (others : List Piece) (good : Ty → Prop),
        type.pieces.length ≤ depth + 1 →
        Reads spell ends (repeatUpTo (Kind.continuesType .lowest) (typeTail (nestedType depth))
          rounds type) others good →
        Reads spell ends (repeatUpTo (Kind.continuesType .lowest) (typeTail (nestedType depth))
          (rounds + suffixes) base) (tail ++ others) good := by
  -- The rounds are counted from the innermost type outwards, so a suffix adds one at the end: that
  -- is why the rounds behind it and what they read are left open.
  induction readable with
  | @start type _ _ same starts reads =>
      refine ⟨type, type.pieces, [], 0, (List.append_nil _).symm, Nat.zero_le _, reads, ?_⟩
      exact fun depth rounds ends others good _ readsOthers => readsOthers
  | @suffix type longer piece pieces readable same continues reads ih =>
      rcases ih with ⟨base, start, tail, suffixes, split, few, readsStart, readsTail⟩
      have shorter {depth : Nat} (enough : longer.pieces.length ≤ depth + 1) :
          type.pieces.length ≤ depth + 1 := by
        rw [same, List.length_append] at enough
        omega
      refine ⟨base, start, tail ++ piece :: pieces, suffixes + 1, ?_, ?_, ?_, ?_⟩
      · rw [same, split, List.append_assoc]
      · rw [List.length_append, List.length_cons]
        omega
      · exact fun depth enough => readsStart depth (shorter enough)
      · intro depth rounds ends others good enough readsOthers
        rw [List.append_assoc, ← Nat.add_assoc, Nat.add_right_comm]
        apply readsTail depth (rounds + 1) ends _ good (shorter enough)
        refine reads_repeatUpTo_succ continues (reads depth enough) (fun _ _ => rfl) ?_
        rintro _ rfl
        exact readsOthers

/-- A type with all its suffixes, up to a token that ends it. -/
theorem Readable.form (readable : type.Readable spell) {depth : Nat}
    (enough : type.pieces.length ≤ depth + 1) :
    Reads spell Kind.endsType (typeForm (nestedType depth) .lowest) type.pieces (Eq type) := by
  rcases readable.rounds with ⟨base, start, tail, suffixes, split, few, readsStart, readsTail⟩
  have stops kind (ended : Kind.endsType kind = true) : kind.continuesType .lowest = false := by
    simpa [Kind.endsType] using ended
  rw [split]
  refine (readsStart depth enough).bind (fun _ _ => rfl) ?_
  rintro _ rfl
  refine reads_repeatWhile fun rounds more => ?_
  have readsAll := readsTail depth (rounds - suffixes) Kind.endsType [] (Eq type) enough
    (reads_repeatUpTo_none stops rfl)
  rwa [Nat.sub_add_cancel (by omega), List.append_nil] at readsAll

theorem Readable.nested (readable : type.Readable spell) {depth : Nat}
    (enough : type.pieces.length ≤ depth) :
    Reads spell Kind.endsType (nestedType depth) type.pieces (Eq type) := by
  cases depth with
  | zero =>
      rcases readable.starts with ⟨piece, pieces, same, _⟩
      rw [same, List.length_cons] at enough
      contradiction
  | succ depth => exact readable.form enough

theorem Readable.array (readable : type.Readable spell) : (array type).Readable spell := by
  refine .suffix readable rfl rfl fun depth enough => ?_
  apply reads_kind
  exact reads_expect fun _ => reads_expect_pure rfl

theorem Readable.set (readable : type.Readable spell) : (set type).Readable spell := by
  refine .suffix readable rfl rfl fun depth enough => ?_
  refine reads_kind (reads_expect fun _ => reads_kind ?_)
  exact reads_advance_bind (reads_pure rfl)

theorem Readable.map {key : Ty} (readableKey : key.Readable spell)
    (readable : type.Readable spell) : (map key type).Readable spell := by
  refine .suffix readable rfl rfl fun depth enough => ?_
  refine reads_kind (reads_expect fun _ => ?_)
  rcases readableKey.starts with ⟨piece, pieces, same, starts⟩
  have enoughKey : key.pieces.length ≤ depth := by
    rw [Ty.pieces, List.length_append, List.length_cons, List.length_append] at enough
    omega
  have readsKey := readableKey.nested enoughKey
  rw [same] at readsKey ⊢
  apply reads_kind
  rw [if_neg (by intro closes; rw [closes] at starts; contradiction)]
  refine readsKey.bind (fun _ _ => rfl) ?_
  rintro _ rfl
  exact reads_expect_pure rfl

theorem readable_primitive {primitive : Primitive} (known : primitive ≠ .void) :
    (Ty.primitive primitive).Readable spell := by
  have starts : primitive.kind.typeStart? = some .primitive := by
    cases primitive <;> first | rfl | contradiction
  have names : primitive.kind.primitive? = some primitive := by
    cases primitive <;> first | rfl | contradiction
  refine .start rfl (Option.isSome_of_eq_some starts) fun depth _ => ?_
  apply reads_kind
  rw [kind_mark, starts]
  apply reads_kind
  rw [kind_mark, names]
  exact reads_advance_bind (reads_pure rfl)

theorem readable_named (name : String) : (Ty.named name).Readable spell := by
  refine .start rfl rfl fun depth _ => ?_
  exact reads_kind (reads_identifier (reads_pure rfl))

/-- The type of a result, up to a token that ends it. -/
theorem ReadableResult.reads (readable : type.ReadableResult spell) {depth : Nat}
    (enough : type.pieces.length ≤ depth) :
    Reads spell Kind.endsType (resultType (nestedType depth)) type.pieces (Eq type) := by
  rcases readable with rfl | readable
  · apply reads_kind
    show Reads spell Kind.endsType (advance >>= fun _ => pure Ty.void) [mark .voidWord] _
    exact reads_advance_bind (reads_pure rfl)
  · rcases readable.starts with ⟨piece, pieces, same, starts⟩
    have readsType := readable.nested enough
    rw [same] at readsType ⊢
    apply reads_kind
    rw [if_neg (by intro isVoid; rw [isVoid] at starts; contradiction)]
    exact readsType

end Ty

theorem Parser.reads_parameters {params : List (String × Ty)}
    (readable : ∀ param ∈ params, param.2.Readable spell) {depth : Nat}
    (enough : (separated (paramPieces params)).length ≤ depth)
    {next : List (String × Ty) → Parser β} {best : β → Prop}
    (readsNext : Reads spell ends (next params) others best) :
    Reads spell ends (parameters (nestedType depth) >>= next)
      (mark .openBracket :: (separated (paramPieces params) ++ mark .closeBracket :: others))
        best := by
  have readsItems : Reads spell (· == .closeBracket)
      (itemsUntil .closeBracket (parameter (nestedType depth)))
        (separated (paramPieces params)) (List.Forall₂ Eq params) := by
    rw [paramPieces_eq_map] at enough ⊢
    refine reads_itemsUntil anyKind (by simp) (by simp) rfl rfl ?_ ?_
    · intro param mem
      rcases (readable param mem).starts with ⟨piece, pieces, same, starts⟩
      refine ⟨piece, pieces ++ [word param.1], by rw [same]; rfl, ?_⟩
      intro closes
      rw [closes] at starts
      contradiction
    · intro param mem
      have shorter := length_le_separated
        (List.mem_map_of_mem mem : (param.2.pieces ++ [word param.1]) ∈
          params.map fun param => param.2.pieces ++ [word param.1])
      rw [List.length_append] at shorter
      refine ((readable param mem).nested (by omega)).bind (fun _ _ => rfl) ?_
      rintro _ rfl
      exact reads_identifier (reads_pure rfl)
  rw [parameters]
  simp only [bind_assoc]
  refine reads_expect fun _ => readsItems.bind (fun _ _ => rfl) fun found same => ?_
  rw [List.forall₂_eq_eq_eq] at same
  subst same
  exact reads_expect fun _ => readsNext

theorem Parser.reads_withTypes_parameters {params : List (String × Ty)}
    (readable : ∀ param ∈ params, param.2.Readable spell) {next : List (String × Ty) → Parser β}
    {best : β → Prop} (readsNext : Reads spell ends (next params) others best) :
    Reads spell ends (withTypes parameters >>= next)
      (mark .openBracket :: (separated (paramPieces params) ++ mark .closeBracket :: others))
        best := by
  rw [withTypes, bind_assoc]
  show Reads spell ends (withTypes fun inside => parameters inside >>= next) _ _
  refine reads_withTypes fun depth enough => ?_
  rw [List.length_cons, List.length_append] at enough
  exact reads_parameters readable (by omega) readsNext

theorem Ty.readable_function {signature : Signature} (readable : signature.Readable spell) :
    (Ty.function signature).Readable spell := by
  rcases signature with ⟨result, params⟩
  rcases readable with ⟨readableResult, readableParams⟩
  refine .start rfl rfl fun depth enough => ?_
  simp only [Ty.pieces, Signature.pieces, List.length_cons, List.length_append] at enough
  have readsResult := readableResult.reads (show result.pieces.length ≤ depth by omega)
  apply reads_kind
  rw [show (mark .funcWord).kind.typeStart? = some .function from rfl]
  refine reads_expect fun _ => reads_expect fun _ => ?_
  refine readsResult.bind (fun _ _ => rfl) ?_
  rintro _ rfl
  refine reads_expect fun _ => ?_
  have enoughParams : (separated (paramPieces params)).length ≤ depth := by omega
  exact reads_parameters readableParams enoughParams (reads_expect_pure rfl)

/-- The parser finds a type that is read back, and has consumed nothing but its tokens. -/
def Parser.FindsType (spell : Number.Binary64 → String) (starts : Kind → Prop)
    (parser : Parser Ty) : Prop :=
  Consumes starts parser fun used type => type.Readable spell ∧ used = kinds type.pieces

namespace Parser

variable {starts : Kind → Prop} {inside : Parser Ty}

theorem findsType_primitiveType : FindsType spell starts primitiveType := by
  refine consumes_kind fun kind _ => ?_
  split
  · exact consumes_unexpected
  · rename_i primitive names
    have same : kind = primitive.kind ∧ primitive ≠ .void ∧ kind ≠ .eof := by
      cases kind <;> simp_all [Kind.primitive?] <;> subst names <;> decide
    refine (consumes_advance same.2.2).bind fun used _ single => consumes_pure ⟨?_, ?_⟩
    · exact Ty.readable_primitive same.2.1
    · rw [single, same.1]
      rfl

theorem findsType_namedType : FindsType spell starts namedType := by
  refine consumes_identifier.bind fun used name single => consumes_pure ⟨?_, ?_⟩
  · exact Ty.readable_named name
  · rw [single]
    rfl

theorem consumes_resultType (finds : FindsType spell anywhere inside) :
    Consumes starts (resultType inside) fun used type =>
      type.ReadableResult spell ∧ used = kinds type.pieces := by
  refine consumes_kind fun kind _ => ?_
  split
  · rename_i isVoid
    subst isVoid
    refine (consumes_advance (by simp)).bind fun used _ single => consumes_pure ⟨Or.inl rfl, ?_⟩
    rw [single]
    rfl
  · exact finds.from.mono fun used type found => ⟨Or.inr found.1, found.2⟩

theorem consumes_parameters (finds : FindsType spell anywhere inside) :
    Consumes starts (parameters inside) fun used params =>
      (∀ param ∈ params, param.2.Readable spell) ∧
        used = kinds (mark .openBracket :: (separated (paramPieces params) ++
          [mark .closeBracket])) := by
  have consumesOne : Consumes anywhere (parameter inside) fun used param =>
      param.2.Readable spell ∧ used = kinds (param.2.pieces ++ [word param.1]) := by
    refine finds.bind fun used type found => ?_
    refine consumes_identifier.bind fun more name single => consumes_pure ⟨found.1, ?_⟩
    rw [found.2, single]
    simp
  refine (consumes_expect (by simp)).bind fun used _ opens => ?_
  refine (consumes_itemsUntil consumesOne).bind fun items params areGood => ?_
  refine (consumes_expect (by simp)).bind fun last _ closes => consumes_pure ⟨areGood.1, ?_⟩
  rw [opens, areGood.2, closes, paramPieces_eq_map]
  simp

theorem findsType_functionType (finds : FindsType spell anywhere inside) :
    FindsType spell starts (functionType inside) := by
  refine (consumes_expect (by simp)).bind fun func _ isFunc => ?_
  refine (consumes_expect (by simp)).bind fun opens _ isLess => ?_
  refine (consumes_resultType finds).bind fun written result found => ?_
  refine (consumes_expect (by simp)).bind fun comma _ isComma => ?_
  refine (consumes_parameters finds).bind fun items params areGood => ?_
  refine (consumes_expect (by simp)).bind fun closes _ isGreater => consumes_pure ⟨?_, ?_⟩
  · exact Ty.readable_function ⟨found.1, areGood.1⟩
  · rw [isFunc, isLess, found.2, isComma, areGood.2, isGreater, Ty.pieces, Signature.pieces]
    simp

theorem findsType_typeStart (finds : FindsType spell anywhere inside) :
    FindsType spell starts (typeStart inside) := by
  refine consumes_kind fun kind _ => ?_
  split
  · exact consumes_unexpected
  · exact findsType_primitiveType
  · exact findsType_namedType
  · exact findsType_functionType finds

theorem consumes_typeTail (finds : FindsType spell anywhere inside) {left : Ty}
    (readable : left.Readable spell) :
    Consumes starts (typeTail inside left) fun used type =>
      type.Readable spell ∧ kinds type.pieces = kinds left.pieces ++ used := by
  refine consumes_kind fun kind _ => ?_
  split
  · exact consumes_unexpected
  · refine (consumes_expect (by simp)).bind fun opens _ isOpen => ?_
    refine (consumes_expect (by simp)).bind fun closes _ isClose => consumes_pure ⟨?_, ?_⟩
    · exact readable.array
    · rw [isOpen, isClose, Ty.pieces, kinds_append]
      rfl
  · refine (consumes_expect (by simp)).bind fun opens _ isOpen => consumes_kind fun kind _ => ?_
    split
    · rename_i closes
      subst closes
      refine (consumes_advance (by simp)).bind fun used _ isClose => consumes_pure ⟨?_, ?_⟩
      · exact readable.set
      · rw [isOpen, isClose, Ty.pieces, kinds_append]
        rfl
    · refine finds.from.bind fun used key found => ?_
      refine (consumes_expect (by simp)).bind fun closes _ isClose => consumes_pure ⟨?_, ?_⟩
      · exact Ty.Readable.map found.1 readable
      · rw [isOpen, found.2, isClose, Ty.pieces]
        simp

theorem findsType_typeForm (finds : FindsType spell anywhere inside) (power : Power) :
    FindsType spell starts (typeForm inside power) := by
  refine (findsType_typeStart finds).bind fun used base found => ?_
  refine (consumes_repeatWhile found.1 fun kind left _ readable =>
    consumes_typeTail finds readable).mono fun more type longer => ⟨longer.1, ?_⟩
  rw [found.2, longer.2]

theorem findsType_nestedType (depth : Nat) : FindsType spell anywhere (nestedType depth) := by
  induction depth with
  | zero => exact consumes_unexpected
  | succ depth ih => exact findsType_typeForm ih .lowest

theorem findsType_parseType (power : Power) : FindsType spell starts (parseType power) := by
  intro state type after start ran
  exact findsType_typeForm (findsType_nestedType state.remaining) power state type after start ran

end Parser

end ScriptCheck
