import ScriptCheck.Proofs.Grammar.Readable

/-!
# Reading expressions

Every form of expression is readable if what stands inside of it is. A form that continues an
expression finds that one between parentheses, so it is reached after one start and is the only
round of the loop.
-/

namespace ScriptCheck

open ScriptCheck.Parser

variable {spell : Number.Binary64 → String} {depth : Nat}

theorem Kind.continuesExpr_of_endsExpr {kind : Kind} (power : Power)
    (ended : kind.endsExpr = true) :
    kind.continuesExpr power = false := by
  cases kind <;> first | rfl | contradiction

namespace Expr

variable {expr left : Expr}

theorem Readable.start (readable : expr.Readable spell) (enough : expr.pieces.length ≤ depth) :
    Reads spell anyKind (exprStart (Parser.nested depth)) (wrapped expr.pieces) expr.Same := by
  apply reads_kind
  rw [kind_mark, show Kind.openParen.exprStart? = some .grouping from rfl]
  refine reads_expect fun _ => ?_
  refine (readable.lowest enough).bind (fun _ _ => rfl) fun again same => ?_
  exact reads_expect_pure same

theorem Readable.operand (readable : expr.Readable spell) (power : Power)
    (enough : (wrapped expr.pieces).length ≤ depth) :
    Reads spell Kind.endsExpr ((Parser.nested depth).expr power) (wrapped expr.pieces)
      expr.Same := by
  rw [length_wrapped] at enough
  cases depth with
  | zero => contradiction
  | succ depth =>
      show Reads spell Kind.endsExpr (exprForm (Parser.nested depth) power) _ _
      rw [exprForm, ← List.append_nil (wrapped expr.pieces)]
      refine (readable.start (by omega)).bind (fun _ _ => rfl) fun again same => ?_
      refine reads_repeatWhile fun rounds _ => reads_repeatUpTo_none ?_ same
      exact fun kind ended => Kind.continuesExpr_of_endsExpr power ended

theorem readable_of_start {piece : Piece} {pieces : List Piece}
    (same : expr.pieces = piece :: pieces) (starts : piece.kind.exprStart?.isSome = true)
    (reads : ∀ depth, expr.pieces.length ≤ depth + 1 →
      Reads spell Kind.endsExpr (exprStart (Parser.nested depth)) expr.pieces expr.Same) :
    expr.Readable spell := by
  refine ⟨⟨piece, pieces, same, starts⟩, fun depth power enough _ => ?_⟩
  rw [exprForm, ← List.append_nil expr.pieces]
  refine (reads depth enough).bind (fun _ ended => ended) fun again same => ?_
  refine reads_repeatWhile fun rounds _ => reads_repeatUpTo_none ?_ same
  exact fun kind ended => Kind.continuesExpr_of_endsExpr power ended

theorem readable_of_tail {piece : Piece} {pieces : List Piece} (readable : left.Readable spell)
    (same : expr.pieces = wrapped left.pieces ++ piece :: pieces)
    (continues : piece.kind.continuesExpr .comma = true)
    (reads : ∀ depth again, (piece :: pieces).length ≤ depth → left.Same again →
      Reads spell Kind.endsExpr (exprTail (Parser.nested depth) again) (piece :: pieces)
        expr.Same) : expr.Readable spell := by
  refine ⟨⟨mark .openParen, _, same, rfl⟩, fun depth power enough loose => ?_⟩
  rw [same, List.length_append, length_wrapped] at enough
  have goesOn : piece.kind.continuesExpr power = true := by
    simp only [Kind.continuesExpr, Option.any_eq_true, decide_eq_true_eq] at continues ⊢
    rcases continues with ⟨tail, found, tighter⟩
    exact ⟨tail, found, Nat.lt_of_le_of_lt loose tighter⟩
  rw [exprForm, same]
  refine (readable.start (by omega)).bind (fun _ _ => rfl) fun again sameLeft => ?_
  refine reads_repeatWhile_once goesOn ?_ (reads depth again (by omega) sameLeft)
  exact fun kind ended => Kind.continuesExpr_of_endsExpr power ended

/-- Elements or arguments, up to the token that closes them. -/
theorem reads_elements {exprs : List Expr} (readable : ∀ expr ∈ exprs, expr.Readable spell)
    (close : Kind) (closes : close.endsExpr = true) (notComma : close ≠ .comma)
    (enough : (separated (wrappedPieces exprs)).length ≤ depth) :
    Reads spell (· == close) (itemsUntil close ((Parser.nested depth).expr .lowest))
      (separated (wrappedPieces exprs)) (List.Forall₂ Same exprs) := by
  rw [wrappedPieces_eq_map] at enough ⊢
  refine reads_itemsUntil Kind.endsExpr (fun kind ended => beq_iff_eq.mp ended) notComma closes
    rfl ?_ ?_
  · intro expr _
    refine ⟨mark .openParen, _, rfl, ?_⟩
    intro opens
    rw [kind_mark] at opens
    subst opens
    contradiction
  · intro expr mem
    have shorter := length_le_separated (List.mem_map_of_mem mem :
      wrapped expr.pieces ∈ exprs.map fun expr => wrapped expr.pieces)
    exact (readable expr mem).operand .lowest (by omega)

theorem readable_string (value : String) : (string value).Readable spell := by
  refine readable_of_start rfl rfl fun depth _ => ?_
  exact reads_kind (reads_current (reads_advance_bind (reads_pure rfl)))

theorem readable_null : null.Readable spell := by
  refine readable_of_start rfl rfl fun depth _ => ?_
  exact reads_kind (reads_current (reads_advance_bind (reads_pure rfl)))

theorem readable_boolean (value : Bool) : (boolean value).Readable spell := by
  refine readable_of_start rfl rfl fun depth _ => ?_
  refine reads_kind (reads_current (reads_advance_bind (reads_pure ?_)))
  cases value <;> rfl

theorem readable_float (value : Number.Binary64) : (float value).Readable spell := by
  refine readable_of_start rfl rfl fun depth _ spelled => ?_
  have readBack := spelled value (List.mem_singleton.mpr rfl)
  refine reads_kind (reads_current ?_) spelled
  show Reads spell Kind.endsExpr (numeral _ ((Number.Binary64.read? (spell value)).map float)) _ _
  rw [readBack]
  exact reads_advance_bind (reads_pure rfl)

theorem readable_integer {value : Int}
    (readBack : Number.readInteger? (toString value) = some value) :
    (integer value).Readable spell := by
  refine readable_of_start rfl rfl fun depth _ => ?_
  refine reads_kind (reads_current ?_)
  show Reads spell Kind.endsExpr
    (numeral _ ((Number.readInteger? (toString value)).map integer)) _ _
  rw [readBack]
  exact reads_advance_bind (reads_pure rfl)

theorem readable_identifier (name : String) : (identifier name).Readable spell := by
  refine readable_of_start rfl rfl fun depth _ => ?_
  refine reads_kind (reads_identifier (reads_kind_behind fun kind ended => ?_))
  rw [if_neg (by intro opens; rw [opens] at ended; contradiction)]
  exact reads_pure rfl

theorem readable_leading (operator : UnaryOp) (readable : expr.Readable spell) :
    (unary operator .before expr).Readable spell := by
  have starts : operator.kind.exprStart? = some .leadingOperator := by cases operator <;> rfl
  have leads : operator.kind.leadingOp? = some operator := by cases operator <;> rfl
  refine readable_of_start rfl (Option.isSome_of_eq_some starts) fun depth enough => ?_
  rw [pieces, List.length_cons] at enough
  apply reads_kind
  rw [kind_mark, starts]
  apply reads_kind
  rw [kind_mark, leads]
  apply reads_advance_bind
  refine (readable.operand .unary (by omega)).bind_pure fun again same => ?_
  rw [Same, erased, erased, same]

theorem readable_array {elements : List Expr} (readable : ∀ expr ∈ elements, expr.Readable spell) :
    (array elements).Readable spell := by
  refine readable_of_start rfl rfl fun depth enough => ?_
  rw [pieces, List.length_cons, List.length_append] at enough
  refine reads_kind (reads_expect fun _ => ?_)
  refine (reads_elements readable .closeBracket rfl (by simp) (by omega)).bind (fun _ _ => rfl)
    fun again same => ?_
  refine reads_expect fun _ => reads_kind_behind fun kind ended => ?_
  rw [if_neg (by intro pipes; rw [pipes] at ended; contradiction)]
  apply reads_pure
  rw [Same, erased, erased, erasedExprs_eq same]

/-- Behind the first item between curly brackets come others or the closing bracket. -/
theorem headKind_rest {Item : Type} {written : Item → List Piece} (items : List Item)
    (behind : Kind) :
    headKind ((items.flatMap fun one => mark .comma :: written one) ++ [mark .closeCurly]) behind ≠
      .colon ∧
    Kind.endsExpr (headKind
      ((items.flatMap fun one => mark .comma :: written one) ++ [mark .closeCurly]) behind) =
      true := by
  cases items with
  | nil => exact ⟨by simp [headKind], rfl⟩
  | cons one items => exact ⟨by simp [headKind], rfl⟩

theorem readable_set {elements : List Expr} (readable : ∀ expr ∈ elements, expr.Readable spell) :
    (set elements).Readable spell := by
  refine readable_of_start rfl rfl fun depth enough => ?_
  rw [pieces, wrappedPieces_eq_map, List.length_cons, List.length_append] at enough
  rw [pieces, wrappedPieces_eq_map]
  refine reads_kind (reads_expect fun _ => ?_)
  cases elements with
  | nil => exact reads_kind (reads_advance_bind (reads_pure rfl))
  | cons first rest =>
      have readsOne one (mem : one ∈ first :: rest) : Reads spell Kind.endsExpr
          ((Parser.nested depth).expr .lowest) (wrapped one.pieces) one.Same := by
        have shorter := length_le_separated (List.mem_map_of_mem mem :
          wrapped one.pieces ∈ (first :: rest).map fun expr => wrapped expr.pieces)
        exact (readable one mem).operand .lowest (by omega)
      have readsMore : Reads spell (· == Kind.closeCurly)
          (moreItems ((Parser.nested depth).expr .lowest))
            (rest.flatMap fun one => mark .comma :: wrapped one.pieces)
              (List.Forall₂ Same rest) := by
        refine reads_moreItems Kind.endsExpr (fun _ closes => beq_iff_eq.mp closes) (by simp) rfl
          rfl ?_
        exact fun one mem => readsOne one (List.mem_cons_of_mem first mem)
      rw [List.map_cons, separated, List.flatMap_map, List.append_assoc]
      apply reads_kind_of_cons rfl
      rw [if_neg (by simp)]
      refine (readsOne first List.mem_cons_self).bind
        (fun kind _ => (headKind_rest rest kind).2) fun again same => ?_
      refine reads_kind_where (· ≠ .colon) (fun kind _ => (headKind_rest rest kind).1)
        fun kind notColon => ?_
      rw [if_neg notColon]
      refine readsMore.bind (fun _ _ => rfl) fun others sameOthers => ?_
      apply reads_expect_pure
      rw [Same, erased, erased, erasedExprs_eq (.cons same sameOthers)]

theorem readable_map {pairs : List (Expr × Expr)} (nonempty : pairs ≠ [])
    (readable : ∀ pair ∈ pairs, pair.1.Readable spell ∧ pair.2.Readable spell) :
    (map pairs).Readable spell := by
  refine readable_of_start rfl rfl fun depth enough => ?_
  rw [pieces, pairPieces_eq_map, List.length_cons, List.length_append] at enough
  rw [pieces, pairPieces_eq_map]
  refine reads_kind (reads_expect fun _ => ?_)
  have readsBoth pair (mem : pair ∈ pairs) :
      Reads spell Kind.endsExpr ((Parser.nested depth).expr .lowest) (wrapped pair.1.pieces)
        pair.1.Same ∧
      Reads spell Kind.endsExpr ((Parser.nested depth).expr .lowest) (wrapped pair.2.pieces)
        pair.2.Same := by
    have shorter := length_le_separated (List.mem_map_of_mem mem :
      wrapped pair.1.pieces ++ mark .colon :: wrapped pair.2.pieces ∈
        pairs.map fun pair => wrapped pair.1.pieces ++ mark .colon :: wrapped pair.2.pieces)
    rw [List.length_append, List.length_cons] at shorter
    have readableBoth := readable pair mem
    exact ⟨readableBoth.1.operand .lowest (by omega), readableBoth.2.operand .lowest (by omega)⟩
  have readsPair pair (mem : pair ∈ pairs) : Reads spell Kind.endsExpr
      (keyValue (Parser.nested depth))
        (wrapped pair.1.pieces ++ mark .colon :: wrapped pair.2.pieces) (SamePair pair) := by
    refine (readsBoth pair mem).1.bind (fun _ _ => rfl) fun key sameKey => ?_
    refine reads_expect fun _ => ?_
    exact (readsBoth pair mem).2.bind_pure fun value sameValue => ⟨sameKey, sameValue⟩
  cases pairs with
  | nil => contradiction
  | cons first rest =>
      have readsMore : Reads spell (· == Kind.closeCurly)
          (moreItems (keyValue (Parser.nested depth)))
            (rest.flatMap fun pair => mark .comma ::
              (wrapped pair.1.pieces ++ mark .colon :: wrapped pair.2.pieces))
              (List.Forall₂ SamePair rest) := by
        refine reads_moreItems Kind.endsExpr (fun _ closes => beq_iff_eq.mp closes) (by simp) rfl
          rfl ?_
        exact fun one mem => readsPair one (List.mem_cons_of_mem first mem)
      rw [List.map_cons, separated, List.flatMap_map]
      simp only [List.append_assoc, List.cons_append]
      apply reads_kind_of_cons rfl
      rw [if_neg (by simp)]
      refine (readsBoth first List.mem_cons_self).1.bind (fun _ _ => rfl) fun key sameKey => ?_
      apply reads_kind
      rw [kind_mark, if_pos rfl]
      apply reads_advance_bind
      refine (readsBoth first List.mem_cons_self).2.bind
        (fun kind _ => (headKind_rest rest kind).2) fun value sameValue => ?_
      refine readsMore.bind (fun _ _ => rfl) fun others sameOthers => ?_
      apply reads_expect_pure
      have same : SamePair first (key, value) := ⟨sameKey, sameValue⟩
      rw [Same, erased, erased, erasedPairs_eq (.cons same sameOthers)]

theorem reads_optionalComma : Reads spell anyKind optionalComma [mark .comma] fun _ => True := by
  apply reads_kind
  rw [kind_mark, if_pos rfl]
  intro _ state rest coming _
  exact ⟨(), state.tail, rfl, ParserState.upcoming_tail_of_cons coming, trivial⟩

theorem reads_optionalComma_none :
    Reads spell (· == .closeCurly) optionalComma [] fun _ => True := by
  refine reads_kind_behind fun kind ended => ?_
  rw [if_neg (by rw [beq_iff_eq.mp ended]; simp)]
  exact reads_pure trivial

/-- An attribute with its value, and the comma behind it where there is one. -/
theorem reads_attributeValue {ends : Kind → Bool} {comma : List Piece} {entry : String × Expr}
    (readable : entry.2.Readable spell) (enough : entry.2.pieces.length ≤ depth)
    (follows : ∀ kind, ends kind = true → Kind.endsExpr (headKind comma kind) = true)
    (readsComma : Reads spell ends optionalComma comma fun _ => True) :
    Reads spell ends (attributeValue (Parser.nested depth))
      (word entry.1 :: mark .colon :: (entry.2.pieces ++ comma)) (SameAttribute entry) := by
  refine reads_identifier (reads_expect fun _ => ?_)
  refine (readable.lowest enough).bind follows fun value same => ?_
  exact readsComma.bind_pure fun _ _ => ⟨rfl, same⟩

/-- The attributes of an entity, round by round. A round passes the comma behind its attribute. -/
theorem reads_attributes {attributes : List (String × Expr)}
    (readable : ∀ entry ∈ attributes, entry.2.Readable spell)
    (enough : ∀ entry ∈ attributes, entry.2.pieces.length ≤ depth) (rounds : Nat)
    (more : attributes.length < rounds) :
    Reads spell (· == .closeCurly)
      (collectUpTo (· != .closeCurly) (attributeValue (Parser.nested depth)) rounds)
      (separated (attributePieces attributes)) (List.Forall₂ SameAttribute attributes) := by
  have stops kind (ended : (kind == Kind.closeCurly) = true) : (kind != .closeCurly) = false := by
    rw [beq_iff_eq.mp ended]
    rfl
  induction attributes generalizing rounds with
  | nil => exact reads_collectUpTo_none stops
  | cons first rest ih =>
      cases rounds with
      | zero => contradiction
      | succ rounds =>
          have readableFirst := readable first List.mem_cons_self
          have enoughFirst := enough first List.mem_cons_self
          cases rest with
          | nil =>
              have readsFirst := reads_attributeValue readableFirst enoughFirst
                (fun kind ended => by rw [beq_iff_eq.mp ended]; rfl) reads_optionalComma_none
              have alone : separated (attributePieces [first]) =
                  word first.1 :: mark .colon :: (first.2.pieces ++ []) ++ [] := by
                simp [attributePieces, separated]
              rw [alone]
              exact reads_collectUpTo_succ rfl rfl readsFirst (fun _ ended => ended)
                (reads_collectUpTo_none stops)
          | cons second rest =>
              have readsFirst := reads_attributeValue readableFirst enoughFirst
                (fun _ _ => rfl) reads_optionalComma
              have readsRest := ih (fun entry mem => readable entry (List.mem_cons_of_mem _ mem))
                (fun entry mem => enough entry (List.mem_cons_of_mem _ mem)) rounds
                (Nat.lt_of_succ_lt_succ more)
              have split : separated (attributePieces (first :: second :: rest)) =
                  word first.1 :: mark .colon :: (first.2.pieces ++ [mark .comma]) ++
                    separated (attributePieces (second :: rest)) := by
                simp [attributePieces, separated]
              rw [split]
              exact reads_collectUpTo_succ rfl rfl readsFirst (fun _ _ => rfl) readsRest

theorem reads_entityLiteral (name : String) {attributes : List (String × Expr)}
    (readable : ∀ entry ∈ attributes, entry.2.Readable spell)
    (enough : (separated (attributePieces attributes)).length ≤ depth) :
    Reads spell anyKind (entityLiteral (Parser.nested depth) name)
      (mark .openCurly :: (separated (attributePieces attributes) ++ [mark .closeCurly]))
      (entity name attributes).Same := by
  have enoughOne entry (mem : entry ∈ attributes) : entry.2.pieces.length ≤ depth := by
    rw [attributePieces_eq_map] at enough
    have shorter := length_le_separated (List.mem_map_of_mem mem :
      word entry.1 :: mark .colon :: entry.2.pieces ∈
        attributes.map fun entry => word entry.1 :: mark .colon :: entry.2.pieces)
    simp only [List.length_cons] at shorter
    omega
  have long : attributes.length ≤ (separated (attributePieces attributes)).length := by
    rw [attributePieces_eq_map]
    refine le_of_eq_of_le (List.length_map _).symm (length_le_length_separated fun item mem => ?_)
    rcases List.mem_map.mp mem with ⟨entry, _, rfl⟩
    simp
  have readsAll : Reads spell (· == .closeCurly)
      (collectWhile (· != .closeCurly) (attributeValue (Parser.nested depth)))
      (separated (attributePieces attributes)) (List.Forall₂ SameAttribute attributes) := by
    intro spelled state rest coming ended
    have enoughRounds : attributes.length < state.remaining + 1 := by
      rw [ParserState.remaining, coming, List.length_append, List.length_map]
      omega
    exact reads_attributes readable enoughOne _ enoughRounds spelled state rest coming ended
  refine reads_expect fun _ => readsAll.bind (fun _ _ => rfl) fun again same => ?_
  apply reads_expect_pure
  rw [Same, erased, erased, erasedAttributes_eq same]

theorem readable_entity (name : String) {attributes : List (String × Expr)}
    (readable : ∀ entry ∈ attributes, entry.2.Readable spell) :
    (entity name attributes).Readable spell := by
  refine readable_of_start rfl rfl fun depth enough => ?_
  simp only [pieces, List.length_cons, List.length_append] at enough
  refine reads_kind (reads_identifier (reads_kind ?_))
  rw [kind_mark, if_pos rfl]
  exact (reads_entityLiteral name readable (by omega)).weaken fun _ _ => rfl

theorem readable_function {params : List (String × Ty)} {body : Block}
    (readableParams : ∀ param ∈ params, param.2.Readable spell)
    (readableBody : body.Readable spell) : (function params body).Readable spell := by
  refine readable_of_start rfl rfl fun depth enough => ?_
  simp only [pieces, List.length_cons, List.length_append] at enough
  refine reads_kind (reads_expect fun _ => ?_)
  refine reads_withTypes_parameters readableParams (reads_expect fun _ => ?_)
  refine ((readableBody.reads (by omega)).weaken fun _ _ => rfl).bind_pure fun again same => ?_
  rw [Same, erased, erased, same]

theorem readable_trailing (operator : UnaryOp) (steps : operator.isStep = true)
    (readable : left.Readable spell) : (unary operator .behind left).Readable spell := by
  have trails : operator.kind.exprTail? = some (.trailingOperator, .call) ∧
      operator.kind.trailingOp? = some operator := by
    cases operator <;> first | exact ⟨rfl, rfl⟩ | contradiction
  refine readable_of_tail readable rfl ?_ fun depth again enough same => ?_
  · rw [kind_mark, Kind.continuesExpr, trails.1]
    rfl
  · apply reads_kind
    rw [kind_mark, trails.1]
    apply reads_kind
    rw [kind_mark, trails.2]
    refine reads_advance_bind (reads_pure ?_)
    rw [Same, erased, erased, same]

theorem readable_binary (operator : BinaryOp) {right : Expr} (readable : left.Readable spell)
    (readableRight : right.Readable spell) : (binary operator left right).Readable spell := by
  have between : ∃ power, operator.kind.exprTail? = some (.binary, power) ∧
      operator.kind.binaryOp? = some operator ∧ operator.kind.continuesExpr .comma = true := by
    cases operator <;> exact ⟨_, rfl, rfl, rfl⟩
  rcases between with ⟨power, continues, names, tighter⟩
  refine readable_of_tail readable rfl tighter fun depth again enough same => ?_
  rw [List.length_cons] at enough
  apply reads_kind
  rw [kind_mark, continues]
  apply reads_kind
  rw [kind_mark, names]
  apply reads_advance_bind
  refine (readableRight.operand power (by omega)).bind_pure fun other sameRight => ?_
  rw [Same, erased, erased, same, sameRight]

theorem isAssignmentTarget_of_same {again : Expr} (same : left.Same again) :
    again.isAssignmentTarget = left.isAssignmentTarget := by
  have kept (expr : Expr) : expr.erased.isAssignmentTarget = expr.isAssignmentTarget := by
    cases expr <;> rfl
  rw [← kept again, same, kept]

theorem readable_assignment {value : Expr} (isTarget : left.isAssignmentTarget = true)
    (readable : left.Readable spell) (readableValue : value.Readable spell) :
    (assignment left value).Readable spell := by
  refine readable_of_tail readable rfl rfl fun depth again enough same => ?_
  rw [List.length_cons] at enough
  refine reads_kind (reads_advance_bind ?_)
  rw [(isAssignmentTarget_of_same same).trans isTarget, if_pos rfl]
  have loose : Power.comma.rank ≤ Power.comma.rank := Nat.le_refl _
  refine (readableValue.nested (by omega) loose).bind_pure fun other sameValue => ?_
  rw [Same, erased, erased, same, sameValue]

theorem readable_index {index : Expr} (readable : left.Readable spell)
    (readableIndex : index.Readable spell) : (Expr.index left index).Readable spell := by
  refine readable_of_tail readable rfl rfl fun depth again enough same => ?_
  rw [List.length_cons, List.length_append] at enough
  refine reads_kind (reads_expect fun _ => ?_)
  refine (readableIndex.lowest (by omega)).bind (fun _ _ => rfl) fun other sameIndex => ?_
  apply reads_expect_pure
  rw [Same, erased, erased, same, sameIndex]

theorem reads_arguments {values : List Expr} (readable : ∀ expr ∈ values, expr.Readable spell)
    (enough : (separated (wrappedPieces values)).length ≤ depth) :
    Reads spell Kind.endsExpr (Parser.arguments (Parser.nested depth))
      (mark .openParen :: (separated (wrappedPieces values) ++ [mark .closeParen]))
        (List.Forall₂ Same values) := by
  refine reads_expect fun _ => ?_
  refine (reads_elements readable .closeParen rfl (by simp) enough).bind (fun _ _ => rfl) ?_
  exact fun again same => reads_expect_pure same

theorem readable_call {values : List Expr} (readable : left.Readable spell)
    (readableValues : ∀ expr ∈ values, expr.Readable spell) :
    (call left values).Readable spell := by
  refine readable_of_tail readable rfl rfl fun depth again enough same => ?_
  rw [List.length_cons, List.length_append] at enough
  apply reads_kind
  refine (reads_arguments readableValues (by omega)).bind_pure fun others sameValues => ?_
  rw [Same, erased, erased, same, erasedExprs_eq sameValues]

theorem readable_member (name : String) (readable : left.Readable spell) :
    (member left name).Readable spell := by
  refine readable_of_tail readable rfl rfl fun depth again enough same => ?_
  refine reads_kind (reads_expect fun _ => reads_identifier ?_)
  refine reads_kind_behind fun kind ended => ?_
  rw [if_neg (by intro calls; rw [calls] at ended; contradiction)]
  apply reads_pure
  rw [Same, erased, erased, same]

theorem readable_methodCall (name : String) {values : List Expr} (readable : left.Readable spell)
    (readableValues : ∀ expr ∈ values, expr.Readable spell) :
    (methodCall left name values).Readable spell := by
  refine readable_of_tail readable rfl rfl fun depth again enough same => ?_
  simp only [List.length_cons, List.length_append] at enough
  refine reads_kind (reads_expect fun _ => reads_identifier (reads_kind ?_))
  rw [kind_mark, if_pos rfl]
  refine (reads_arguments readableValues (by omega)).bind_pure fun others sameValues => ?_
  rw [Same, erased, erased, same, erasedExprs_eq sameValues]

end Expr

end ScriptCheck
