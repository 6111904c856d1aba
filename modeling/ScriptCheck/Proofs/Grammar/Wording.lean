import ScriptCheck.Proofs.Grammar.StmtReading

/-!
# Types are read by their wording

The grammar of types looks at the kinds of tokens and at the texts of names. Where a token stands,
and how the text of a reserved word or of a mark is spelled, makes no difference. So two lists with
the same wording are read alike: the same type is found, and as many tokens are passed.
-/

namespace ScriptCheck

/-- What the grammar of types sees of a token: its kind, and the text if it is a name. -/
def Token.wording (token : Token) : Kind × Option String :=
  (token.kind, if token.kind = .identifier then some token.value else none)

/-- What the grammar of types sees of a piece. -/
def Piece.wording : Piece → Kind × Option String
  | .word kind value => (kind, if kind = .identifier then some value else none)
  | .number _ => (.floatLiteral, none)

@[simp]
theorem Piece.wording_token (spell : Number.Binary64 → String) (piece : Piece) :
    (piece.token spell).wording = piece.wording := by
  cases piece <;> rfl

namespace ParserState

/-- The state behind the next tokens. -/
def skip (count : Nat) (state : ParserState) : ParserState :=
  { state with upcoming := state.upcoming.drop count }

@[simp]
theorem skip_skip (first second : Nat) (state : ParserState) :
    (state.skip first).skip second = state.skip (first + second) := by
  simp [skip]

theorem tail_eq_skip (state : ParserState) : state.tail = state.skip 1 := by
  simp [tail, skip]

/-- What is left to be read has the same wording. -/
def SameWording (first second : ParserState) : Prop :=
  first.upcoming.map Token.wording = second.upcoming.map Token.wording

namespace SameWording

variable {first second : ParserState}

theorem skip (same : first.SameWording second) (count : Nat) :
    (first.skip count).SameWording (second.skip count) := by
  simp only [SameWording, ParserState.skip, List.map_drop]
  exact congrArg (List.drop count) same

theorem remaining_eq (same : first.SameWording second) : first.remaining = second.remaining := by
  simpa [remaining] using congrArg List.length same

/-- The next tokens are seen alike. Behind both lists there is an end token. -/
theorem current (same : first.SameWording second) :
    first.current.wording = second.current.wording := by
  have ended (state : ParserState) : state.final.wording = (.eof, none) := by
    simp [Token.wording, state.final_kind]
  have heads := congrArg List.head? same
  rw [List.head?_map, List.head?_map] at heads
  rw [ParserState.current, ParserState.current]
  generalize first.upcoming.head? = head at heads ⊢
  generalize second.upcoming.head? = headAgain at heads ⊢
  cases head <;> cases headAgain <;> simp_all

theorem ahead (same : first.SameWording second) :
    Kind.ahead first.upcoming = Kind.ahead second.upcoming := by
  rw [← first.kind_current, ← second.kind_current]
  exact congrArg Prod.fst same.current

end SameWording

end ParserState

namespace Parser

open ParserState (SameWording)

variable {α β : Type}

theorem kinds_of_wording {tokens : List Token} {pieces : List Piece}
    (worded : tokens.map Token.wording = pieces.map Piece.wording) :
    tokens.map Token.kind = kinds pieces := by
  have first := congrArg (List.map Prod.fst) worded
  rw [List.map_map, List.map_map] at first
  rw [kinds, show Token.kind = Prod.fst ∘ Token.wording from rfl, first]
  refine List.map_congr_left fun piece _ => ?_
  cases piece <;> rfl

/-- Where the parser succeeds, it passes some tokens and changes nothing else, and it does the same
wherever what is left has the same wording. -/
def Minds (parser : Parser α) : Prop :=
  ∀ (first : ParserState) value after, parser first = .ok value after →
    ∃ count, after = first.skip count ∧ ∀ second : ParserState, first.SameWording second →
      parser second = .ok value (second.skip count)

variable {parser : Parser α} {next : α → Parser β}

theorem minds_pure (value : α) : Minds (pure value) := by
  intro first _ _ ran
  cases ran
  exact ⟨0, rfl, fun second _ => rfl⟩

theorem Minds.bind (minds : Minds parser) (mindsNext : ∀ value, Minds (next value)) :
    Minds (parser >>= next) := by
  intro first value after ran
  obtain ⟨found, between, ranFirst, ranNext⟩ := ok_of_bind_eq_ok ran
  obtain ⟨count, rfl, again⟩ := minds first found between ranFirst
  obtain ⟨more, rfl, further⟩ := mindsNext found _ value after ranNext
  refine ⟨count + more, by simp, ?_⟩
  intro second same
  rw [bind_of_ok (again second same), further _ (same.skip count), ParserState.skip_skip]

theorem minds_unexpected : Minds (unexpected : Parser α) := by
  intro first value after ran
  contradiction

theorem minds_kind {next : Kind → Parser β} (minds : ∀ kind, Minds (next kind)) :
    Minds (kind >>= next) := by
  intro first value after ran
  rw [bind_of_ok (kind_apply first)] at ran
  obtain ⟨count, passed, again⟩ := minds _ first value after ran
  refine ⟨count, passed, ?_⟩
  intro second same
  rw [bind_of_ok (kind_apply second), ← same.ahead]
  exact again second same

/-- The token that is passed is not looked at. -/
theorem minds_advance {parser : Parser α} (minds : Minds parser) :
    Minds (advance >>= fun _ => parser) := by
  intro first value after ran
  rw [bind_of_ok (advance_apply first), ParserState.tail_eq_skip] at ran
  obtain ⟨count, rfl, again⟩ := minds _ value after ran
  refine ⟨1 + count, by simp, ?_⟩
  intro second same
  rw [bind_of_ok (advance_apply second), ParserState.tail_eq_skip, again _ (same.skip 1),
    ParserState.skip_skip]

theorem ok_of_expect {expected : Kind} {state after : ParserState} {token : Token}
    (ran : expect expected state = .ok token after) :
    Kind.ahead state.upcoming = expected ∧ token = state.current ∧ after = state.tail := by
  by_cases same : Kind.ahead state.upcoming = expected
  · rw [expect, expectOr_of_kind same] at ran
    cases ran
    exact ⟨same, rfl, rfl⟩
  · rw [← state.kind_current] at same
    have looked : current state = .ok state.current state := rfl
    rw [expect, expectOr, bind_of_ok looked, if_neg same] at ran
    contradiction

theorem minds_expect {expected : Kind} {parser : Parser α} (minds : Minds parser) :
    Minds (expect expected >>= fun _ => parser) := by
  intro first value after ran
  obtain ⟨token, between, ranExpect, ranNext⟩ := ok_of_bind_eq_ok ran
  obtain ⟨isExpected, rfl, rfl⟩ := ok_of_expect ranExpect
  obtain ⟨count, passed, again⟩ := minds_advance minds first value after ranNext
  refine ⟨count, passed, ?_⟩
  intro second same
  rw [same.ahead] at isExpected
  rw [expect, bind_of_ok (expectOr_of_kind isExpected)]
  exact again second same

theorem minds_identifier : Minds identifier := by
  intro first value after ran
  obtain ⟨token, between, ranExpect, ranNext⟩ := ok_of_bind_eq_ok ran
  cases ranNext
  obtain ⟨isName, rfl, rfl⟩ := ok_of_expect ranExpect
  refine ⟨1, first.tail_eq_skip, ?_⟩
  intro second same
  have sameText := congrArg Prod.snd same.current
  have isNameAgain := isName
  rw [same.ahead] at isNameAgain
  rw [identifier, expect, bind_of_ok (expectOr_of_kind isNameAgain), ← second.tail_eq_skip]
  rw [← first.kind_current] at isName
  rw [← second.kind_current] at isNameAgain
  simp only [Token.wording, isName, isNameAgain, if_true, Option.some.injEq] at sameText
  rw [sameText]
  rfl

section Loops

variable {again : Kind → Bool} {step : α → Parser α} {item : Parser α}

theorem minds_repeatUpTo (minds : ∀ value, Minds (step value)) (rounds : Nat) :
    ∀ value, Minds (repeatUpTo again step rounds value) := by
  induction rounds with
  | zero => exact minds_pure
  | succ rounds ih =>
      intro value
      apply minds_kind
      intro kind
      split
      · exact (minds value).bind ih
      · exact minds_pure value

theorem minds_collectUpTo (minds : Minds item) (rounds : Nat) :
    Minds (collectUpTo again item rounds) := by
  induction rounds with
  | zero => exact minds_pure []
  | succ rounds ih =>
      apply minds_kind
      intro kind
      split
      · apply minds.bind
        intro first
        apply ih.bind
        intro rest
        exact minds_pure (first :: rest)
      · exact minds_pure []

/-- What is run may depend on how many tokens are left. -/
theorem minds_of_remaining {next : Nat → Parser α}
    (runs : ∀ state, parser state = next state.remaining state)
    (minds : ∀ count, Minds (next count)) : Minds parser := by
  intro first value after ran
  rw [runs] at ran
  obtain ⟨count, passed, again⟩ := minds first.remaining first value after ran
  refine ⟨count, passed, ?_⟩
  intro second same
  rw [runs, ← same.remaining_eq]
  exact again second same

theorem minds_repeatWhile (minds : ∀ value, Minds (step value)) (value : α) :
    Minds (repeatWhile again step value) :=
  minds_of_remaining (fun _ => rfl) fun count => minds_repeatUpTo minds (count + 1) value

theorem minds_itemsUntil {close : Kind} (minds : Minds item) : Minds (itemsUntil close item) := by
  have another : Minds (advance *> item) := minds_advance minds
  have rounds (count : Nat) : Minds (collectUpTo (· = .comma) (advance *> item) (count + 1)) :=
    minds_collectUpTo another (count + 1)
  have more : Minds (moreItems item) := minds_of_remaining (fun _ => rfl) rounds
  apply minds_kind
  intro kind
  split
  · exact minds_pure []
  · apply minds.bind
    intro first
    apply more.bind
    intro rest
    exact minds_pure (first :: rest)

end Loops

variable {inside : Parser Ty}

theorem minds_resultType (minds : Minds inside) : Minds (resultType inside) := by
  apply minds_kind
  intro kind
  split
  · exact minds_advance (minds_pure Ty.void)
  · exact minds

theorem minds_parameters (minds : Minds inside) : Minds (parameters inside) := by
  have one : Minds (parameter inside) := by
    apply minds.bind
    intro type
    apply minds_identifier.bind
    intro name
    exact minds_pure (name, type)
  apply minds_expect
  apply (minds_itemsUntil one).bind
  intro params
  exact minds_expect (minds_pure params)

theorem minds_functionType (minds : Minds inside) : Minds (functionType inside) := by
  apply minds_expect
  apply minds_expect
  apply (minds_resultType minds).bind
  intro result
  apply minds_expect
  apply (minds_parameters minds).bind
  intro params
  exact minds_expect (minds_pure (Ty.function { result, params }))

theorem minds_typeStart (minds : Minds inside) : Minds (typeStart inside) := by
  apply minds_kind
  intro kind
  split
  · exact minds_unexpected
  · apply minds_kind
    intro kind
    split
    · exact minds_unexpected
    · exact minds_advance (minds_pure _)
  · apply minds_identifier.bind
    intro name
    exact minds_pure (Ty.named name)
  · exact minds_functionType minds

theorem minds_typeTail (minds : Minds inside) (left : Ty) : Minds (typeTail inside left) := by
  apply minds_kind
  intro kind
  split
  · exact minds_unexpected
  · exact minds_expect (minds_expect (minds_pure (Ty.array left)))
  · apply minds_expect
    apply minds_kind
    intro kind
    split
    · exact minds_advance (minds_pure (Ty.set left))
    · apply minds.bind
      intro key
      exact minds_expect (minds_pure (Ty.map key left))

theorem minds_typeForm (minds : Minds inside) (power : Power) : Minds (typeForm inside power) := by
  apply (minds_typeStart minds).bind
  exact minds_repeatWhile (minds_typeTail minds)

theorem minds_nestedType (depth : Nat) : Minds (nestedType depth) := by
  induction depth with
  | zero => exact minds_unexpected
  | succ depth ih => exact minds_typeForm ih .lowest

theorem minds_parseType (power : Power) : Minds (parseType power) :=
  minds_of_remaining (fun _ => rfl) fun count => minds_typeForm (minds_nestedType count) power

end Parser

mutual

/-- There are no floats in types. -/
theorem Ty.number_notMem_pieces (value : Number.Binary64) :
    ∀ type : Ty, .number value ∉ type.pieces
  | .primitive _ | .named _ => by simp [Ty.pieces, mark, word]
  | .template _ => by simp [Ty.pieces, word]
  | .array element | .set element => by
      simp [Ty.pieces, mark, element.number_notMem_pieces value]
  | .map key element => by
      simp [Ty.pieces, mark, key.number_notMem_pieces value, element.number_notMem_pieces value]
  | .function signature => by
      rw [Ty.pieces]
      exact signature.number_notMem_pieces value
  termination_by structural type => type

theorem Signature.number_notMem_pieces (value : Number.Binary64) :
    ∀ signature : Signature, .number value ∉ signature.pieces
  | ⟨result, params⟩ => by
      have inParams : .number value ∉ separated (paramPieces params) := by
        have each := number_notMem_paramPieces value params
        cases written : paramPieces params with
        | nil => simp [separated]
        | cons first rest =>
            rw [written] at each
            simp_all [separated, mark]
      simp [Signature.pieces, mark, result.number_notMem_pieces value, inParams]
  termination_by structural signature => signature

theorem number_notMem_paramPieces (value : Number.Binary64) :
    ∀ params : List (String × Ty), ∀ item ∈ paramPieces params, .number value ∉ item
  | [] => by simp [paramPieces]
  | (name, type) :: rest => by
      rw [paramPieces, List.forall_mem_cons]
      exact ⟨by simp [word, type.number_notMem_pieces value], number_notMem_paramPieces value rest⟩
  termination_by structural params => params

end

variable {spell : Number.Binary64 → String}

/-- A type is read from any tokens with its wording, up to a token that does not continue it, and
nothing but these tokens is passed. -/
theorem Ty.Readable.parseType_of_wording {type : Ty} (readable : type.Readable spell)
    {state : ParserState} {written rest : List Token}
    (coming : state.upcoming = written ++ rest)
    (worded : written.map Token.wording = type.pieces.map Piece.wording)
    (ends : (Kind.ahead rest).endsType = true) :
    Parser.parseType .lowest state = .ok type { state with upcoming := rest } := by
  -- The same type in writing, with the same tokens behind it.
  let printed : ParserState :=
    { state with upcoming := type.pieces.map (Piece.token spell) ++ rest }
  have same : printed.SameWording state := by
    simp [printed, ParserState.SameWording, coming, worded, Function.comp_def]
  have long : type.pieces.length = written.length := by
    simpa using (congrArg List.length worded).symm
  have noFloats value (mem : .number value ∈ type.pieces) :
      Number.Binary64.read? (spell value) = some value :=
    absurd mem (type.number_notMem_pieces value)
  obtain ⟨found, after, ran, left, rfl⟩ :=
    Parser.reads_parseType readable noFloats printed rest rfl ends
  obtain ⟨count, rfl, again⟩ := Parser.minds_parseType .lowest printed _ after ran
  rw [again state same]
  -- As many tokens are left as in the written form, so what is left is the rest.
  have behind : state.upcoming.drop count = rest := by
    have few := congrArg List.length left
    simp only [ParserState.skip, printed, List.length_drop, List.length_append,
      List.length_map] at few
    rw [coming]
    rcases Nat.lt_or_ge written.length count with beyond | within
    · have none : rest.length = 0 := by omega
      rw [List.length_eq_zero_iff.mp none, List.append_nil]
      exact List.drop_eq_nil_of_le (Nat.le_of_lt beyond)
    · have exact : count = written.length := by omega
      rw [exact, List.drop_left]
  rw [ParserState.skip, behind]

end ScriptCheck
