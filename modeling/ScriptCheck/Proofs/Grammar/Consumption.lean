import ScriptCheck.Proofs.Grammar.Reading

/-!
# What parsers consume

A parser that succeeds has consumed tokens from the front of the list. `Consumes` says of which
kinds they are, together with the value that was found, for runs that start at tokens of certain
kinds.
-/

namespace ScriptCheck.Parser

variable {α β : Type}

def kinds (pieces : List Piece) : List Kind :=
  pieces.map Piece.kind

@[simp]
theorem kinds_nil : kinds [] = [] := rfl

@[simp]
theorem kinds_cons (piece : Piece) (pieces : List Piece) :
    kinds (piece :: pieces) = piece.kind :: kinds pieces := rfl

@[simp]
theorem kinds_append (pieces others : List Piece) :
    kinds (pieces ++ others) = kinds pieces ++ kinds others :=
  List.map_append

/-- A run that starts at a token of such a kind and succeeds has consumed tokens of certain kinds
and found a certain value. -/
def Consumes (starts : Kind → Prop) (parser : Parser α) (good : List Kind → α → Prop) : Prop :=
  ∀ state value after, starts (Kind.ahead state.upcoming) → parser state = .ok value after →
    ∃ used, state.upcoming.map Token.kind = used ++ after.upcoming.map Token.kind ∧
      good used value

/-- Runs may start anywhere. -/
def anywhere : Kind → Prop :=
  fun _ => True

variable {starts : Kind → Prop} {parser : Parser α} {next : α → Parser β}
variable {good : List Kind → α → Prop} {best : List Kind → β → Prop}

theorem Consumes.from (consumes : Consumes anywhere parser good) : Consumes starts parser good :=
  fun state value after _ ran => consumes state value after trivial ran

theorem Consumes.mono {good' : List Kind → α → Prop} (consumes : Consumes starts parser good)
    (weaker : ∀ used value, good used value → good' used value) : Consumes starts parser good' := by
  intro state value after start ran
  rcases consumes state value after start ran with ⟨used, same, isGood⟩
  exact ⟨used, same, weaker used value isGood⟩

theorem Consumes.yields {good : α → Prop}
    (consumes : Consumes anywhere parser fun _ value => good value) : Yields good parser := by
  intro state value after ran
  rcases consumes state value after trivial ran with ⟨_, _, isGood⟩
  exact isGood

theorem consumes_pure {value : α} (isGood : good [] value) :
    Consumes starts (pure value) good := by
  intro state found after _ ran
  rcases EStateM.Result.ok.inj ran with ⟨rfl, rfl⟩
  exact ⟨[], rfl, isGood⟩

theorem consumes_unexpected : Consumes starts unexpected good := by
  intro state value after _ ran
  contradiction

theorem Consumes.bind (consumes : Consumes starts parser good)
    (consumesNext : ∀ used value, good used value →
      Consumes anywhere (next value) fun more result => best (used ++ more) result) :
    Consumes starts (parser >>= next) best := by
  intro state value after start ran
  rcases ok_of_bind_eq_ok ran with ⟨found, passed, ranFirst, ranNext⟩
  rcases consumes state found passed start ranFirst with ⟨used, same, isGood⟩
  rcases consumesNext used found isGood passed value after trivial ranNext with
    ⟨more, sameMore, isBest⟩
  refine ⟨used ++ more, ?_, isBest⟩
  rw [same, sameMore, List.append_assoc]

/-- After a look at the kind of the current token, runs start at that kind. -/
theorem consumes_kind {next : Kind → Parser β}
    (consumes : ∀ kind, starts kind → Consumes (· = kind) (next kind) best) :
    Consumes starts (kind >>= next) best := by
  intro state value after start ran
  rw [bind_of_ok (kind_apply state)] at ran
  exact consumes _ start state value after rfl ran

theorem exists_cons_of_ahead {tokens : List Token} (proper : Kind.ahead tokens ≠ .eof) :
    ∃ token rest, tokens = token :: rest ∧ token.kind = Kind.ahead tokens := by
  cases tokens with
  | nil => contradiction
  | cons token rest => exact ⟨token, rest, rfl, rfl⟩

theorem consumes_advance {first : Kind} (proper : first ≠ .eof) :
    Consumes (· = first) advance fun used _ => used = [first] := by
  rintro state value after rfl ran
  rcases exists_cons_of_ahead proper with ⟨token, rest, coming, same⟩
  rw [advance_apply, EStateM.Result.ok.injEq] at ran
  rw [← ran.2, ParserState.upcoming_tail_of_cons coming, ← same, coming]
  exact ⟨[token.kind], rfl, rfl⟩

theorem consumes_expect {expected : Kind} (proper : expected ≠ .eof) :
    Consumes starts (expect expected) fun used _ => used = [expected] := by
  intro state value after _ ran
  by_cases same : Kind.ahead state.upcoming = expected
  · rw [expect, expectOr_of_kind same] at ran
    exact consumes_advance proper state value after same ran
  · have looked : current state = .ok state.current state := rfl
    rw [← state.kind_current] at same
    rw [expect, expectOr, bind_of_ok looked, if_neg same] at ran
    contradiction

theorem consumes_identifier :
    Consumes starts identifier fun used _ => used = [.identifier] := by
  refine (consumes_expect (by simp)).bind fun used token same => consumes_pure ?_
  rw [same, List.append_nil]

section Loops

variable {again : Kind → Bool} {item : Parser α} {property : α → Prop}

theorem consumes_collectWhile {cost : α → List Kind}
    (consumes : ∀ kind, again kind = true →
      Consumes (· = kind) item fun used value => property value ∧ used = cost value) :
    Consumes starts (collectWhile again item) fun used values =>
      (∀ value ∈ values, property value) ∧ used = values.flatMap cost := by
  have rounds (count : Nat) : ∀ starts, Consumes starts (collectUpTo again item count)
      fun used values => (∀ value ∈ values, property value) ∧ used = values.flatMap cost := by
    induction count with
    | zero => exact fun _ => consumes_pure ⟨by simp, rfl⟩
    | succ count ih =>
        intro starts
        refine consumes_kind fun kind _ => ?_
        split
        · rename_i goesOn
          refine (consumes kind goesOn).bind fun used value isGood => ?_
          refine (ih _).bind fun more values areGood => consumes_pure ⟨?_, ?_⟩
          · exact List.forall_mem_cons.mpr ⟨isGood.1, areGood.1⟩
          · rw [isGood.2, areGood.2, List.append_nil, List.flatMap_cons]
        · exact consumes_pure ⟨by simp, rfl⟩
  intro state values after start ran
  exact rounds _ starts state values after start ran

theorem consumes_repeatWhile {written : α → List Piece} {step : α → Parser α} {value : α}
    (isGood : property value)
    (consumes : ∀ kind value, again kind = true → property value →
      Consumes (· = kind) (step value) fun used longer =>
        property longer ∧ kinds (written longer) = kinds (written value) ++ used) :
    Consumes starts (repeatWhile again step value) fun used longer =>
      property longer ∧ kinds (written longer) = kinds (written value) ++ used := by
  have rounds (count : Nat) : ∀ starts value, property value →
      Consumes starts (repeatUpTo again step count value) fun used longer =>
        property longer ∧ kinds (written longer) = kinds (written value) ++ used := by
    induction count with
    | zero => exact fun _ value isGood => consumes_pure ⟨isGood, (List.append_nil _).symm⟩
    | succ count ih =>
        intro starts value isGood
        refine consumes_kind fun kind _ => ?_
        split
        · rename_i goesOn
          refine (consumes kind value goesOn isGood).bind fun used longer isLonger => ?_
          refine (ih _ longer isLonger.1).mono fun more longest isLongest => ⟨isLongest.1, ?_⟩
          rw [isLongest.2, isLonger.2, List.append_assoc]
        · exact consumes_pure ⟨isGood, (List.append_nil _).symm⟩
  intro state longer after start ran
  exact rounds _ starts value isGood state longer after start ran

theorem consumes_itemsUntil {close : Kind} {written : α → List Piece}
    (consumes : Consumes anywhere item fun used value =>
      property value ∧ used = kinds (written value)) :
    Consumes starts (itemsUntil close item) fun used values =>
      (∀ value ∈ values, property value) ∧ used = kinds (separated (values.map written)) := by
  have consumesMore (kind : Kind) (comma : decide (kind = .comma) = true) :
      Consumes (· = kind) (advance *> item) fun used value =>
        property value ∧ used = kinds (mark .comma :: written value) := by
    rw [decide_eq_true_eq] at comma
    subst comma
    show Consumes _ (advance >>= fun _ => item) _
    refine (consumes_advance (by simp)).bind fun used _ same => ?_
    refine consumes.mono fun more value isGood => ⟨isGood.1, ?_⟩
    rw [same, isGood.2]
    rfl
  refine consumes_kind fun kind _ => ?_
  split
  · exact consumes_pure ⟨by simp, rfl⟩
  · refine consumes.from.bind fun used value isGood => ?_
    refine (consumes_collectWhile consumesMore).bind fun more values areGood => ?_
    refine consumes_pure ⟨?_, ?_⟩
    · exact List.forall_mem_cons.mpr ⟨isGood.1, areGood.1⟩
    · rw [isGood.2, areGood.2, List.append_nil, List.map_cons, separated, List.flatMap_map,
        kinds_append, kinds, kinds, List.map_flatMap]
      rfl

end Loops

end ScriptCheck.Parser
