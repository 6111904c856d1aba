import Mathlib.Data.List.Forall2
import ScriptCheck.Proofs.Grammar.Writing
import ScriptCheck.Proofs.Run

/-!
# Reading what is written

`Reads` says that a parser reads given pieces, whatever comes behind them, as long as the next kind
of token ends them. `Yields` says something about the value of every successful run, whatever was
read. Both come with a rule for each way in which parsers are put together.
-/

namespace ScriptCheck

variable {α β : Type}

/-- The kind of the first token of a list, which is the end token behind the list. -/
def Kind.ahead (tokens : List Token) : Kind :=
  (tokens.head?.map Token.kind).getD .eof

namespace ParserState

theorem kind_current (state : ParserState) : state.current.kind = Kind.ahead state.upcoming := by
  rw [current, Kind.ahead]
  cases state.upcoming.head? with
  | none => exact state.final_kind
  | some token => rfl

theorem current_of_cons {state : ParserState} {token : Token} {rest : List Token}
    (coming : state.upcoming = token :: rest) : state.current = token := by
  rw [current, coming]
  rfl

theorem upcoming_tail_of_cons {state : ParserState} {token : Token} {rest : List Token}
    (coming : state.upcoming = token :: rest) : state.tail.upcoming = rest := by
  rw [tail, coming]
  rfl

/-- A list of tokens that is closed by an end token is read up to there. -/
theorem ofTokens_concat (front : List Token) {last : Token} (ended : last.kind = .eof)
    (file : String) :
    ofTokens (front ++ [last]) file =
      { upcoming := front, final := last, nextId := firstId, file, final_kind := ended } := by
  unfold ofTokens
  split
  · rename_i none
    simp at none
  · rename_i other found
    rw [List.getLast?_concat, Option.some.injEq] at found
    subst found
    rw [dif_pos ended]
    simp

end ParserState

namespace Parser

variable {spell : Number.Binary64 → String} {ends between : Kind → Bool}
variable {parser : Parser α} {next : α → Parser β}

theorem kind_apply (state : ParserState) :
    kind state = .ok (Kind.ahead state.upcoming) state := by
  rw [← state.kind_current]
  rfl

theorem advance_apply (state : ParserState) : advance state = .ok state.current state.tail := rfl

/-- Any kind of token ends what is read. -/
def anyKind : Kind → Bool :=
  fun _ => true

/-- The kind that comes first where pieces are read in front of a kind of token. -/
def headKind : List Piece → Kind → Kind
  | [], behind => behind
  | piece :: _, _ => piece.kind

theorem ahead_token_append (spell : Number.Binary64 → String) (pieces : List Piece)
    (rest : List Token) :
    Kind.ahead (pieces.map (Piece.token spell) ++ rest) = headKind pieces (Kind.ahead rest) := by
  cases pieces with
  | nil => rfl
  | cons piece pieces =>
      cases piece with
      | word kind value => rfl
      | number value => rfl

/-- The parser reads the pieces, where floats are spelled in a way that is read back, up to a token
of a kind that ends them. -/
def Reads (spell : Number.Binary64 → String) (ends : Kind → Bool) (parser : Parser α)
    (pieces : List Piece) (good : α → Prop) : Prop :=
  (∀ value, .number value ∈ pieces → Number.Binary64.read? (spell value) = some value) →
  ∀ (state : ParserState) (rest : List Token),
    state.upcoming = pieces.map (Piece.token spell) ++ rest → ends (Kind.ahead rest) = true →
    ∃ value after, parser state = .ok value after ∧ after.upcoming = rest ∧ good value

variable {pieces others : List Piece} {good : α → Prop} {best : β → Prop}

theorem Reads.weaken (reads : Reads spell between parser pieces good)
    (weaker : ∀ kind, ends kind = true → between kind = true) :
    Reads spell ends parser pieces good :=
  fun spelled state rest coming ended => reads spelled state rest coming (weaker _ ended)

theorem reads_pure {value : α} (isGood : good value) : Reads spell ends (pure value) [] good :=
  fun _ state _ coming _ => ⟨value, state, rfl, coming, isGood⟩

/-- One parser after another. The first kind behind the first pieces has to end them. -/
theorem Reads.bind (reads : Reads spell between parser pieces good)
    (follows : ∀ kind, ends kind = true → between (headKind others kind) = true)
    (readsNext : ∀ value, good value → Reads spell ends (next value) others best) :
    Reads spell ends (parser >>= next) (pieces ++ others) best := by
  intro spelled state rest coming ended
  rw [List.map_append, List.append_assoc] at coming
  have endsFirst : between (Kind.ahead (others.map (Piece.token spell) ++ rest)) = true := by
    rw [ahead_token_append]
    exact follows _ ended
  have spelledFirst value (mem : .number value ∈ pieces) :=
    spelled value (List.mem_append_left others mem)
  have spelledNext value (mem : .number value ∈ others) :=
    spelled value (List.mem_append_right pieces mem)
  rcases reads spelledFirst state _ coming endsFirst with ⟨value, passed, ran, left, isGood⟩
  rw [bind_of_ok ran]
  exact readsNext value isGood spelledNext passed rest left ended

theorem Reads.bind_pure {change : α → β} (reads : Reads spell ends parser pieces good)
    (isBest : ∀ value, good value → best (change value)) :
    Reads spell ends (parser >>= fun value => pure (change value)) pieces best := by
  have both : Reads spell ends (parser >>= fun value => pure (change value)) (pieces ++ []) best :=
    reads.bind (fun _ ended => ended) fun value isGood => reads_pure (isBest value isGood)
  rwa [List.append_nil] at both

theorem reads_position {next : Position → Parser β}
    (reads : ∀ start, Reads spell ends (next start) pieces best) :
    Reads spell ends (position >>= next) pieces best := by
  intro spelled state rest coming ended
  have ran : position state = .ok state.current.start state := rfl
  rw [bind_of_ok ran]
  exact reads _ spelled state rest coming ended

theorem reads_freshId {next : Nat → Parser β}
    (reads : ∀ id, Reads spell ends (next id) pieces best) :
    Reads spell ends (freshId >>= next) pieces best := by
  intro spelled state rest coming ended
  exact reads state.nextId spelled { state with nextId := state.nextId + 1 } rest coming ended

/-- A decision by the kind of the token that comes first, which may be behind the pieces. -/
theorem reads_kind_where {next : Kind → Parser β} (property : Kind → Prop)
    (holds : ∀ behind, ends behind = true → property (headKind pieces behind))
    (reads : ∀ kind, property kind → Reads spell ends (next kind) pieces best) :
    Reads spell ends (kind >>= next) pieces best := by
  intro spelled state rest coming ended
  have same : Kind.ahead state.upcoming = headKind pieces (Kind.ahead rest) := by
    rw [coming, ahead_token_append]
  rw [bind_of_ok (kind_apply state), same]
  exact reads _ (holds _ ended) spelled state rest coming ended

theorem reads_kind_of_cons {next : Kind → Parser β} {piece : Piece}
    (same : pieces = piece :: others) (reads : Reads spell ends (next piece.kind) pieces best) :
    Reads spell ends (kind >>= next) pieces best := by
  refine reads_kind_where (· = piece.kind) (fun _ _ => by rw [same]; rfl) ?_
  rintro _ rfl
  exact reads

theorem reads_kind {next : Kind → Parser β} {piece : Piece}
    (reads : Reads spell ends (next piece.kind) (piece :: pieces) best) :
    Reads spell ends (kind >>= next) (piece :: pieces) best :=
  reads_kind_of_cons rfl reads

theorem reads_kind_behind {next : Kind → Parser β}
    (reads : ∀ kind, ends kind = true → Reads spell ends (next kind) [] best) :
    Reads spell ends (kind >>= next) [] best :=
  reads_kind_where (fun kind => ends kind = true) (fun _ ended => ended) reads

theorem reads_current {next : Token → Parser β} {piece : Piece}
    (reads : Reads spell ends (next (piece.token spell)) (piece :: pieces) best) :
    Reads spell ends (current >>= next) (piece :: pieces) best := by
  intro spelled state rest coming ended
  have ran : current state = .ok state.current state := rfl
  rw [bind_of_ok ran, ParserState.current_of_cons coming]
  exact reads spelled state rest coming ended

theorem reads_advance (piece : Piece) :
    Reads spell anyKind advance [piece] (· = piece.token spell) := by
  intro _ state rest coming _
  exact ⟨_, _, rfl, ParserState.upcoming_tail_of_cons coming, ParserState.current_of_cons coming⟩

theorem reads_advance_bind {next : Token → Parser β} {piece : Piece}
    (reads : Reads spell ends (next (piece.token spell)) pieces best) :
    Reads spell ends (advance >>= next) (piece :: pieces) best := by
  show Reads spell ends (advance >>= next) ([piece] ++ pieces) best
  refine (reads_advance piece).bind (fun _ _ => rfl) ?_
  rintro _ rfl
  exact reads

theorem expectOr_of_kind {expected : Kind} {fault : Token → SyntaxFault} {state : ParserState}
    (same : Kind.ahead state.upcoming = expected) :
    expectOr expected fault state = .ok state.current state.tail := by
  rw [← state.kind_current] at same
  have ran : current state = .ok state.current state := rfl
  rw [expectOr, bind_of_ok ran, if_pos same]
  rfl

theorem reads_expectOr {expected : Kind} {value : String} {fault : Token → SyntaxFault}
    {next : Token → Parser β}
    (reads : Reads spell ends (next ((Piece.word expected value).token spell)) pieces best) :
    Reads spell ends (expectOr expected fault >>= next) (.word expected value :: pieces) best := by
  intro spelled state rest coming ended
  have same : Kind.ahead state.upcoming = expected := by
    rw [coming, ahead_token_append]
    rfl
  rw [bind_of_ok (expectOr_of_kind same), ParserState.current_of_cons coming]
  refine reads (fun number mem => spelled number (List.mem_cons_of_mem _ mem)) _ rest ?_ ended
  exact ParserState.upcoming_tail_of_cons coming

theorem reads_expect {expected : Kind} {value : String} {next : Token → Parser β}
    (reads : ∀ token, Reads spell ends (next token) pieces best) :
    Reads spell ends (expect expected >>= next) (.word expected value :: pieces) best :=
  reads_expectOr (reads _)

theorem reads_identifier {name : String} {next : String → Parser β}
    (reads : Reads spell ends (next name) pieces best) :
    Reads spell ends (identifier >>= next) (word name :: pieces) best := by
  rw [identifier, bind_assoc]
  exact reads_expectOr reads

theorem reads_expect_pure {expected : Kind} {value : String} {result : β} (isBest : best result) :
    Reads spell ends (expect expected >>= fun _ => pure result) [.word expected value] best :=
  reads_expect fun _ => reads_pure isBest

theorem reads_withTypes {form : Parser Ty → Parser β}
    (reads : ∀ depth, pieces.length ≤ depth →
      Reads spell ends (form (nestedType depth)) pieces best) :
    Reads spell ends (withTypes form) pieces best := by
  intro spelled state rest coming ended
  have enough : pieces.length ≤ state.remaining := by
    rw [ParserState.remaining, coming, List.length_append, List.length_map]
    omega
  exact reads _ enough spelled state rest coming ended

theorem length_le_length_flatMap {Item : Type} {written : Item → List Piece} {items : List Item}
    (nonempty : ∀ one ∈ items, 1 ≤ (written one).length) :
    items.length ≤ (items.flatMap written).length := by
  induction items with
  | nil => exact Nat.zero_le _
  | cons one items ih =>
      have first := nonempty one List.mem_cons_self
      have rest := ih fun other mem => nonempty other (List.mem_cons_of_mem one mem)
      rw [List.flatMap_cons, List.length_append, List.length_cons]
      omega

theorem length_le_of_mem {Item : Type} (written : Item → List Piece) {items : List Item}
    {one : Item} (mem : one ∈ items) : (written one).length ≤ (items.flatMap written).length := by
  rw [List.flatMap_def]
  exact (List.sublist_flatten_of_mem (List.mem_map_of_mem mem)).length_le

theorem length_wrapped (pieces : List Piece) : (wrapped pieces).length = pieces.length + 2 := by
  rw [wrapped, List.length_cons, List.length_append, List.length_singleton]

theorem length_le_separated {item : List Piece} {items : List (List Piece)} (mem : item ∈ items) :
    item.length ≤ (separated items).length := by
  cases items with
  | nil => contradiction
  | cons first rest =>
      rw [separated, List.length_append]
      rcases List.mem_cons.mp mem with rfl | mem
      · omega
      · have counted := length_le_of_mem (fun item => mark .comma :: item) mem
        rw [List.length_cons] at counted
        omega

theorem length_le_length_separated {items : List (List Piece)}
    (nonempty : ∀ item ∈ items, 1 ≤ item.length) : items.length ≤ (separated items).length := by
  cases items with
  | nil => exact Nat.zero_le _
  | cons first rest =>
      have one := nonempty first List.mem_cons_self
      have others : rest.length ≤ (rest.flatMap fun item => mark .comma :: item).length :=
        length_le_length_flatMap fun item _ => by simp
      rw [separated, List.length_append, List.length_cons]
      omega

section Loops

variable {again : Kind → Bool} {step : α → Parser α} {item : Parser α}

theorem reads_repeatUpTo_none {rounds : Nat} {value : α} (stops : ∀ kind, ends kind = true →
      again kind = false) (isGood : good value) :
    Reads spell ends (repeatUpTo again step rounds value) [] good := by
  cases rounds with
  | zero => exact reads_pure isGood
  | succ rounds =>
      refine reads_kind_behind fun kind ended => ?_
      rw [stops kind ended]
      exact reads_pure isGood

theorem reads_repeatUpTo_succ {rounds : Nat} {value : α} {piece : Piece} {found : α → Prop}
    (goesOn : again piece.kind = true)
    (reads : Reads spell between (step value) (piece :: pieces) found)
    (follows : ∀ kind, ends kind = true → between (headKind others kind) = true)
    (readsRest : ∀ value, found value →
      Reads spell ends (repeatUpTo again step rounds value) others good) :
    Reads spell ends (repeatUpTo again step (rounds + 1) value) (piece :: pieces ++ others)
      good := by
  apply reads_kind
  rw [goesOn]
  exact reads.bind follows readsRest

/-- The loop has as many rounds as there are tokens, and one more. -/
theorem reads_repeatWhile {value : α}
    (reads : ∀ rounds, pieces.length < rounds →
      Reads spell ends (repeatUpTo again step rounds value) pieces good) :
    Reads spell ends (repeatWhile again step value) pieces good := by
  intro spelled state rest coming ended
  have enough : pieces.length < state.remaining + 1 := by
    rw [ParserState.remaining, coming, List.length_append, List.length_map]
    omega
  exact reads _ enough spelled state rest coming ended

theorem reads_repeatWhile_once {value : α} {piece : Piece} (goesOn : again piece.kind = true)
    (stops : ∀ kind, ends kind = true → again kind = false)
    (reads : Reads spell ends (step value) (piece :: pieces) good) :
    Reads spell ends (repeatWhile again step value) (piece :: pieces) good := by
  refine reads_repeatWhile fun rounds enough => ?_
  cases rounds with
  | zero => contradiction
  | succ rounds =>
      rw [← List.append_nil (piece :: pieces)]
      refine reads_repeatUpTo_succ goesOn reads (fun kind ended => ended) fun value isGood => ?_
      exact reads_repeatUpTo_none stops isGood

section Collect

variable {Item : Type} {written : Item → List Piece} {reading : Item → α → Prop}
variable {items : List Item} {rounds : Nat}

theorem reads_collectUpTo_none (stops : ∀ kind, ends kind = true → again kind = false) :
    Reads spell ends (collectUpTo again item rounds) [] (List.Forall₂ reading []) := by
  cases rounds with
  | zero => exact reads_pure .nil
  | succ rounds =>
      refine reads_kind_behind fun kind ended => ?_
      rw [stops kind ended]
      exact reads_pure .nil

theorem reads_collectUpTo_succ {one : Item} {piece : Piece} (same : pieces = piece :: others)
    (goesOn : again piece.kind = true) (reads : Reads spell between item pieces (reading one))
    {more : List Piece} (follows : ∀ kind, ends kind = true → between (headKind more kind) = true)
    (readsMore : Reads spell ends (collectUpTo again item rounds) more
      (List.Forall₂ reading items)) :
    Reads spell ends (collectUpTo again item (rounds + 1)) (pieces ++ more)
      (List.Forall₂ reading (one :: items)) := by
  apply reads_kind_of_cons (congrArg (· ++ more) same)
  rw [goesOn]
  refine reads.bind follows fun value isGood => ?_
  exact readsMore.bind_pure fun values areGood => .cons isGood areGood

theorem reads_collectUpTo
    (stops : ∀ kind, ends kind = true → again kind = false ∧ between kind = true)
    (enough : items.length < rounds)
    (starts : ∀ one ∈ items, ∃ piece pieces, written one = piece :: pieces ∧
      again piece.kind = true ∧ between piece.kind = true)
    (reads : ∀ one ∈ items, Reads spell between item (written one) (reading one)) :
    Reads spell ends (collectUpTo again item rounds) (items.flatMap written)
      (List.Forall₂ reading items) := by
  induction items generalizing rounds with
  | nil => exact reads_collectUpTo_none fun kind ended => (stops kind ended).1
  | cons one items ih =>
      cases rounds with
      | zero => contradiction
      | succ rounds =>
          have startsRest other (mem : other ∈ items) := starts other (List.mem_cons_of_mem one mem)
          have readsRest other (mem : other ∈ items) := reads other (List.mem_cons_of_mem one mem)
          rcases starts one List.mem_cons_self with ⟨piece, pieces, same, goesOn, _⟩
          -- Behind an item stands the next one, and behind the last one what ends the list.
          have follows kind (ended : ends kind = true) :
              between (headKind (items.flatMap written) kind) = true := by
            cases items with
            | nil => exact (stops kind ended).2
            | cons other items =>
                rcases startsRest other List.mem_cons_self with ⟨piece, pieces, same, _, ended⟩
                rw [List.flatMap_cons, same]
                exact ended
          have readsItems := ih (Nat.lt_of_succ_lt_succ enough) startsRest readsRest
          rw [List.flatMap_cons]
          exact reads_collectUpTo_succ same goesOn (reads one List.mem_cons_self) follows readsItems

end Collect

theorem reads_collectWhile {Item : Type} {written : Item → List Piece} {reading : Item → α → Prop}
    {items : List Item} (between : Kind → Bool)
    (stops : ∀ kind, ends kind = true → again kind = false ∧ between kind = true)
    (starts : ∀ one ∈ items, ∃ piece pieces, written one = piece :: pieces ∧
      again piece.kind = true ∧ between piece.kind = true)
    (reads : ∀ one ∈ items, Reads spell between item (written one) (reading one)) :
    Reads spell ends (collectWhile again item) (items.flatMap written)
      (List.Forall₂ reading items) := by
  have nonempty one (mem : one ∈ items) : 1 ≤ (written one).length := by
    rcases starts one mem with ⟨piece, pieces, same, _⟩
    rw [same, List.length_cons]
    omega
  have long := length_le_length_flatMap nonempty
  intro spelled state rest coming ended
  have enough : items.length < state.remaining + 1 := by
    rw [ParserState.remaining, coming, List.length_append, List.length_map]
    omega
  exact reads_collectUpTo stops enough starts reads spelled state rest coming ended

section Items

variable {Item : Type} {close : Kind} {written : Item → List Piece} {reading : Item → α → Prop}
variable {items : List Item} (between : Kind → Bool)

/-- What comes behind an item in a list of items with commas. -/
theorem headKind_more (closes : ∀ kind, ends kind = true → kind = close)
    (endsClose : between close = true) (endsComma : between .comma = true) {kind : Kind}
    (ended : ends kind = true) :
    between (headKind (items.flatMap fun one => mark .comma :: written one) kind) = true := by
  cases items with
  | nil => exact (congrArg between (closes kind ended)).trans endsClose
  | cons one items => exact endsComma

/-- More items, each behind a comma, up to a closing token. -/
theorem reads_moreItems (closes : ∀ kind, ends kind = true → kind = close)
    (notComma : close ≠ .comma) (endsClose : between close = true)
    (endsComma : between .comma = true)
    (reads : ∀ one ∈ items, Reads spell between item (written one) (reading one)) :
    Reads spell ends (moreItems item) (items.flatMap fun one => mark .comma :: written one)
      (List.Forall₂ reading items) := by
  refine reads_collectWhile between ?_ ?_ ?_
  · intro kind ended
    rw [closes kind ended]
    exact ⟨decide_eq_false notComma, endsClose⟩
  · exact fun one _ => ⟨mark .comma, written one, rfl, rfl, endsComma⟩
  · intro one mem
    show Reads spell between (advance >>= fun _ => item) _ _
    exact reads_advance_bind (reads one mem)

/-- Items with commas between them, up to a closing token. -/
theorem reads_itemsUntil (closes : ∀ kind, ends kind = true → kind = close)
    (notComma : close ≠ .comma) (endsClose : between close = true)
    (endsComma : between .comma = true)
    (starts : ∀ one ∈ items, ∃ piece pieces, written one = piece :: pieces ∧ piece.kind ≠ close)
    (reads : ∀ one ∈ items, Reads spell between item (written one) (reading one)) :
    Reads spell ends (itemsUntil close item) (separated (items.map written))
      (List.Forall₂ reading items) := by
  cases items with
  | nil =>
      refine reads_kind_behind fun kind ended => ?_
      rw [if_pos (closes kind ended)]
      exact reads_pure .nil
  | cons one items =>
      rcases starts one List.mem_cons_self with ⟨piece, pieces, same, opens⟩
      have readsMore := reads_moreItems between closes notComma endsClose endsComma
        fun other mem => reads other (List.mem_cons_of_mem one mem)
      rw [List.map_cons, separated, List.flatMap_map]
      apply reads_kind_of_cons (congrArg (· ++ _) same)
      rw [if_neg opens]
      refine (reads one List.mem_cons_self).bind
        (fun kind => headKind_more between closes endsClose endsComma) fun value isGood => ?_
      exact readsMore.bind_pure fun values areGood => .cons isGood areGood

end Items

end Loops

/-- Every successful run of the parser gives a good value. -/
def Yields (good : α → Prop) (parser : Parser α) : Prop :=
  ∀ state value after, parser state = .ok value after → good value

theorem yields_pure {value : α} (isGood : good value) : Yields good (pure value) := by
  intro state found after ran
  rw [← (EStateM.Result.ok.inj ran).1]
  exact isGood

theorem yields_failAt {position : Position} {fault : SyntaxFault} :
    Yields good (failAt position fault) := by
  intro state value after ran
  contradiction

theorem yields_unexpected : Yields good unexpected := by
  intro state value after ran
  contradiction

theorem Yields.bind (yields : Yields good parser)
    (yieldsNext : ∀ value, good value → Yields best (next value)) :
    Yields best (parser >>= next) := by
  intro state value after ran
  rcases ok_of_bind_eq_ok ran with ⟨found, passed, ranFirst, ranNext⟩
  exact yieldsNext found (yields _ _ _ ranFirst) _ _ _ ranNext

theorem yields_next (yieldsNext : ∀ value, Yields best (next value)) :
    Yields best (parser >>= next) := by
  intro state value after ran
  rcases ok_of_bind_eq_ok ran with ⟨found, passed, _, ranNext⟩
  exact yieldsNext found _ _ _ ranNext

theorem yields_withTypes {form : Parser Ty → Parser α}
    (yields : ∀ depth, Yields good (form (nestedType depth))) : Yields good (withTypes form) :=
  yields_next fun state => yields state.remaining

section Loops

variable {again : Kind → Bool} {step : α → Parser α} {item : Parser α}

theorem yields_repeatWhile {value : α} (isGood : good value)
    (yields : ∀ value, good value → Yields good (step value)) :
    Yields good (repeatWhile again step value) := by
  have rounds (count : Nat) :
      ∀ value, good value → Yields good (repeatUpTo again step count value) := by
    induction count with
    | zero => exact fun value isGood => yields_pure isGood
    | succ count ih =>
        intro value isGood
        refine yields_next fun kind => ?_
        split
        · exact (yields value isGood).bind ih
        · exact yields_pure isGood
  exact yields_next fun state => rounds _ value isGood

theorem yields_collectWhile (yields : Yields good item) :
    Yields (fun values => ∀ value ∈ values, good value) (collectWhile again item) := by
  have rounds (count : Nat) :
      Yields (fun values => ∀ value ∈ values, good value) (collectUpTo again item count) := by
    induction count with
    | zero => exact yields_pure (by simp)
    | succ count ih =>
        refine yields_next fun kind => ?_
        split
        · refine yields.bind fun value isGood => ih.bind fun values areGood => yields_pure ?_
          exact List.forall_mem_cons.mpr ⟨isGood, areGood⟩
        · exact yields_pure (by simp)
  exact yields_next fun state => rounds _

theorem yields_moreItems (yields : Yields good item) :
    Yields (fun values => ∀ value ∈ values, good value) (moreItems item) := by
  apply yields_collectWhile
  show Yields good (advance >>= fun _ => item)
  exact yields_next fun _ => yields

theorem yields_itemsUntil {close : Kind} (yields : Yields good item) :
    Yields (fun values => ∀ value ∈ values, good value) (itemsUntil close item) := by
  refine yields_next fun kind => ?_
  split
  · exact yields_pure (by simp)
  · refine yields.bind fun value isGood => (yields_moreItems yields).bind fun values areGood => ?_
    exact yields_pure (List.forall_mem_cons.mpr ⟨isGood, areGood⟩)

end Loops

end Parser

end ScriptCheck
