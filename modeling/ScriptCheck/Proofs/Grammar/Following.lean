import ScriptCheck.Proofs.Grammar.Consumption

/-!
# What comes behind the tokens of a run

A run of a parser on a list of tokens goes the same way where more tokens come behind the list,
since a parser looks no further than one token past what it reads. `Follows` compares the two runs:
the declarations found in the second one have greater numbers, by as much as its counter was ahead.
Where nothing comes behind the list, a run that fails also fails in the same way.

A run may end right at the end of the list with its last look at the end token. Such a run says
nothing about one that finds a token there, unless it is closed: a closed run has not looked behind
the tokens that it read. A strict run reads at least one token, so nothing that comes in front of it
has looked behind the list.
-/

namespace ScriptCheck

/-- The state is another one behind some of its tokens. -/
structure ParserState.Behind (after first : ParserState) : Prop where
  suffix : after.upcoming <:+ first.upcoming
  final : after.final = first.final

namespace ParserState.Behind

variable {first between after : ParserState}

theorem refl (first : ParserState) : first.Behind first :=
  ⟨List.suffix_rfl, rfl⟩

theorem trans (last : after.Behind between) (behind : between.Behind first) : after.Behind first :=
  ⟨last.suffix.trans behind.suffix, last.final.trans behind.final⟩

theorem remaining_le (behind : after.Behind first) : after.remaining ≤ first.remaining :=
  behind.suffix.length_le

theorem eq_nil (behind : after.Behind first) (none : first.upcoming = []) : after.upcoming = [] :=
  List.suffix_nil.mp (none ▸ behind.suffix)

end ParserState.Behind

/-- Tokens that come behind a list, and how far the second run is ahead in numbering. -/
structure Sequel where
  tokens : List Token
  shift : Nat
  noElse : Kind.ahead tokens ≠ .elseWord

namespace Sequel

/-- The second state stands where the first one does, with the sequel behind the list. -/
structure Extends (sequel : Sequel) (first second : ParserState) : Prop where
  upcoming : second.upcoming = first.upcoming ++ sequel.tokens
  nextId : second.nextId = first.nextId + sequel.shift
  final : sequel.tokens = [] → second.final = first.final

variable {sequel : Sequel} {first second : ParserState}

theorem exists_extends (sequel : Sequel) (first : ParserState) :
    ∃ second, sequel.Extends first second :=
  ⟨{ first with
      upcoming := first.upcoming ++ sequel.tokens, nextId := first.nextId + sequel.shift },
    rfl, rfl, fun _ => rfl⟩

theorem Extends.current (related : sequel.Extends first second)
    (seen : sequel.tokens = [] ∨ first.upcoming ≠ []) : second.current = first.current := by
  rw [ParserState.current, ParserState.current, related.upcoming]
  cases coming : first.upcoming with
  | cons token rest => rfl
  | nil =>
      have ended := seen.resolve_right fun some => some coming
      rw [ended, related.final ended]
      rfl

theorem Extends.remaining (related : sequel.Extends first second) :
    first.remaining ≤ second.remaining ∧
      (sequel.tokens = [] → first.remaining = second.remaining) := by
  rw [ParserState.remaining, ParserState.remaining, related.upcoming, List.length_append]
  exact ⟨Nat.le_add_right _ _, fun ended => by simp [ended]⟩

theorem Extends.tail (related : sequel.Extends first second) (some : first.upcoming ≠ []) :
    sequel.Extends first.tail second.tail := by
  refine ⟨?_, related.nextId, related.final⟩
  rw [ParserState.tail, ParserState.tail, related.upcoming, List.tail_append_of_ne_nil some]

end Sequel

namespace Parser

variable {α β : Type}

/-- The second parser goes the way of the first one, with a change of the value that is found. -/
def Follows (sequel : Sequel) (starts : Kind → Prop) (closed strict : Bool) (change : α → α)
    (parser again : Parser α) : Prop :=
  ∀ first second, sequel.Extends first second → starts (Kind.ahead first.upcoming) →
    match parser first with
    | .ok value after =>
      after.Behind first ∧ (strict = true → after.remaining < first.remaining) ∧
        (sequel.tokens = [] ∨ closed = true ∨ after.upcoming ≠ [] →
          ∃ later, again second = .ok (change value) later ∧ sequel.Extends after later)
    | .error diagnostic _ =>
      sequel.tokens = [] → ∃ later, again second = .error diagnostic later

variable {sequel : Sequel} {starts : Kind → Prop} {closed strict : Bool} {change : α → α}
variable {parser again : Parser α} {next nextAgain : α → Parser β} {changeNext : β → β}

section Combinators

theorem Follows.narrow {wider : Kind → Prop}
    (follows : Follows sequel wider closed strict change parser again)
    (narrower : ∀ kind, starts kind → wider kind) :
    Follows sequel starts closed strict change parser again :=
  fun first second related start => follows first second related (narrower _ start)

theorem Follows.from (follows : Follows sequel anywhere closed strict change parser again) :
    Follows sequel starts closed strict change parser again :=
  follows.narrow fun _ _ => trivial

theorem Follows.of_ok {first second after : ParserState} {value : α}
    (follows : Follows sequel starts closed strict change parser again)
    (related : sequel.Extends first second) (start : starts (Kind.ahead first.upcoming))
    (ran : parser first = .ok value after) :
    after.Behind first ∧ (strict = true → after.remaining < first.remaining) ∧
      (sequel.tokens = [] ∨ closed = true ∨ after.upcoming ≠ [] →
        ∃ later, again second = .ok (change value) later ∧ sequel.Extends after later) := by
  have followed := follows first second related start
  rw [ran] at followed
  exact followed

theorem Follows.of_error {first second after : ParserState} {diagnostic : Diagnostic}
    (follows : Follows sequel starts closed strict change parser again)
    (related : sequel.Extends first second) (start : starts (Kind.ahead first.upcoming))
    (failed : parser first = .error diagnostic after) (ended : sequel.tokens = []) :
    ∃ later, again second = .error diagnostic later := by
  have followed := follows first second related start
  rw [failed] at followed
  exact followed ended

/-- What a run reads does not depend on what comes behind the list. -/
theorem Follows.passes {first after : ParserState} {value : α}
    (follows : Follows sequel starts closed strict change parser again)
    (start : starts (Kind.ahead first.upcoming)) (ran : parser first = .ok value after) :
    after.Behind first ∧ (strict = true → after.remaining < first.remaining) := by
  rcases sequel.exists_extends first with ⟨second, related⟩
  rcases follows.of_ok related start ran with ⟨behind, passed, _⟩
  exact ⟨behind, passed⟩

/-- It is enough to compare runs that succeed, and runs that fail with nothing behind the list. -/
theorem follows_of_passes
    (passes : ∀ first value after, starts (Kind.ahead first.upcoming) →
      parser first = .ok value after →
      after.Behind first ∧ (strict = true → after.remaining < first.remaining))
    (goesOn : ∀ first second, sequel.Extends first second → starts (Kind.ahead first.upcoming) →
      (sequel.tokens = [] ∨ first.upcoming ≠ []) →
      match parser first with
      | .ok value after => sequel.tokens = [] ∨ closed = true ∨ after.upcoming ≠ [] →
        ∃ later, again second = .ok (change value) later ∧ sequel.Extends after later
      | .error diagnostic _ =>
        sequel.tokens = [] → ∃ later, again second = .error diagnostic later)
    (sees : closed = false ∨ strict = true) :
    Follows sequel starts closed strict change parser again := by
  intro first second related start
  cases ran : parser first with
  | error diagnostic after =>
      intro ended
      have followed := goesOn first second related start (.inl ended)
      rw [ran] at followed
      exact followed ended
  | ok value after =>
      have passed := passes first value after start ran
      refine ⟨passed.1, passed.2, fun seen => ?_⟩
      have more : sequel.tokens = [] ∨ first.upcoming ≠ [] := by
        rcases seen with ended | isClosed | some
        · exact .inl ended
        · refine .inr fun none => ?_
          have fewer := passed.2 (sees.resolve_left (by simp [isClosed]))
          rw [ParserState.remaining, ParserState.remaining, none] at fewer
          exact Nat.not_lt_zero _ fewer
        · refine .inr fun none => some ?_
          exact passed.1.eq_nil none
      have followed := goesOn first second related start more
      rw [ran] at followed
      exact followed seen

theorem Follows.lax (follows : Follows sequel starts closed true change parser again) :
    Follows sequel starts closed strict change parser again := by
  intro first second related start
  cases ran : parser first with
  | error diagnostic after => exact follows.of_error related start ran
  | ok value after =>
      rcases follows.of_ok related start ran with ⟨behind, passed, goesOn⟩
      exact ⟨behind, fun _ => passed rfl, goesOn⟩

theorem Follows.open (follows : Follows sequel starts true strict change parser again) :
    Follows sequel starts closed strict change parser again := by
  intro first second related start
  cases ran : parser first with
  | error diagnostic after => exact follows.of_error related start ran
  | ok value after =>
      rcases follows.of_ok related start ran with ⟨behind, passed, goesOn⟩
      exact ⟨behind, passed, fun _ => goesOn (.inr (.inl rfl))⟩

theorem Follows.opened (follows : Follows sequel starts closed strict change parser again) :
    Follows sequel starts false strict change parser again := by
  cases closed with
  | false => exact follows
  | true => exact follows.open

/-- One run after another. The first one has not looked behind the list unless both may have. -/
theorem Follows.bind {closedFirst strictFirst closedNext strictNext : Bool}
    (follows : Follows sequel starts closedFirst strictFirst change parser again)
    (unseen : closed = true → closedNext = true ∧ (closedFirst = true ∨ strictNext = true))
    (passes : strict = true → strictFirst = true ∨ strictNext = true)
    (followsNext : ∀ value, Follows sequel anywhere closedNext strictNext changeNext (next value)
      (nextAgain (change value))) :
    Follows sequel starts closed strict changeNext (parser >>= next) (again >>= nextAgain) := by
  intro first second related start
  rw [bind_apply]
  cases ran : parser first with
  | error diagnostic between =>
      intro ended
      rcases follows.of_error related start ran ended with ⟨later, failed⟩
      exact ⟨later, bind_of_error failed _⟩
  | ok value between =>
      rcases follows.of_ok related start ran with ⟨behind, passed, goesOn⟩
      simp only
      cases ranNext : next value between with
      | error diagnostic after =>
          intro ended
          rcases goesOn (.inl ended) with ⟨middle, ranAgain, relatedNext⟩
          rcases (followsNext value).of_error relatedNext trivial ranNext ended with ⟨later, failed⟩
          exact ⟨later, (bind_of_ok ranAgain _).trans failed⟩
      | ok result after =>
          rcases (followsNext value).passes trivial ranNext with ⟨behindNext, passedNext⟩
          refine ⟨behindNext.trans behind, fun isStrict => ?_, fun seen => ?_⟩
          · have fewer := behind.remaining_le
            have fewerNext := behindNext.remaining_le
            rcases passes isStrict with isStrict | isStrict
            · exact Nat.lt_of_le_of_lt fewerNext (passed isStrict)
            · exact Nat.lt_of_lt_of_le (passedNext isStrict) fewer
          · have between : sequel.tokens = [] ∨ closedFirst = true ∨ between.upcoming ≠ [] := by
              rcases seen with ended | isClosed | some
              · exact .inl ended
              · refine .inr ((unseen isClosed).2.imp id fun isStrict none => ?_)
                have fewer := passedNext isStrict
                rw [ParserState.remaining, ParserState.remaining, none] at fewer
                exact Nat.not_lt_zero _ fewer
              · refine .inr (.inr fun none => some ?_)
                exact behindNext.eq_nil none
            rcases goesOn between with ⟨middle, ranAgain, relatedNext⟩
            rcases (followsNext value).of_ok relatedNext trivial ranNext with ⟨_, _, goesOnNext⟩
            rw [bind_of_ok ranAgain]
            exact goesOnNext (seen.imp id (Or.imp (fun isClosed => (unseen isClosed).1) id))

/-- Behind a run that reads tokens and nothing else, anything may come. -/
theorem Follows.then (follows : Follows sequel starts true true change parser again)
    (followsNext : ∀ value, Follows sequel anywhere closed false changeNext (next value)
      (nextAgain (change value))) :
    Follows sequel starts closed strict changeNext (parser >>= next) (again >>= nextAgain) :=
  follows.bind (fun isClosed => ⟨isClosed, .inl rfl⟩) (fun _ => .inl rfl) followsNext

/-- Behind a run that may read nothing, the next run decides. -/
theorem Follows.past (follows : Follows sequel starts true false change parser again)
    (followsNext : ∀ value, Follows sequel anywhere closed strict changeNext (next value)
      (nextAgain (change value))) :
    Follows sequel starts closed strict changeNext (parser >>= next) (again >>= nextAgain) :=
  follows.bind (fun isClosed => ⟨isClosed, .inl rfl⟩) .inr followsNext

/-- Behind a run that may have looked behind the list, the next run has to read a token. -/
theorem Follows.closing {closedFirst strictFirst : Bool}
    (follows : Follows sequel starts closedFirst strictFirst change parser again)
    (followsNext : ∀ value, Follows sequel anywhere closed true changeNext (next value)
      (nextAgain (change value))) :
    Follows sequel starts closed strict changeNext (parser >>= next) (again >>= nextAgain) :=
  follows.bind (fun isClosed => ⟨isClosed, .inr rfl⟩) (fun _ => .inr rfl) followsNext

/-- Runs that may have looked behind the list, or may not, one after another. -/
theorem Follows.going {strictFirst : Bool}
    (follows : Follows sequel starts closed strictFirst change parser again)
    (followsNext : ∀ value, Follows sequel anywhere closed false changeNext (next value)
      (nextAgain (change value))) :
    Follows sequel starts closed strictFirst changeNext (parser >>= next) (again >>= nextAgain) :=
  follows.bind (fun isClosed => ⟨isClosed, .inl isClosed⟩) .inl followsNext

theorem follows_pure (value : α) :
    Follows sequel starts closed false change (pure value) (pure (change value)) :=
  fun _ second related _ => ⟨.refl _, nofun, fun _ => ⟨second, rfl, related⟩⟩

theorem follows_return {value changed : α} (same : changed = change value) :
    Follows sequel starts closed false change (pure value) (pure changed) :=
  same ▸ follows_pure value

theorem follows_failAt (position : Position) (fault : SyntaxFault) :
    Follows sequel starts closed strict change (failAt position fault) (failAt position fault) :=
  fun _ second _ _ _ => ⟨second, rfl⟩

/-- What is seen of the state in front of a run is the same in both runs, as long as there are
tokens to see. -/
theorem follows_look {γ : Type} {look : Parser γ} (view : ParserState → γ)
    (looks : ∀ state, look state = .ok (view state) state)
    (same : ∀ first second, sequel.Extends first second →
      (sequel.tokens = [] ∨ first.upcoming ≠ []) → view second = view first)
    {next nextAgain : γ → Parser α}
    (follows : ∀ first, starts (Kind.ahead first.upcoming) →
      Follows sequel (· = Kind.ahead first.upcoming) closed strict change
        (next (view first)) (nextAgain (view first)))
    (sees : closed = false ∨ strict = true) :
    Follows sequel starts closed strict change (look >>= next) (look >>= nextAgain) := by
  refine follows_of_passes (fun first value after start ran => ?_)
    (fun first second related start more => ?_) sees
  · rw [bind_of_ok (looks first)] at ran
    exact (follows first start).passes rfl ran
  · rw [bind_of_ok (looks first), bind_of_ok (looks second), same first second related more]
    have followed := follows first start first second related rfl
    cases ran : next (view first) first with
    | ok value after =>
        rw [ran] at followed
        exact followed.2.2
    | error diagnostic after =>
        rw [ran] at followed
        exact followed

theorem follows_current {next nextAgain : Token → Parser α}
    (follows : ∀ token : Token, starts token.kind →
      Follows sequel (· = token.kind) closed strict change (next token) (nextAgain token))
    (sees : closed = false ∨ strict = true) :
    Follows sequel starts closed strict change (current >>= next) (current >>= nextAgain) := by
  refine follows_look ParserState.current (fun _ => rfl)
    (fun first second related => related.current) (fun first start => ?_) sees
  rw [← first.kind_current] at start ⊢
  exact follows first.current start

theorem follows_kind {next nextAgain : Kind → Parser α}
    (follows : ∀ kind, starts kind →
      Follows sequel (· = kind) closed strict change (next kind) (nextAgain kind))
    (sees : closed = false ∨ strict = true) :
    Follows sequel starts closed strict change (kind >>= next) (kind >>= nextAgain) := by
  refine follows_look (fun state => state.current.kind) (fun _ => rfl)
    (fun first second related more => congrArg Token.kind (related.current more))
    (fun first start => ?_) sees
  rw [← first.kind_current] at start ⊢
  exact follows first.current.kind start

/-- A closed run may look at the end token too, if it does the same with what comes behind. -/
theorem follows_kind_behind {next nextAgain : Kind → Parser α}
    (follows : ∀ kind, starts kind →
      Follows sequel (· = kind) closed strict change (next kind) (nextAgain kind))
    (behind : closed = true → nextAgain (Kind.ahead sequel.tokens) = nextAgain .eof) :
    Follows sequel starts closed strict change (kind >>= next) (kind >>= nextAgain) := by
  cases closed with
  | false => exact follows_kind follows (.inl rfl)
  | true =>
      intro first second related start
      have same :
          nextAgain (Kind.ahead second.upcoming) = nextAgain (Kind.ahead first.upcoming) := by
        rw [related.upcoming]
        cases first.upcoming with
        | nil => exact behind rfl
        | cons token rest => rfl
      rw [bind_of_ok (kind_apply first), bind_of_ok (kind_apply second), same]
      exact follows _ start first second related rfl

theorem follows_position {next nextAgain : Position → Parser α}
    (follows : ∀ start, Follows sequel starts closed strict change (next start) (nextAgain start))
    (sees : closed = false ∨ strict = true) :
    Follows sequel starts closed strict change (position >>= next) (position >>= nextAgain) := by
  refine follows_look (fun state => state.current.start) (fun _ => rfl)
    (fun first second related more => congrArg Token.start (related.current more))
    (fun first start => ?_) sees
  intro state other related same
  rw [← same] at start
  exact follows _ state other related start

theorem follows_unexpected : Follows sequel starts closed strict change unexpected unexpected :=
  (follows_current (fun _ _ => follows_failAt _ _) (.inr rfl)).lax

/-- A parser that never succeeds is followed by any other one where more tokens come. -/
theorem follows_of_unexpected (same : sequel.tokens = [] → again = unexpected) :
    Follows sequel starts closed strict change unexpected again := by
  intro first second related start
  have failed : (unexpected : Parser α) first = .error _ first := rfl
  rw [failed]
  intro ended
  rw [same ended]
  have fails : Follows sequel starts closed strict change unexpected unexpected :=
    follows_unexpected
  exact fails.of_error related start failed ended

/-- A token of a kind that is known is passed, and it is not the end token. -/
theorem follows_advance {expected : Kind} (proper : expected ≠ .eof) :
    Follows sequel (· = expected) true true (fun token => token) advance advance := by
  intro first second related start
  rcases exists_cons_of_ahead (start ▸ proper) with ⟨token, rest, coming, _⟩
  have some : first.upcoming ≠ [] := by simp [coming]
  rw [advance_apply]
  refine ⟨⟨List.tail_suffix _, rfl⟩, fun _ => ?_, fun _ => ⟨second.tail, ?_, related.tail some⟩⟩
  · rw [ParserState.remaining_tail, ParserState.remaining, coming]
    exact Nat.lt_succ_self _
  · rw [advance_apply, related.current (.inr some)]

theorem follows_expectOr {expected : Kind} (proper : expected ≠ .eof)
    (fault : Token → SyntaxFault) :
    Follows sequel starts true true (fun token => token) (expectOr expected fault)
      (expectOr expected fault) := by
  refine follows_current (fun token _ => ?_) (.inr rfl)
  split
  · rename_i same
    rw [same]
    exact follows_advance proper
  · exact follows_failAt _ _

theorem follows_expect {expected : Kind} (proper : expected ≠ .eof) :
    Follows sequel starts true true (fun token => token) (expect expected) (expect expected) :=
  follows_expectOr proper _

theorem follows_identifier :
    Follows sequel starts true true (fun name => name) identifier identifier :=
  (follows_expect (by simp)).then fun _ => follows_pure _

/-- The counter of the second run stays ahead. -/
theorem follows_freshId :
    Follows sequel starts true false (· + sequel.shift) freshId freshId := by
  intro first second related _
  have ran : freshId second = .ok (first.nextId + sequel.shift)
      { second with nextId := second.nextId + 1 } := by
    rw [← related.nextId]
    rfl
  refine ⟨⟨List.suffix_rfl, rfl⟩, nofun, fun _ => ⟨_, ran, related.upcoming, ?_, related.final⟩⟩
  show second.nextId + 1 = first.nextId + 1 + sequel.shift
  rw [related.nextId, Nat.add_right_comm]

end Combinators

section Loops

variable {again : Kind → Bool} {step stepAgain : α → Parser α} {item itemAgain : Parser α}

/-- Rounds that are never reached do not matter. -/
theorem repeatUpTo_eq
    (strict : ∀ value state longer after, again (Kind.ahead state.upcoming) = true →
      step value state = .ok longer after → after.remaining < state.remaining) {rounds : Nat} :
    ∀ {others : Nat} {value : α} {state : ParserState}, state.remaining < rounds →
      state.remaining < others →
        repeatUpTo again step rounds value state = repeatUpTo again step others value state := by
  induction rounds with
  | zero => exact fun few _ => absurd few (Nat.not_lt_zero _)
  | succ rounds ih =>
      intro others value state few fewOthers
      cases others with
      | zero => exact absurd fewOthers (Nat.not_lt_zero _)
      | succ others =>
          rw [repeatUpTo, repeatUpTo, bind_of_ok (kind_apply state), bind_of_ok (kind_apply state)]
          split
          · rename_i goesOn
            rw [bind_apply, bind_apply]
            cases ran : step value state with
            | error diagnostic after => rfl
            | ok longer after =>
                have fewer := strict value state longer after goesOn ran
                exact ih (by omega) (by omega)
          · rfl

theorem collectUpTo_eq
    (strict : ∀ state value after, again (Kind.ahead state.upcoming) = true →
      item state = .ok value after → after.remaining < state.remaining) {rounds : Nat} :
    ∀ {others : Nat} {state : ParserState}, state.remaining < rounds → state.remaining < others →
      collectUpTo again item rounds state = collectUpTo again item others state := by
  induction rounds with
  | zero => exact fun few _ => absurd few (Nat.not_lt_zero _)
  | succ rounds ih =>
      intro others state few fewOthers
      cases others with
      | zero => exact absurd fewOthers (Nat.not_lt_zero _)
      | succ others =>
          rw [collectUpTo, collectUpTo, bind_of_ok (kind_apply state),
            bind_of_ok (kind_apply state)]
          split
          · rename_i goesOn
            rw [bind_apply, bind_apply]
            cases ran : item state with
            | error diagnostic after => rfl
            | ok value after =>
                have fewer := strict state value after goesOn ran
                have same : collectUpTo again item rounds after =
                    collectUpTo again item others after := ih (by omega) (by omega)
                simp only [bind_apply, same]
          · rfl

/-- A closed loop sees no difference between the end token and what comes behind. -/
theorem follows_repeatWhile (value : α)
    (follows : ∀ value, Follows sequel (again · = true) closed true change (step value)
      (stepAgain (change value)))
    (stops : closed = true → again (Kind.ahead sequel.tokens) = again .eof) :
    Follows sequel starts closed false change (repeatWhile again step value)
      (repeatWhile again stepAgain (change value)) := by
  have rounds (count : Nat) : ∀ starts value, Follows sequel starts closed false change
      (repeatUpTo again step count value) (repeatUpTo again stepAgain count (change value)) := by
    induction count with
    | zero => exact fun _ value => follows_pure value
    | succ count ih =>
        refine fun starts value => follows_kind_behind (fun kind _ => ?_) fun isClosed => ?_
        · split
          · rename_i goesOn
            have at' : Follows sequel (· = kind) closed true change _ _ :=
              (follows value).narrow fun _ same => same ▸ goesOn
            exact at'.lax.going fun longer => ih _ longer
          · exact follows_pure value
        · rw [stops isClosed]
  intro first second related start
  have strict (value : α) (state : ParserState) (longer : α) (after : ParserState)
      (goesOn : again (Kind.ahead state.upcoming) = true)
      (ran : step value state = .ok longer after) : after.remaining < state.remaining :=
    ((follows value).passes goesOn ran).2 rfl
  have enough : first.remaining < second.remaining + 1 := Nat.lt_succ_of_le related.remaining.1
  have followed := rounds (second.remaining + 1) starts value first second related start
  rw [← repeatUpTo_eq strict (Nat.lt_succ_self _) enough] at followed
  exact followed

theorem follows_collectWhile
    (follows : Follows sequel (again · = true) false true change item itemAgain) :
    Follows sequel starts false false (List.map change) (collectWhile again item)
      (collectWhile again itemAgain) := by
  have rounds (count : Nat) : ∀ starts, Follows sequel starts false false (List.map change)
      (collectUpTo again item count) (collectUpTo again itemAgain count) := by
    induction count with
    | zero => exact fun _ => follows_pure []
    | succ count ih =>
        refine fun starts => follows_kind (fun kind _ => ?_) (.inl rfl)
        split
        · rename_i goesOn
          have at' : Follows sequel (· = kind) false true change _ _ :=
            follows.narrow fun _ same => same ▸ goesOn
          exact at'.lax.going fun value => (ih _).going fun values => follows_pure (value :: values)
        · exact follows_pure []
  intro first second related start
  have strict (state : ParserState) (value : α) (after : ParserState)
      (goesOn : again (Kind.ahead state.upcoming) = true)
      (ran : item state = .ok value after) : after.remaining < state.remaining :=
    (follows.passes goesOn ran).2 rfl
  have enough : first.remaining < second.remaining + 1 := Nat.lt_succ_of_le related.remaining.1
  have followed := rounds (second.remaining + 1) starts first second related start
  rw [← collectUpTo_eq strict (Nat.lt_succ_self _) enough] at followed
  exact followed

theorem follows_moreItems (follows : Follows sequel anywhere false true change item itemAgain) :
    Follows sequel starts false false (List.map change) (moreItems item) (moreItems itemAgain) := by
  refine follows_collectWhile ?_
  show Follows _ _ _ _ _ (advance >>= fun _ => item) (advance >>= fun _ => itemAgain)
  have comma : Follows sequel (· = .comma) true true (fun token => token) advance advance :=
    follows_advance (by simp)
  exact (comma.narrow fun _ same => of_decide_eq_true same).then fun _ => follows.lax

theorem follows_itemsUntil {close : Kind}
    (follows : Follows sequel anywhere false true change item itemAgain) :
    Follows sequel starts false false (List.map change) (itemsUntil close item)
      (itemsUntil close itemAgain) := by
  refine follows_kind (fun kind _ => ?_) (.inl rfl)
  split
  · exact follows_pure []
  · exact follows.from.lax.going fun first => (follows_moreItems follows).going fun more =>
      follows_pure (first :: more)

end Loops

section Types

variable {inside insideAgain : Parser Ty}

/-- Types are the same in both runs. -/
abbrev FollowsType (sequel : Sequel) (inside insideAgain : Parser Ty) : Prop :=
  Follows sequel anywhere false true (fun type => type) inside insideAgain

theorem follows_resultType (follows : FollowsType sequel inside insideAgain) :
    FollowsType sequel (resultType inside) (resultType insideAgain) := by
  refine follows_kind (fun kind _ => ?_) (.inl rfl)
  split
  · rename_i isVoid
    subst isVoid
    exact (follows_advance (by simp)).then fun _ => follows_pure _
  · exact follows.from

theorem follows_parameters (follows : FollowsType sequel inside insideAgain) :
    Follows sequel starts true true (fun params => params) (parameters inside)
      (parameters insideAgain) := by
  have one : Follows sequel anywhere true true (fun param => param) (parameter inside)
      (parameter insideAgain) :=
    follows.closing fun _ => follows_identifier.then fun _ => follows_pure _
  refine (follows_expect (by simp)).then fun _ => ?_
  refine (follows_itemsUntil one.open).closing fun params => ?_
  rw [List.map_id']
  exact (follows_expect (by simp)).then fun _ => follows_pure params

theorem follows_functionType (follows : FollowsType sequel inside insideAgain) :
    Follows sequel starts true true (fun type => type) (functionType inside)
      (functionType insideAgain) := by
  refine (follows_expect (by simp)).then fun _ => Follows.lax ?_
  refine (follows_expect (by simp)).then fun _ => ?_
  refine (follows_resultType follows).closing fun result => ?_
  refine (follows_expect (by simp)).then fun _ => Follows.lax ?_
  refine (follows_parameters follows).then fun params => Follows.lax ?_
  exact (follows_expect (by simp)).then fun _ => follows_pure _

theorem follows_typeStart (follows : FollowsType sequel inside insideAgain) :
    FollowsType sequel (typeStart inside) (typeStart insideAgain) := by
  have primitive : Follows sequel anywhere true true (fun type => type) primitiveType
      primitiveType := by
    refine follows_kind (fun kind _ => ?_) (.inr rfl)
    cases named : kind.primitive? with
    | none => exact follows_unexpected
    | some primitive =>
        have proper : kind ≠ .eof := by
          rintro rfl
          contradiction
        exact (follows_advance proper).then fun _ => follows_pure _
  refine follows_kind (fun kind _ => ?_) (.inl rfl)
  cases kind.typeStart? with
  | none => exact follows_unexpected
  | some form =>
      cases form with
      | primitive => exact primitive.open.from
      | named => exact follows_identifier.then fun _ => follows_pure _
      | function => exact (follows_functionType follows).open

theorem follows_typeTail (follows : FollowsType sequel inside insideAgain) (left : Ty) :
    FollowsType sequel (typeTail inside left) (typeTail insideAgain left) := by
  refine follows_kind (fun kind _ => ?_) (.inl rfl)
  cases kind.typeTail? with
  | none => exact follows_unexpected
  | some form =>
      rcases form with ⟨form, power⟩
      cases form with
      | array =>
          refine (follows_expect (by simp)).then fun _ => Follows.lax ?_
          exact (follows_expect (by simp)).then fun _ => follows_pure _
      | setOrMap =>
          refine (follows_expect (by simp)).then fun _ => Follows.lax ?_
          refine follows_kind (fun kind _ => ?_) (.inr rfl)
          split
          · rename_i closes
            subst closes
            exact (follows_advance (by simp)).then fun _ => follows_pure _
          · refine follows.from.closing fun key => ?_
            exact (follows_expect (by simp)).then fun _ => follows_pure _

theorem follows_typeForm (follows : FollowsType sequel inside insideAgain) (power : Power) :
    FollowsType sequel (typeForm inside power) (typeForm insideAgain power) :=
  (follows_typeStart follows).going fun left =>
    follows_repeatWhile left (fun left => (follows_typeTail follows left).from) nofun

theorem follows_nestedType {depth : Nat} :
    ∀ {deeper : Nat}, depth ≤ deeper → (sequel.tokens = [] → depth = deeper) →
      FollowsType sequel (nestedType depth) (nestedType deeper) := by
  induction depth with
  | zero => exact fun _ same => follows_of_unexpected fun ended => by rw [← same ended]; rfl
  | succ depth ih =>
      intro deeper enough same
      cases deeper with
      | zero => exact absurd enough (Nat.not_succ_le_zero _)
      | succ deeper =>
          exact follows_typeForm (ih (Nat.le_of_succ_le_succ enough)
            fun ended => Nat.succ.inj (same ended)) .lowest

theorem follows_withTypes {form formAgain : Parser Ty → Parser α}
    (follows : ∀ inside insideAgain, FollowsType sequel inside insideAgain →
      Follows sequel starts closed strict change (form inside) (formAgain insideAgain)) :
    Follows sequel starts closed strict change (withTypes form) (withTypes formAgain) := by
  intro first second related start
  have deep := related.remaining
  exact follows _ _ (follows_nestedType deep.1 deep.2) first second related start

theorem follows_parseType (power : Power) :
    Follows sequel anywhere false true (fun type => type) (parseType power) (parseType power) :=
  follows_withTypes fun _ _ follows => follows_typeForm follows power

end Types

end Parser

end ScriptCheck
