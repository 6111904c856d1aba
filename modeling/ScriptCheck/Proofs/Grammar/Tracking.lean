import ScriptCheck.Proofs.Grammar.Following

/-!
# What comes behind the end token

A parser stops at the end token, so it makes no difference what comes behind it. `Tracks` compares a
run on a list of tokens with one where more tokens come behind the end of the list. Both find the
same, with success or without, and stop at the same place. With nothing behind the end, the two
runs start from the same state, and what is compared are two parsers.

The parsers to compare may differ in how deep they are nested. They agree on lists that are short
enough, and a form that passes a token first agrees on lists that are longer by one.
-/

namespace ScriptCheck

/-- The second state is the first one with more tokens behind the end. They start with the end token
of the first state, where there are any. -/
structure ParserState.Prolongs (behind : List Token) (first second : ParserState) : Prop where
  upcoming : second.upcoming = first.upcoming ++ behind
  final : behind.head?.getD second.final = first.final
  nextId : second.nextId = first.nextId
  file : second.file = first.file

namespace ParserState.Prolongs

variable {behind : List Token} {first second : ParserState}

theorem refl (state : ParserState) : Prolongs [] state state :=
  ⟨(List.append_nil _).symm, rfl, rfl, rfl⟩

theorem eq_of_nil (prolongs : Prolongs [] first second) : second = first := by
  rcases first with ⟨upcoming, final, nextId, file⟩
  rcases second with ⟨upcomingAgain, finalAgain, nextIdAgain, fileAgain⟩
  rcases prolongs with ⟨sameUpcoming, sameFinal, sameNextId, sameFile⟩
  rw [List.append_nil] at sameUpcoming
  cases sameUpcoming
  cases sameFinal
  cases sameNextId
  cases sameFile
  rfl

theorem remaining_le (prolongs : Prolongs behind first second) :
    first.remaining ≤ second.remaining := by
  rw [remaining, remaining, prolongs.upcoming, List.length_append]
  exact Nat.le_add_right _ _

/-- The end token of the first state is seen in both. -/
theorem peek (prolongs : Prolongs behind first second) {distance : Nat}
    (near : distance ≤ first.remaining) : second.peek distance = first.peek distance := by
  rw [ParserState.peek, ParserState.peek, prolongs.upcoming]
  rcases Nat.lt_or_eq_of_le near with within | ended
  · rw [List.getElem?_append_left within, List.getElem?_eq_getElem within]
    rfl
  · rw [remaining] at ended
    rw [ended, List.getElem?_append_right (Nat.le_refl _), Nat.sub_self,
      ← List.head?_eq_getElem?, prolongs.final, List.getElem?_eq_none (Nat.le_refl _)]
    rfl

theorem current (prolongs : Prolongs behind first second) : second.current = first.current := by
  rw [current_eq_peek, current_eq_peek, prolongs.peek (Nat.zero_le _)]

theorem ahead (prolongs : Prolongs behind first second) :
    Kind.ahead second.upcoming = Kind.ahead first.upcoming := by
  rw [← kind_current, ← kind_current, prolongs.current]

theorem tail (prolongs : Prolongs behind first second) (some : first.upcoming ≠ []) :
    Prolongs behind first.tail second.tail := by
  refine ⟨?_, prolongs.final, prolongs.nextId, prolongs.file⟩
  rw [ParserState.tail, ParserState.tail, prolongs.upcoming, List.tail_append_of_ne_nil some]

end ParserState.Prolongs

namespace Parser

open ParserState (Prolongs)

variable {α β : Type}

/-- Two runs end in the same way, each behind the state that it started from. Strict runs that
succeed have passed a token. -/
inductive Alike (behind : List Token) (strict : Bool) (first second : ParserState) :
    EStateM.Result Diagnostic ParserState α → EStateM.Result Diagnostic ParserState α → Prop
  | ok {value : α} {after later : ParserState} : Prolongs behind after later →
      after.Behind first → later.Behind second →
      (strict = true → after.remaining < first.remaining) →
      Alike behind strict first second (.ok value after) (.ok value later)
  | error {diagnostic : Diagnostic} {after later : ParserState} : Prolongs behind after later →
      after.Behind first → later.Behind second →
      Alike behind strict first second (.error diagnostic after) (.error diagnostic later)

variable {behind : List Token} {limit smaller : Nat} {starts : Kind → Prop} {strict : Bool}

theorem Alike.eq_of_nil {first second : ParserState}
    {ran again : EStateM.Result Diagnostic ParserState α}
    (alike : Alike [] strict first second ran again) : again = ran := by
  cases alike with
  | ok prolongs => rw [prolongs.eq_of_nil]
  | error prolongs => rw [prolongs.eq_of_nil]

/-- The second parser goes the way of the first one where more tokens come behind the end, on lists
of fewer tokens than the limit. -/
def Tracks (behind : List Token) (limit : Nat) (starts : Kind → Prop) (strict : Bool)
    (parser again : Parser α) : Prop :=
  ∀ first second, Prolongs behind first second → first.remaining < limit →
    starts (Kind.ahead first.upcoming) →
    Alike behind strict first second (parser first) (again second)

variable {parser again : Parser α} {next nextAgain : α → Parser β}

section Combinators

theorem Tracks.mono (tracks : Tracks behind limit starts strict parser again)
    (fewer : smaller ≤ limit) : Tracks behind smaller starts strict parser again :=
  fun first second prolongs few start =>
    tracks first second prolongs (Nat.lt_of_lt_of_le few fewer) start

theorem Tracks.narrow {wider : Kind → Prop} (tracks : Tracks behind limit wider strict parser again)
    (narrower : ∀ kind, starts kind → wider kind) :
    Tracks behind limit starts strict parser again :=
  fun first second prolongs few start => tracks first second prolongs few (narrower _ start)

theorem Tracks.from (tracks : Tracks behind limit anywhere strict parser again) :
    Tracks behind limit starts strict parser again :=
  tracks.narrow fun _ _ => trivial

theorem Tracks.lax (tracks : Tracks behind limit starts true parser again) :
    Tracks behind limit starts strict parser again := by
  intro first second prolongs few start
  have alike := tracks first second prolongs few start
  generalize parser first = ran at alike ⊢
  generalize again second = ranAgain at alike ⊢
  cases alike with
  | ok prolongs later laterAgain passed =>
      exact .ok prolongs later laterAgain fun _ => passed rfl
  | error prolongs later laterAgain => exact .error prolongs later laterAgain

/-- Parsers that agree from one state on are compared from there. -/
theorem Tracks.eq (tracks : Tracks [] limit starts strict parser again) {state : ParserState}
    (few : state.remaining < limit) (start : starts (Kind.ahead state.upcoming)) :
    again state = parser state :=
  (tracks state state (.refl state) few start).eq_of_nil

/-- One run after another. Behind a run that passes tokens, the second one has fewer of them. -/
theorem Tracks.bind {strictFirst strictNext : Bool}
    (tracks : Tracks behind limit starts strictFirst parser again)
    (tracksNext : ∀ value, Tracks behind smaller anywhere strictNext (next value)
      (nextAgain value))
    (fewer : limit ≤ smaller ∨ strictFirst = true ∧ limit ≤ smaller + 1)
    (passes : strict = true → strictFirst = true ∨ strictNext = true) :
    Tracks behind limit starts strict (parser >>= next) (again >>= nextAgain) := by
  intro first second prolongs few start
  have alike := tracks first second prolongs few start
  rw [bind_apply, bind_apply]
  generalize parser first = ran at alike
  generalize again second = ranAgain at alike
  cases alike with
  | error prolongs later laterAgain => exact .error prolongs later laterAgain
  | @ok value between middle prolongs earlier earlierAgain passed =>
      have notMore := earlier.remaining_le
      have fewNext : between.remaining < smaller := by
        rcases fewer with more | ⟨isStrict, more⟩
        · omega
        · have := passed isStrict
          omega
      have alikeNext := tracksNext value between middle prolongs fewNext trivial
      simp only
      generalize next value between = ranNext at alikeNext
      generalize nextAgain value middle = ranNextAgain at alikeNext
      cases alikeNext with
      | error prolongs later laterAgain =>
          exact .error prolongs (later.trans earlier) (laterAgain.trans earlierAgain)
      | ok prolongs later laterAgain passedNext =>
          refine .ok prolongs (later.trans earlier) (laterAgain.trans earlierAgain)
            fun isStrict => ?_
          have notMoreNext := later.remaining_le
          rcases passes isStrict with isStrict | isStrict
          · have := passed isStrict
            omega
          · have := passedNext isStrict
            omega

/-- Behind a token at least, the parsers need to agree on shorter lists only. -/
theorem Tracks.enter (tracks : Tracks behind (limit + 1) starts true parser again)
    (tracksNext : ∀ value, Tracks behind limit anywhere false (next value) (nextAgain value)) :
    Tracks behind (limit + 1) starts strict (parser >>= next) (again >>= nextAgain) :=
  tracks.bind tracksNext (.inr ⟨rfl, Nat.le_refl _⟩) fun _ => .inl rfl

theorem Tracks.then (tracks : Tracks behind limit starts true parser again)
    (tracksNext : ∀ value, Tracks behind limit anywhere false (next value) (nextAgain value)) :
    Tracks behind limit starts strict (parser >>= next) (again >>= nextAgain) :=
  tracks.bind tracksNext (.inl (Nat.le_refl _)) fun _ => .inl rfl

/-- Behind a run that may pass nothing, the next run decides. -/
theorem Tracks.past (tracks : Tracks behind limit starts false parser again)
    (tracksNext : ∀ value, Tracks behind limit anywhere strict (next value) (nextAgain value)) :
    Tracks behind limit starts strict (parser >>= next) (again >>= nextAgain) :=
  tracks.bind tracksNext (.inl (Nat.le_refl _)) .inr

theorem tracks_pure (value : α) : Tracks behind limit starts false (pure value) (pure value) :=
  fun _ _ prolongs _ _ => .ok prolongs (.refl _) (.refl _) nofun

theorem tracks_failAt (position : Position) (fault : SyntaxFault) :
    Tracks behind limit starts strict (failAt position fault : Parser α)
      (failAt position fault) :=
  fun _ _ prolongs _ _ => .error prolongs (.refl _) (.refl _)

theorem tracks_current {next nextAgain : Token → Parser α}
    (tracks : ∀ token, Tracks behind limit (· = token.kind) strict (next token)
      (nextAgain token)) :
    Tracks behind limit starts strict (current >>= next) (current >>= nextAgain) := by
  intro first second prolongs few start
  have looked (state : ParserState) : current state = .ok state.current state := rfl
  rw [bind_of_ok (looked first), bind_of_ok (looked second), prolongs.current]
  exact tracks first.current first second prolongs few first.kind_current.symm

/-- After a look at the kind of the current token, runs start at that kind. -/
theorem tracks_kind {next nextAgain : Kind → Parser α}
    (tracks : ∀ kind, starts kind →
      Tracks behind limit (· = kind) strict (next kind) (nextAgain kind)) :
    Tracks behind limit starts strict (kind >>= next) (kind >>= nextAgain) := by
  intro first second prolongs few start
  rw [bind_of_ok (kind_apply first), bind_of_ok (kind_apply second), prolongs.ahead]
  exact tracks _ start first second prolongs few rfl

theorem tracks_position {next nextAgain : Position → Parser α}
    (tracks : ∀ start, Tracks behind limit starts strict (next start) (nextAgain start)) :
    Tracks behind limit starts strict (position >>= next) (position >>= nextAgain) := by
  intro first second prolongs few start
  have looked (state : ParserState) : position state = .ok state.current.start state := rfl
  rw [bind_of_ok (looked first), bind_of_ok (looked second), prolongs.current]
  exact tracks first.current.start first second prolongs few start

theorem tracks_unexpected :
    Tracks behind limit starts strict (unexpected : Parser α) unexpected :=
  tracks_current fun _ => tracks_failAt _ _

/-- Parsers that need a token agree where there is none. -/
theorem tracks_of_ended {parser again : Parser α}
    (fails : ∀ state, Kind.ahead state.upcoming = .eof → parser state = unexpected state)
    (failsAgain : ∀ state, Kind.ahead state.upcoming = .eof → again state = unexpected state) :
    Tracks behind 1 anywhere strict parser again := by
  intro first second prolongs few start
  have ended : Kind.ahead first.upcoming = .eof := by
    rw [List.eq_nil_of_length_eq_zero (Nat.lt_one_iff.mp few)]
    rfl
  have unread : Tracks behind 1 anywhere strict (unexpected : Parser α) unexpected :=
    tracks_unexpected
  rw [fails first ended, failsAgain second (prolongs.ahead.trans ended)]
  exact unread first second prolongs few start

/-- A token of a kind that is known is passed, and it is not the end token. -/
theorem tracks_advance {expected : Kind} (proper : expected ≠ .eof) :
    Tracks behind limit (· = expected) true advance advance := by
  intro first second prolongs _ start
  rcases exists_cons_of_ahead (start ▸ proper) with ⟨token, rest, coming, _⟩
  rw [advance_apply, advance_apply, prolongs.current]
  refine .ok (prolongs.tail (by simp [coming])) ⟨List.tail_suffix _, rfl⟩
    ⟨List.tail_suffix _, rfl⟩ fun _ => ?_
  rw [ParserState.remaining_tail, ParserState.remaining, coming]
  exact Nat.lt_succ_self _

theorem tracks_expectOr {expected : Kind} (proper : expected ≠ .eof)
    (fault : Token → SyntaxFault) :
    Tracks behind limit starts strict (expectOr expected fault) (expectOr expected fault) := by
  refine tracks_current fun token => ?_
  split
  · rename_i same
    rw [same]
    exact (tracks_advance proper).lax
  · exact tracks_failAt _ _

theorem tracks_expect {expected : Kind} (proper : expected ≠ .eof) :
    Tracks behind limit starts strict (expect expected) (expect expected) :=
  tracks_expectOr proper _

theorem tracks_identifier : Tracks behind limit starts strict identifier identifier :=
  (tracks_expect (by simp)).then fun _ => tracks_pure _

theorem tracks_freshId : Tracks behind limit starts false freshId freshId := by
  intro first second prolongs _ _
  have ran : freshId second =
      .ok first.nextId { second with nextId := second.nextId + 1 } := by
    rw [← prolongs.nextId]
    rfl
  rw [ran]
  refine .ok ⟨prolongs.upcoming, prolongs.final, ?_, prolongs.file⟩ ⟨List.suffix_rfl, rfl⟩
    ⟨List.suffix_rfl, rfl⟩ nofun
  exact congrArg Nat.succ prolongs.nextId

end Combinators

section Loops

variable {again : Kind → Bool} {step stepAgain : α → Parser α} {item itemAgain : Parser α}

/-- There is nothing to agree on. -/
theorem tracks_zero {parser again : Parser α} : Tracks behind 0 starts strict parser again :=
  fun _ _ _ few _ => absurd few (Nat.not_lt_zero _)

/-- A loop agrees on lists of fewer tokens than there are rounds, since every round passes one. -/
theorem tracks_repeatUpTo
    (tracks : ∀ value, Tracks behind limit (again · = true) true (step value) (stepAgain value)) :
    ∀ {rounds others : Nat} (value : α), limit ≤ rounds → limit ≤ others →
      Tracks behind limit anywhere false (repeatUpTo again step rounds value)
        (repeatUpTo again stepAgain others value) := by
  induction limit with
  | zero => exact fun _ _ _ => tracks_zero
  | succ limit ih =>
      intro rounds others value enough enoughAgain
      rcases Nat.exists_eq_add_of_le' enough with ⟨rounds, rfl⟩
      rcases Nat.exists_eq_add_of_le' enoughAgain with ⟨others, rfl⟩
      have shorter (value : α) := (tracks value).mono (Nat.le_succ limit)
      refine tracks_kind fun kind _ => ?_
      split
      · rename_i goesOn
        have first : Tracks behind (limit + 1) (· = kind) true (step value) (stepAgain value) :=
          (tracks value).narrow fun _ same => same ▸ goesOn
        exact first.enter fun longer =>
          ih shorter longer (Nat.le_add_left _ _) (Nat.le_add_left _ _)
      · exact tracks_pure value

theorem tracks_repeatWhile (value : α)
    (tracks : ∀ value, Tracks behind limit (again · = true) true (step value) (stepAgain value)) :
    Tracks behind limit starts false (repeatWhile again step value)
      (repeatWhile again stepAgain value) := by
  intro first second prolongs few _
  have shorter (value : α) := (tracks value).mono (Nat.succ_le_of_lt few)
  exact tracks_repeatUpTo shorter value (Nat.le_refl _) (Nat.succ_le_succ prolongs.remaining_le)
    first second prolongs (Nat.lt_succ_self _) trivial

theorem tracks_collectUpTo
    (tracks : Tracks behind limit (again · = true) true item itemAgain) :
    ∀ {rounds others : Nat}, limit ≤ rounds → limit ≤ others →
      Tracks behind limit anywhere false (collectUpTo again item rounds)
        (collectUpTo again itemAgain others) := by
  induction limit with
  | zero => exact fun _ _ => tracks_zero
  | succ limit ih =>
      intro rounds others enough enoughAgain
      rcases Nat.exists_eq_add_of_le' enough with ⟨rounds, rfl⟩
      rcases Nat.exists_eq_add_of_le' enoughAgain with ⟨others, rfl⟩
      refine tracks_kind fun kind _ => ?_
      split
      · rename_i goesOn
        have first : Tracks behind (limit + 1) (· = kind) true item itemAgain :=
          tracks.narrow fun _ same => same ▸ goesOn
        refine first.enter fun value => Tracks.past ?_ fun values => tracks_pure (value :: values)
        exact ih (tracks.mono (Nat.le_succ limit)) (Nat.le_add_left _ _) (Nat.le_add_left _ _)
      · exact tracks_pure []

theorem tracks_collectWhile
    (tracks : Tracks behind limit (again · = true) true item itemAgain) :
    Tracks behind limit starts false (collectWhile again item) (collectWhile again itemAgain) := by
  intro first second prolongs few _
  exact tracks_collectUpTo (tracks.mono (Nat.succ_le_of_lt few)) (Nat.le_refl _)
    (Nat.succ_le_succ prolongs.remaining_le) first second prolongs (Nat.lt_succ_self _) trivial

/-- One more item starts with its comma. -/
theorem tracks_moreItem (tracks : Tracks behind limit anywhere false item itemAgain) :
    Tracks behind limit (fun kind => decide (kind = .comma) = true) true (advance *> item)
      (advance *> itemAgain) := by
  show Tracks _ _ _ _ (advance >>= fun _ => item) (advance >>= fun _ => itemAgain)
  have comma : Tracks behind limit (· = .comma) true advance advance := tracks_advance (by simp)
  exact (comma.narrow fun _ same => of_decide_eq_true same).then fun _ => tracks

theorem tracks_moreItems (tracks : Tracks behind limit anywhere false item itemAgain) :
    Tracks behind limit starts false (moreItems item) (moreItems itemAgain) :=
  tracks_collectWhile (tracks_moreItem tracks)

theorem tracks_itemsUntil {close : Kind}
    (tracks : Tracks behind limit anywhere false item itemAgain) :
    Tracks behind limit starts false (itemsUntil close item) (itemsUntil close itemAgain) := by
  refine tracks_kind fun kind _ => ?_
  split
  · exact tracks_pure []
  · exact tracks.from.past fun first => (tracks_moreItems tracks).past fun more =>
      tracks_pure (first :: more)

end Loops

section Types

variable {inside insideAgain : Parser Ty}

/-- The parsers for types inside agree on short lists. -/
abbrev TracksType (behind : List Token) (limit : Nat) (inside insideAgain : Parser Ty) : Prop :=
  Tracks behind limit anywhere true inside insideAgain

theorem tracks_resultType (tracks : TracksType behind limit inside insideAgain) :
    Tracks behind limit starts true (resultType inside) (resultType insideAgain) := by
  refine tracks_kind fun kind _ => ?_
  split
  · rename_i isVoid
    subst isVoid
    exact (tracks_advance (by simp)).then fun _ => tracks_pure _
  · exact tracks.from

theorem tracks_parameter (tracks : TracksType behind limit inside insideAgain) :
    Tracks behind limit starts true (parameter inside) (parameter insideAgain) :=
  tracks.from.then fun _ => tracks_identifier.past fun _ => tracks_pure _

theorem tracks_parameters (tracks : TracksType behind limit inside insideAgain) :
    Tracks behind limit starts true (parameters inside) (parameters insideAgain) := by
  refine (tracks_expect (by simp)).then fun _ => ?_
  refine (tracks_itemsUntil (tracks_parameter tracks).lax).past fun params => ?_
  exact (tracks_expect (by simp)).past fun _ => tracks_pure params

theorem tracks_functionType (tracks : TracksType behind limit inside insideAgain) :
    Tracks behind (limit + 1) starts true (functionType inside) (functionType insideAgain) := by
  refine (tracks_expect (by simp)).enter fun _ => ?_
  refine (tracks_expect (by simp)).past fun _ => (tracks_resultType tracks).lax.past fun _ => ?_
  refine (tracks_expect (by simp)).past fun _ => (tracks_parameters tracks).lax.past fun _ => ?_
  exact (tracks_expect (by simp)).past fun _ => tracks_pure _

theorem tracks_primitiveType :
    Tracks behind limit starts true primitiveType primitiveType := by
  refine tracks_kind fun kind _ => ?_
  cases named : kind.primitive? with
  | none => exact tracks_unexpected
  | some primitive =>
      have proper : kind ≠ .eof := by
        rintro rfl
        contradiction
      exact (tracks_advance proper).then fun _ => tracks_pure _

theorem tracks_typeStart (tracks : TracksType behind limit inside insideAgain) :
    Tracks behind (limit + 1) starts true (typeStart inside) (typeStart insideAgain) := by
  refine tracks_kind fun kind _ => ?_
  cases kind.typeStart? with
  | none => exact tracks_unexpected
  | some form =>
      cases form with
      | primitive => exact tracks_primitiveType
      | named => exact tracks_identifier.then fun _ => tracks_pure _
      | function => exact tracks_functionType tracks

theorem tracks_typeTail (tracks : TracksType behind limit inside insideAgain) (left : Ty) :
    Tracks behind (limit + 1) starts true (typeTail inside left) (typeTail insideAgain left) := by
  refine tracks_kind fun kind _ => ?_
  cases kind.typeTail? with
  | none => exact tracks_unexpected
  | some form =>
      rcases form with ⟨form, power⟩
      cases form with
      | array =>
          refine (tracks_expect (by simp)).then fun _ => ?_
          exact (tracks_expect (by simp)).past fun _ => tracks_pure _
      | setOrMap =>
          refine (tracks_expect (by simp)).enter fun _ => tracks_kind fun kind _ => ?_
          split
          · rename_i closes
            subst closes
            exact (tracks_advance (by simp)).then fun _ => tracks_pure _
          · refine tracks.from.lax.past fun key => ?_
            exact (tracks_expect (by simp)).past fun _ => tracks_pure _

/-- A type is read as on lists that are shorter by the token that it starts with. -/
theorem tracks_typeForm (tracks : TracksType behind limit inside insideAgain) (power : Power) :
    Tracks behind (limit + 1) starts true (typeForm inside power) (typeForm insideAgain power) :=
  (tracks_typeStart tracks).then fun left =>
    tracks_repeatWhile left fun left => tracks_typeTail tracks left

/-- A type has a token at least. -/
theorem nestedType_of_ended (depth : Nat) (state : ParserState)
    (ended : Kind.ahead state.upcoming = .eof) : nestedType depth state = unexpected state := by
  cases depth with
  | zero => rfl
  | succ depth =>
      rw [nestedType, typeForm, bind_apply, typeStart, bind_of_ok (kind_apply state), ended]
      rfl

/-- Types that are nested deeper are read in the same way on lists that are not longer than that. -/
theorem tracks_nestedType {depth : Nat} : ∀ {deeper : Nat}, depth ≤ deeper →
    TracksType behind (depth + 1) (nestedType depth) (nestedType deeper) := by
  induction depth with
  | zero => exact fun _ => tracks_of_ended (nestedType_of_ended 0) (nestedType_of_ended _)
  | succ depth ih =>
      intro deeper enough
      rcases Nat.exists_eq_add_of_le' enough with ⟨more, rfl⟩
      exact tracks_typeForm (ih (Nat.le_add_left _ _)) .lowest

theorem tracks_withTypes {form : Parser Ty → Parser α}
    (tracks : ∀ {limit inside insideAgain}, TracksType behind limit inside insideAgain →
      Tracks behind limit starts strict (form inside) (form insideAgain)) :
    Tracks behind limit starts strict (withTypes form) (withTypes form) :=
  fun first second prolongs _ start =>
    tracks (tracks_nestedType prolongs.remaining_le) first second prolongs (Nat.lt_succ_self _)
      start

theorem tracks_parseType (power : Power) :
    TracksType behind limit (parseType power) (parseType power) :=
  tracks_withTypes fun tracks => (tracks_typeForm tracks power).mono (Nat.le_succ _)

end Types

end Parser

end ScriptCheck
