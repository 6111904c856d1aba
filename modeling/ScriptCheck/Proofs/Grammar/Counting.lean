import ScriptCheck.Grammar.StmtForm
import ScriptCheck.Proofs.Program.Numbered
import ScriptCheck.Proofs.Run

/-!
# Counting declarations

The parser numbers declarations from a counter when they are complete. `Counts` follows the counter
through a run: it tells which numbers stand in what has been found so far. `Steady` runs number
nothing, like those that read types.
-/

namespace ScriptCheck

/-- Declarations that have been read, and the condition under which each of them stands in one
place only. -/
structure Ledger where
  declared : List Numbered
  once : Prop

namespace Ledger

def empty : Ledger :=
  ⟨[], True⟩

def single (declaration : Numbered) : Ledger :=
  ⟨[declaration], True⟩

instance : Append Ledger :=
  ⟨fun first second => ⟨first.declared ++ second.declared, first.once ∧ second.once⟩⟩

/-- What is declared in items, each of which has a ledger of its own. -/
def all {Item : Type} (ledger : Item → Ledger) (items : List Item) : Ledger :=
  ⟨items.flatMap fun item => (ledger item).declared, ∀ item ∈ items, (ledger item).once⟩

/-- The declarations have the numbers from the first up to the next one, and they are in order where
each stands in one place only. -/
structure Spans (ledger : Ledger) (first next : Nat) : Prop where
  le : first ≤ next
  mem_iff : ∀ id, id ∈ ledger.declared.map Numbered.id ↔ first ≤ id ∧ id < next
  increasing : ledger.once → (ledger.declared.map Numbered.id).Pairwise (· < ·)

variable {ledger other : Ledger} {first next last : Nat}

theorem spans_empty (first : Nat) : empty.Spans first first :=
  ⟨Nat.le_refl first, fun id => ⟨nofun, fun between => by omega⟩, fun _ => .nil⟩

theorem spans_single (declaration : Numbered) :
    (single declaration).Spans declaration.id (declaration.id + 1) := by
  refine ⟨Nat.le_succ _, fun id => ?_, fun _ => List.pairwise_singleton _ _⟩
  rw [single, List.map_singleton, List.mem_singleton]
  omega

theorem Spans.append (spans : ledger.Spans first next) (spansOther : other.Spans next last) :
    (ledger ++ other).Spans first last := by
  have declared : (ledger ++ other).declared.map Numbered.id =
      ledger.declared.map Numbered.id ++ other.declared.map Numbered.id := List.map_append
  refine ⟨Nat.le_trans spans.le spansOther.le, fun id => ?_, fun once => ?_⟩
  · have before := spans.le
    have behind := spansOther.le
    rw [declared, List.mem_append, spans.mem_iff, spansOther.mem_iff]
    omega
  · rw [declared, List.pairwise_append]
    refine ⟨spans.increasing once.1, spansOther.increasing once.2, ?_⟩
    intro id among later amongOther
    have before := (spans.mem_iff id).mp among
    have behind := (spansOther.mem_iff later).mp amongOther
    exact Nat.lt_of_lt_of_le before.2 behind.1

/-- The same declarations under a condition that is stronger. -/
theorem Spans.mono (spans : ledger.Spans first next) (same : ledger.declared = other.declared)
    (once : other.once → ledger.once) : other.Spans first next := by
  refine ⟨spans.le, fun id => ?_, fun holds => ?_⟩
  · rw [← same]
    exact spans.mem_iff id
  · rw [← same]
    exact spans.increasing (once holds)

/-- What is written twice in a row is the same declarations, and in one place only where it declares
nothing. -/
theorem Spans.repeated (spans : (ledger ++ other).Spans first next) {once : Prop}
    (single : once → ledger.declared = [] ∧ ledger.once ∧ other.once) :
    Spans ⟨ledger.declared ++ (ledger.declared ++ other.declared), once⟩ first next := by
  refine ⟨spans.le, fun id => ?_, fun holds => ?_⟩
  · rw [List.map_append, List.mem_append]
    refine (or_iff_right_of_imp fun among => ?_).trans (spans.mem_iff id)
    rw [List.map_append]
    exact List.mem_append_left _ among
  · have increasing := spans.increasing (single holds).2
    rw [(single holds).1]
    rwa [show (ledger ++ other).declared = ledger.declared ++ other.declared from rfl,
      (single holds).1] at increasing

end Ledger

namespace Parser

variable {α β : Type} {parser : Parser α} {next : α → Parser β}

/-- A successful run numbers nothing. -/
def Steady (parser : Parser α) : Prop :=
  ∀ state value after, parser state = .ok value after → after.nextId = state.nextId

section Steady

theorem Steady.bind (steady : Steady parser) (steadyNext : ∀ value, Steady (next value)) :
    Steady (parser >>= next) := by
  intro state value after ran
  rcases ok_of_bind_eq_ok ran with ⟨found, passed, ranFirst, ranNext⟩
  rw [steadyNext found _ _ _ ranNext, steady _ _ _ ranFirst]

theorem steady_pure (value : α) : Steady (pure value) := by
  intro state found after ran
  rw [(EStateM.Result.ok.inj ran).2]

theorem steady_get : Steady (get : Parser ParserState) := by
  intro state found after ran
  rw [← (EStateM.Result.ok.inj ran).2]

theorem steady_failAt (position : Position) (fault : SyntaxFault) :
    Steady (failAt position fault : Parser α) :=
  fun _ _ _ ran => nomatch ran

theorem steady_current : Steady current :=
  steady_get.bind fun _ => steady_pure _

theorem steady_kind : Steady kind :=
  steady_current.bind fun _ => steady_pure _

theorem steady_position : Steady position :=
  steady_current.bind fun _ => steady_pure _

theorem steady_unexpected : Steady (unexpected : Parser α) :=
  steady_current.bind fun _ => steady_failAt _ _

theorem steady_advance : Steady advance := by
  intro state found after ran
  rw [← (EStateM.Result.ok.inj ran).2]
  rfl

theorem steady_expectOr (expected : Kind) (fault : Token → SyntaxFault) :
    Steady (expectOr expected fault) := by
  refine steady_current.bind fun token => ?_
  split
  · exact steady_advance
  · exact steady_failAt _ _

theorem steady_expect (expected : Kind) : Steady (expect expected) :=
  steady_expectOr _ _

theorem steady_identifier : Steady identifier :=
  (steady_expect _).bind fun _ => steady_pure _

theorem steady_repeatWhile {again : Kind → Bool} {step : α → Parser α}
    (steady : ∀ value, Steady (step value)) (value : α) :
    Steady (repeatWhile again step value) := by
  have rounds (count : Nat) : ∀ value, Steady (repeatUpTo again step count value) := by
    induction count with
    | zero => exact steady_pure
    | succ count ih =>
        refine fun value => steady_kind.bind fun kind => ?_
        split
        · exact (steady value).bind ih
        · exact steady_pure value
  exact steady_get.bind fun state => rounds _ value

theorem steady_collectWhile {again : Kind → Bool} (steady : Steady parser) :
    Steady (collectWhile again parser) := by
  have rounds (count : Nat) : Steady (collectUpTo again parser count) := by
    induction count with
    | zero => exact steady_pure _
    | succ count ih =>
        refine steady_kind.bind fun kind => ?_
        split
        · exact steady.bind fun _ => ih.bind fun _ => steady_pure _
        · exact steady_pure _
  exact steady_get.bind fun state => rounds _

theorem steady_itemsUntil {close : Kind} (steady : Steady parser) :
    Steady (itemsUntil close parser) := by
  refine steady_kind.bind fun kind => ?_
  split
  · exact steady_pure _
  · refine steady.bind fun first => Steady.bind ?_ fun _ => steady_pure _
    exact steady_collectWhile (steady_advance.bind fun _ => steady)

end Steady

section Types

variable {inside : Parser Ty}

theorem steady_resultType (steady : Steady inside) : Steady (resultType inside) := by
  refine steady_kind.bind fun kind => ?_
  split
  · exact steady_advance.bind fun _ => steady_pure _
  · exact steady

theorem steady_parameters (steady : Steady inside) : Steady (parameters inside) := by
  have steadyOne : Steady (parameter inside) :=
    steady.bind fun _ => steady_identifier.bind fun _ => steady_pure _
  refine (steady_expect _).bind fun _ => (steady_itemsUntil steadyOne).bind fun params => ?_
  exact (steady_expect _).bind fun _ => steady_pure params

theorem steady_functionType (steady : Steady inside) : Steady (functionType inside) := by
  refine (steady_expect _).bind fun _ => (steady_expect _).bind fun _ => ?_
  refine (steady_resultType steady).bind fun result => (steady_expect _).bind fun _ => ?_
  exact (steady_parameters steady).bind fun params => (steady_expect _).bind fun _ =>
    steady_pure _

theorem steady_typeStart (steady : Steady inside) : Steady (typeStart inside) := by
  have primitive : Steady primitiveType := by
    refine steady_kind.bind fun kind => ?_
    split
    · exact steady_unexpected
    · exact steady_advance.bind fun _ => steady_pure _
  refine steady_kind.bind fun kind => ?_
  split
  · exact steady_unexpected
  · exact primitive
  · exact steady_identifier.bind fun _ => steady_pure _
  · exact steady_functionType steady

theorem steady_typeTail (steady : Steady inside) (left : Ty) : Steady (typeTail inside left) := by
  refine steady_kind.bind fun kind => ?_
  split
  · exact steady_unexpected
  · exact (steady_expect _).bind fun _ => (steady_expect _).bind fun _ => steady_pure _
  · refine (steady_expect _).bind fun _ => steady_kind.bind fun kind => ?_
    split
    · exact steady_advance.bind fun _ => steady_pure _
    · exact steady.bind fun key => (steady_expect _).bind fun _ => steady_pure _

theorem steady_typeForm (steady : Steady inside) (power : Power) :
    Steady (typeForm inside power) :=
  (steady_typeStart steady).bind fun left =>
    steady_repeatWhile (fun left => steady_typeTail steady left) left

/-- Nothing is declared in a type. -/
theorem steady_nestedType (depth : Nat) : Steady (nestedType depth) := by
  induction depth with
  | zero => exact steady_unexpected
  | succ depth ih => exact steady_typeForm ih .lowest

theorem steady_withTypes {form : Parser Ty → Parser α}
    (steady : ∀ inside, Steady inside → Steady (form inside)) : Steady (withTypes form) :=
  steady_get.bind fun _ => steady _ (steady_nestedType _)

theorem steady_parseType (power : Power) : Steady (parseType power) :=
  steady_withTypes fun _ steady => steady_typeForm steady power

end Types

/-- A run that begins behind some declarations and succeeds has come behind others, and the counter
tells the numbers of all of them. -/
def Counts (earlier : Ledger) (later : α → Ledger) (parser : Parser α) : Prop :=
  ∀ first state value after, earlier.Spans first state.nextId →
    parser state = .ok value after → (later value).Spans first after.nextId

section Combinators

variable {earlier : Ledger} {between ledger : α → Ledger} {later : β → Ledger}

theorem Counts.bind (counts : Counts earlier between parser)
    (countsNext : ∀ value, Counts (between value) later (next value)) :
    Counts earlier later (parser >>= next) := by
  intro first state value after spans ran
  rcases ok_of_bind_eq_ok ran with ⟨found, passed, ranFirst, ranNext⟩
  exact countsNext found first passed value after (counts _ _ _ _ spans ranFirst) ranNext

/-- What comes before a run may be declared under a weaker condition. -/
theorem Counts.from {other : Ledger} (counts : Counts other ledger parser)
    (same : earlier.declared = other.declared) (once : other.once → earlier.once) :
    Counts earlier ledger parser :=
  fun first state value after spans ran => counts first state value after (spans.mono same once) ran

/-- What is read behind other declarations is declared in addition to them. -/
theorem Counts.behind (counts : Counts .empty ledger parser) (earlier : Ledger) :
    Counts earlier (fun value => earlier ++ ledger value) parser := by
  intro first state value after spans ran
  exact spans.append (counts _ _ _ _ (Ledger.spans_empty _) ran)

theorem Steady.then (steady : Steady parser)
    (countsNext : ∀ value, Counts earlier later (next value)) :
    Counts earlier later (parser >>= next) := by
  intro first state value after spans ran
  rcases ok_of_bind_eq_ok ran with ⟨found, passed, ranFirst, ranNext⟩
  refine countsNext found first passed value after ?_ ranNext
  rw [steady _ _ _ ranFirst]
  exact spans

/-- What is returned declares what was declared before, and in one place only where that did. -/
theorem counts_pure {value : α} (same : earlier.declared = (ledger value).declared)
    (once : (ledger value).once → earlier.once) : Counts earlier ledger (pure value) := by
  intro first state found after spans ran
  rcases EStateM.Result.ok.inj ran with ⟨rfl, rfl⟩
  exact spans.mono same once

theorem counts_failAt (position : Position) (fault : SyntaxFault) :
    Counts earlier ledger (failAt position fault) :=
  fun _ _ _ _ _ ran => nomatch ran

theorem counts_unexpected : Counts earlier ledger unexpected :=
  steady_current.then fun _ => counts_failAt _ _

theorem counts_freshId (declaration : Nat → Numbered)
    (sameId : ∀ id, (declaration id).id = id) :
    Counts earlier (fun id => earlier ++ .single (declaration id)) freshId := by
  intro first state id after spans ran
  rcases EStateM.Result.ok.inj ran with ⟨rfl, rfl⟩
  have single := Ledger.spans_single (declaration state.nextId)
  rw [sameId] at single
  exact spans.append single

/-- What every round of a loop keeps of its value and the counter holds where the loop ends. -/
theorem kept_of_repeatWhile {again : Kind → Bool} {step : α → Parser α} (kept : α → Nat → Prop)
    (keeps : ∀ value state longer after, kept value state.nextId →
      step value state = .ok longer after → kept longer after.nextId)
    {value found : α} {state after : ParserState} (starts : kept value state.nextId)
    (ran : repeatWhile again step value state = .ok found after) : kept found after.nextId := by
  have rounds (count : Nat) (value : α) (state : ParserState) (starts : kept value state.nextId)
      (ran : repeatUpTo again step count value state = .ok found after) :
      kept found after.nextId := by
    induction count generalizing value state with
    | zero =>
        rcases EStateM.Result.ok.inj ran with ⟨rfl, rfl⟩
        exact starts
    | succ count ih =>
        rcases ok_of_bind_eq_ok ran with ⟨kind, looked, ranKind, ran⟩
        rw [← steady_kind _ _ _ ranKind] at starts
        split at ran
        · rcases ok_of_bind_eq_ok ran with ⟨longer, between, ranStep, ranRest⟩
          exact ih longer between (keeps _ _ _ _ starts ranStep) ranRest
        · rcases EStateM.Result.ok.inj ran with ⟨rfl, rfl⟩
          exact starts
  rcases ok_of_bind_eq_ok ran with ⟨_, looked, ranState, ran⟩
  rw [← steady_get _ _ _ ranState] at starts
  exact rounds _ _ _ starts ran

theorem counts_repeatWhile {again : Kind → Bool} {step : α → Parser α}
    (counts : ∀ value, Counts (ledger value) ledger (step value)) (value : α) :
    Counts (ledger value) ledger (repeatWhile again step value) := by
  intro first state found after spans ran
  exact kept_of_repeatWhile (fun value next => (ledger value).Spans first next)
    (fun value state longer after => counts value first state longer after) spans ran

theorem counts_collectWhile {again : Kind → Bool} (counts : Counts .empty ledger parser) :
    Counts .empty (.all ledger) (collectWhile again parser) := by
  have rounds (count : Nat) : Counts .empty (.all ledger) (collectUpTo again parser count) := by
    induction count with
    | zero => exact counts_pure rfl fun _ => trivial
    | succ count ih =>
        refine steady_kind.then fun kind => ?_
        split
        · refine counts.bind fun value => (ih.behind _).bind fun values => ?_
          exact counts_pure rfl List.forall_mem_cons.mp
        · exact counts_pure rfl fun _ => trivial
  exact steady_get.then fun state => rounds _

theorem counts_moreItems (counts : Counts .empty ledger parser) :
    Counts .empty (.all ledger) (moreItems parser) :=
  counts_collectWhile (steady_advance.then fun _ => counts)

theorem counts_itemsUntil {close : Kind} (counts : Counts .empty ledger parser) :
    Counts .empty (.all ledger) (itemsUntil close parser) := by
  refine steady_kind.then fun kind => ?_
  split
  · exact counts_pure rfl fun _ => trivial
  · refine counts.bind fun value => ((counts_moreItems counts).behind _).bind fun values => ?_
    exact counts_pure rfl List.forall_mem_cons.mp

end Combinators

end Parser

end ScriptCheck
