import ScriptCheck.Proofs.Typing.Holes
import ScriptCheck.Proofs.Typing.Search

/-!
# Literals of collections

The elements of an array or a set have to share one type, and so do the keys and the values of a
map. Each of them is only compared with the first one, though, and agreement is not transitive where
the first one has holes: behind an empty array, arrays of any types are accepted side by side. All
parts agree with each other where the type of the first one has no holes.

Which types the parts are given does not depend on where they stand in the literal, since the check
of a part leaves the scopes as they were.
-/

namespace ScriptCheck

open Checker

/-- The parts of a literal that have to share a type. -/
inductive Expr.Shares : Expr → List Expr → Prop where
  | elements (elements : List Expr) : Shares (.array elements) elements
  | members (elements : List Expr) : Shares (.set elements) elements
  | keys (pairs : List (Expr × Expr)) : Shares (.map pairs) (pairs.map (·.1))
  | values (pairs : List (Expr × Expr)) : Shares (.map pairs) (pairs.map (·.2))

/-- The type that an expression has in a state, if it is accepted there. -/
def CheckState.type? (state : CheckState) (expr : Expr) : Option Ty :=
  match checkExpr expr state with
  | .ok type _ => some type
  | .error _ _ => none

theorem CheckState.type?_eq_some {state : CheckState} {expr : Expr} {type : Ty} :
    state.type? expr = some type ↔ ∃ after, checkExpr expr state = .ok type after := by
  rw [type?]
  cases checkExpr expr state <;> simp

/-- The type of an expression does not depend on what has been found out about declarations. -/
theorem CheckState.type?_congr {state other : CheckState}
    (position : state.position = other.position) (scopes : state.scopes = other.scopes)
    (expr : Expr) : state.type? expr = other.type? expr := by
  have alike : List.Forall₂ Likeness.tracking.Scopes state.scopes.scopes other.scopes.scopes := by
    rw [scopes]
    exact List.forall₂_same.mpr fun scope _ => Likeness.Scopes.refl scope
  have states : Likeness.tracking.States [] state other :=
    ⟨position, trivial, [], List.Sublist.refl [], .base (by simp [ScopeStack.scopes]) alike⟩
  have outcomes := mirrors_checkExpr False.elim expr _ _ states
  rw [type?, type?]
  generalize checkExpr expr state = ran, checkExpr expr other = ranOther at outcomes
  cases outcomes <;> rfl

/-- The parts have types in a state, and all these types agree with an expected one. -/
def CheckState.Conform (state : CheckState) (expected : Ty) (parts : List Expr) : Prop :=
  ∀ part ∈ parts, ∃ type, state.type? part = some type ∧ type.agrees expected = true

namespace CheckState.Conform

variable {state after : CheckState} {expected : Ty}

theorem congr {parts : List Expr} (position : state.position = after.position)
    (scopes : state.scopes = after.scopes) (conform : after.Conform expected parts) :
    state.Conform expected parts := by
  intro part member
  rw [type?_congr position scopes]
  exact conform part member

/-- A part that agrees comes before parts that conform in the state that it leaves. -/
theorem cons {part : Expr} {rest : List Expr} {type : Ty}
    (ran : checkExpr part state = .ok type after) (agrees : type.agrees expected = true)
    (conform : after.Conform expected rest) : state.Conform expected (part :: rest) := by
  have kept := (keeps_checkExpr part).of_ok ran
  intro other member
  rcases List.mem_cons.mp member with rfl | later
  · exact ⟨type, type?_eq_some.mpr ⟨after, ran⟩, agrees⟩
  · exact conform.congr kept.1.symm kept.2 other later

/-- Parts agree with each other where they conform to a type without holes. -/
theorem agree {parts : List Expr} (conform : state.Conform expected parts)
    (filled : expected.isFilled = true) {first second : Expr} (among : first ∈ parts)
    (amongToo : second ∈ parts) {type other : Ty} (typed : state.type? first = some type)
    (typedToo : state.type? second = some other) : type.agrees other = true := by
  rcases conform first among with ⟨_, same, agrees⟩
  rcases conform second amongToo with ⟨_, sameToo, agreesToo⟩
  rw [typed, Option.some.injEq] at same
  rw [typedToo, Option.some.injEq] at sameToo
  rw [← same] at agrees
  rw [← sameToo, Ty.agrees_comm] at agreesToo
  exact Ty.agrees_through filled agrees agreesToo

end CheckState.Conform

theorem agrees_of_agree {first second : Ty} {fault : TypeFault} {state after : CheckState}
    (ran : follow (Rule.agree first second fault) state = .ok () after) :
    first.agrees second = true ∧ after = state := by
  rcases ok_of_follow ran with ⟨agree, same⟩
  refine ⟨?_, same⟩
  cases agrees : first.agrees second with
  | true => rfl
  | false => simp [Rule.agree, agrees] at agree

section Parts

variable {state after : CheckState}

theorem conform_of_checkRest {collection : String} {expected : Ty} {elements : List Expr}
    (ran : checkRest collection expected elements state = .ok () after) :
    state.Conform expected elements := by
  induction elements generalizing state with
  | nil => exact fun part member => absurd member List.not_mem_nil
  | cons next rest ih =>
      rw [checkRest] at ran
      rcases ok_of_bind_eq_ok ran with ⟨received, between, ranNext, ran⟩
      rcases ok_of_bind_eq_ok ran with ⟨_, same, followed, ranRest⟩
      rcases agrees_of_agree followed with ⟨agrees, rfl⟩
      exact .cons ranNext agrees (ih ranRest)

theorem conform_of_checkPairs {key value : Ty} {pairs : List (Expr × Expr)}
    (ran : checkPairs key value pairs state = .ok () after) :
    state.Conform key (pairs.map (·.1)) ∧ state.Conform value (pairs.map (·.2)) := by
  induction pairs generalizing state with
  | nil =>
      exact ⟨fun part member => absurd member List.not_mem_nil,
        fun part member => absurd member List.not_mem_nil⟩
  | cons pair rest ih =>
      rcases pair with ⟨first, second⟩
      rw [checkPairs] at ran
      rcases ok_of_bind_eq_ok ran with ⟨receivedKey, between, ranKey, ran⟩
      rcases ok_of_bind_eq_ok ran with ⟨_, _, followedKey, ran⟩
      rcases ok_of_bind_eq_ok ran with ⟨receivedValue, filled, ranValue, ran⟩
      rcases ok_of_bind_eq_ok ran with ⟨_, _, followedValue, ranRest⟩
      rcases agrees_of_agree followedKey with ⟨agreesKey, rfl⟩
      rcases agrees_of_agree followedValue with ⟨agreesValue, rfl⟩
      have keptKey := (keeps_checkExpr first).of_ok ranKey
      have keptValue := (keeps_checkExpr second).of_ok ranValue
      rcases ih ranRest with ⟨keys, values⟩
      constructor
      · exact .cons ranKey agreesKey (keys.congr keptValue.1.symm keptValue.2)
      · exact (CheckState.Conform.cons ranValue agreesValue values).congr keptKey.1.symm keptKey.2

theorem conform_of_checkElements {collection : String} {first : Expr} {rest : List Expr}
    {type : Ty} (ran : checkElements collection (first :: rest) state = .ok type after) :
    state.type? first = some type ∧ state.Conform type (first :: rest) := by
  rw [checkElements] at ran
  rcases ok_of_bind_eq_ok ran with ⟨expected, between, ranFirst, ran⟩
  rcases ok_of_bind_eq_ok ran with ⟨_, last, ranRest, ended⟩
  rcases EStateM.Result.ok.inj ended with ⟨rfl, _⟩
  exact ⟨CheckState.type?_eq_some.mpr ⟨between, ranFirst⟩,
    .cons ranFirst (Ty.agrees_refl expected) (conform_of_checkRest ranRest)⟩

theorem conform_of_checkMap {first second : Expr} {rest : List (Expr × Expr)} {type : Ty}
    (ran : checkMap ((first, second) :: rest) state = .ok type after) :
    ∃ key value, state.type? first = some key ∧ state.type? second = some value ∧
      state.Conform key (first :: rest.map (·.1)) ∧
      state.Conform value (second :: rest.map (·.2)) := by
  rw [checkMap] at ran
  rcases ok_of_bind_eq_ok ran with ⟨key, between, ranKey, ran⟩
  rcases ok_of_bind_eq_ok ran with ⟨value, filled, ranValue, ran⟩
  rcases ok_of_bind_eq_ok ran with ⟨_, same, followed, ran⟩
  rcases ok_of_bind_eq_ok ran with ⟨_, last, ranRest, _⟩
  rw [(ok_of_follow followed).2] at ranRest
  have keptKey := (keeps_checkExpr first).of_ok ranKey
  have keptValue := (keeps_checkExpr second).of_ok ranValue
  rcases conform_of_checkPairs ranRest with ⟨keys, values⟩
  have valueTyped : between.type? second = some value :=
    CheckState.type?_eq_some.mpr ⟨filled, ranValue⟩
  have valuesConform := CheckState.Conform.cons ranValue (Ty.agrees_refl value) values
  refine ⟨key, value, CheckState.type?_eq_some.mpr ⟨between, ranKey⟩, ?_, ?_, ?_⟩
  · rw [CheckState.type?_congr keptKey.1.symm keptKey.2]
    exact valueTyped
  · exact .cons ranKey (Ty.agrees_refl key) (keys.congr keptValue.1.symm keptValue.2)
  · exact valuesConform.congr keptKey.1.symm keptKey.2

/-- The parts of an accepted literal have types that agree with that of the first part. -/
theorem Expr.Shares.conform {literal first : Expr} {rest : List Expr} {type : Ty}
    (shares : literal.Shares (first :: rest)) (ran : checkExpr literal state = .ok type after) :
    ∃ expected, state.type? first = some expected ∧ state.Conform expected (first :: rest) := by
  generalize equal : first :: rest = parts at shares
  cases shares with
  | elements elements =>
      subst equal
      rw [checkExpr] at ran
      rcases ok_of_bind_eq_ok ran with ⟨_, _, ran, _⟩
      rcases ok_of_bind_eq_ok ran with ⟨element, _, ranElements, _⟩
      exact ⟨element, conform_of_checkElements ranElements⟩
  | members elements =>
      subst equal
      rw [checkExpr] at ran
      rcases ok_of_bind_eq_ok ran with ⟨_, _, ran, _⟩
      rcases ok_of_bind_eq_ok ran with ⟨element, _, ranElements, _⟩
      exact ⟨element, conform_of_checkElements ranElements⟩
  | keys pairs =>
      rcases pairs with _ | ⟨⟨key, value⟩, others⟩
      · contradiction
      · rcases List.cons.inj equal with ⟨rfl, rfl⟩
        rw [checkExpr] at ran
        rcases ok_of_bind_eq_ok ran with ⟨_, _, ranMap, _⟩
        rcases conform_of_checkMap ranMap with ⟨keyType, _, typed, _, conform, _⟩
        exact ⟨keyType, typed, conform⟩
  | values pairs =>
      rcases pairs with _ | ⟨⟨key, value⟩, others⟩
      · contradiction
      · rcases List.cons.inj equal with ⟨rfl, rfl⟩
        rw [checkExpr] at ran
        rcases ok_of_bind_eq_ok ran with ⟨_, _, ranMap, _⟩
        rcases conform_of_checkMap ranMap with ⟨_, valueType, _, typed, _, conform⟩
        exact ⟨valueType, typed, conform⟩

end Parts

/-- The parts of an accepted literal that have to share a type agree with the first one, and with
each other where the type of the first one has no holes. -/
theorem literal_parts_agree {literal first : Expr} {rest : List Expr} {state after : CheckState}
    {type : Ty} (shares : literal.Shares (first :: rest))
    (ran : checkExpr literal state = .ok type after) :
    ∃ expected, state.type? first = some expected ∧
      (∀ part ∈ first :: rest, ∃ found, state.type? part = some found ∧
        found.agrees expected = true) ∧
      (expected.isFilled = true → ∀ one ∈ first :: rest, ∀ other ∈ first :: rest,
        ∃ found foundToo, state.type? one = some found ∧ state.type? other = some foundToo ∧
          found.agrees foundToo = true) := by
  rcases shares.conform ran with ⟨expected, typed, conform⟩
  refine ⟨expected, typed, conform, fun filled one among other amongToo => ?_⟩
  rcases conform one among with ⟨found, typedOne, _⟩
  rcases conform other amongToo with ⟨foundToo, typedOther, _⟩
  exact ⟨found, foundToo, typedOne, typedOther,
    conform.agree filled among amongToo typedOne typedOther⟩

/-- An empty array behind an array of integers makes no difference. -/
theorem numbersBesideEmpty_agree :
    (Expr.array [.array [.integer 1], .array []]).Shares [.array [.integer 1], .array []] ∧
      (∃ type after, checkExpr (.array [.array [.integer 1], .array []]) CheckState.initial =
        .ok type after) ∧
      ∃ expected, CheckState.initial.type? (.array [.integer 1]) = some expected ∧
        (∀ part ∈ [Expr.array [.integer 1], .array []], ∃ found,
          CheckState.initial.type? part = some found ∧ found.agrees expected = true) ∧
        (expected.isFilled = true → ∀ one ∈ [Expr.array [.integer 1], .array []],
          ∀ other ∈ [Expr.array [.integer 1], .array []], ∃ found foundToo,
            CheckState.initial.type? one = some found ∧
              CheckState.initial.type? other = some foundToo ∧
              found.agrees foundToo = true) :=
  ⟨.elements _, ⟨_, _, rfl⟩,
    literal_parts_agree (.elements [.array [.integer 1], .array []]) rfl⟩

/-- Where the first element is empty, an array of integers and an array of texts are accepted in one
literal, though they do not agree and the literal is refused with the first two elements
exchanged. -/
theorem emptyBeforeMixed_disagree :
    (∃ after, checkExpr (.array [.array [], .array [.integer 1], .array [.string "a"]])
      CheckState.initial = .ok (.array (.array .void)) after) ∧
      CheckState.initial.type? (.array [.integer 1]) = some (.array .int) ∧
      CheckState.initial.type? (.array [.string "a"]) = some (.array .str) ∧
      (Ty.array .int).agrees (.array .str) = false ∧
      CheckState.initial.type?
        (.array [.array [.integer 1], .array [], .array [.string "a"]]) = none :=
  ⟨⟨_, rfl⟩, rfl, rfl, rfl, rfl⟩

end ScriptCheck
