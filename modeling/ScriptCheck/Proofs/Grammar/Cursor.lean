import ScriptCheck.Proofs.Grammar.TrackedForms

/-!
# Where a parser stands

The tokens that are still to be read and the end token are what is left of the list from some index
on. A run moves this index forward and never past the end of the list, whether it succeeds or not.
Types, expressions and statements move it by a token at least.
-/

namespace ScriptCheck

/-- The list that is read: one that is not closed by an end token gets one. -/
def withEnd (tokens : List Token) (file : String) : List Token :=
  match tokens.getLast? with
  | none => [Token.eofAt (Position.start file)]
  | some last => if last.kind = .eof then tokens else tokens ++ [Token.eofAt last.stop]

namespace ParserState

/-- The state stands in front of the token at some index of a list. -/
def StandsAt (tokens : List Token) (index : Nat) (state : ParserState) : Prop :=
  tokens.drop index = state.upcoming ++ [state.final]

variable {tokens : List Token} {index : Nat} {first after : ParserState}

/-- The index is one of a token, and no further than that of the last one. -/
theorem StandsAt.lt_length (stands : first.StandsAt tokens index) : index < tokens.length := by
  have length := congrArg List.length stands
  rw [List.length_drop, List.length_append, List.length_singleton] at length
  omega

theorem StandsAt.behind (stands : first.StandsAt tokens index) (behind : after.Behind first) :
    after.StandsAt tokens (index + (first.remaining - after.remaining)) := by
  rcases behind.suffix with ⟨passed, split⟩
  have count : first.remaining - after.remaining = passed.length := by
    rw [remaining, remaining, ← split, List.length_append, Nat.add_sub_cancel]
  rw [StandsAt, ← List.drop_drop, stands, count, ← split, behind.final, List.append_assoc,
    List.drop_left]

theorem standsAt_ofTokens (tokens : List Token) (file : String) :
    (ofTokens tokens file).StandsAt (withEnd tokens file) 0 := by
  rw [StandsAt, List.drop_zero]
  cases found : tokens.getLast? with
  | none => simp only [withEnd, ofTokens, found, List.nil_append]
  | some last =>
      simp only [withEnd, ofTokens, found]
      split
      · exact (List.dropLast_append_getLast? last found).symm
      · rfl

end ParserState

namespace Parser

open ParserState (StandsAt)

variable {α : Type} {strict : Bool} {parser : Parser α}

/-- A run moves forward in the list of tokens or stays in place. A strict run that succeeds moves
forward by a token at least. -/
def Moves (strict : Bool) (parser : Parser α) : Prop :=
  ∀ tokens index state, StandsAt tokens index state →
    match parser state with
    | .ok _ after => ∃ later < tokens.length, after.StandsAt tokens later ∧
        index ≤ later ∧ (strict = true → index < later)
    | .error _ after => ∃ later < tokens.length, after.StandsAt tokens later ∧ index ≤ later

theorem moves_of_tracks (tracks : ∀ {limit}, Tracks [] limit anywhere strict parser parser) :
    Moves strict parser := by
  intro tokens index state stands
  have alike := tracks state state (.refl state) (Nat.lt_succ_self _) trivial
  cases ran : parser state with
  | ok value after =>
      rw [ran] at alike
      cases alike with
      | ok _ behind _ passed =>
          have later := stands.behind behind
          refine ⟨_, later.lt_length, later, Nat.le_add_right _ _, fun isStrict => ?_⟩
          have := passed isStrict
          omega
  | error diagnostic after =>
      rw [ran] at alike
      cases alike with
      | error _ behind =>
          have later := stands.behind behind
          exact ⟨_, later.lt_length, later, Nat.le_add_right _ _⟩

/-- At the end token the cursor stays in place. -/
theorem moves_advance : Moves false advance := by
  intro tokens index state stands
  have behind : state.tail.Behind state := ⟨List.tail_suffix _, rfl⟩
  have later := stands.behind behind
  exact ⟨_, later.lt_length, later, Nat.le_add_right _ _, nofun⟩

end Parser

end ScriptCheck
