import ScriptCheck.Proofs.Token.Tiling

/-!
# Places of a text

The scanner stands at its place in the text throughout its run, so every position that it gives
away, in a token or in a diagnostic, belongs to some text with which the source starts.
-/

namespace ScriptCheck

open Position (behind)

variable {source file : String} {tokens : List Token}

/-- A position that is counted from some text with which the source starts. -/
def Position.PointsInto (position : Position) (file : String) (text : List Char) : Prop :=
  ∃ before after, text = before ++ after ∧ position = behind file before

/-- A position in a text whose bytes 32 bits count, and one more, has the numbers that are counted
from the text in front of it. -/
theorem Position.PointsInto.counts {position : Position} {text : List Char}
    (points : position.PointsInto file text)
    (short : (String.ofList text).utf8ByteSize + 1 < UInt32.size) :
    ∃ before after, text = before ++ after ∧ position.Counts before := by
  rcases points with ⟨before, after, rfl, rfl⟩
  have sum := utf8ByteSize_append before after
  exact ⟨before, after, rfl, counts_behind file (by omega)⟩

/-- A cursor stands at its place in a text, in front of the rest of it. -/
def Cursor.PlacedIn (cursor : Cursor) (file : String) (text : List Char) : Prop :=
  ∃ before, text = before ++ cursor.rest ∧ cursor.position = behind file before

namespace Cursor

variable {text : List Char} {cursor after : Cursor}

theorem PlacedIn.pointsInto (placed : cursor.PlacedIn file text) :
    cursor.position.PointsInto file text := by
  rcases placed with ⟨before, whole, same⟩
  exact ⟨before, cursor.rest, whole, same⟩

theorem PlacedIn.advance (placed : cursor.PlacedIn file text) (count : Nat) :
    (cursor.advance count).PlacedIn file text := by
  rcases placed with ⟨before, whole, same⟩
  refine ⟨before ++ cursor.rest.take count, ?_, ?_⟩
  · rw [Cursor.advance, List.append_assoc, List.take_append_drop, whole]
  · rw [Cursor.advance, same, Position.advance_behind]

theorem PlacedIn.round (placed : cursor.PlacedIn file text) {emitted : List Token}
    (passed : cursor.round = .passed emitted after) : after.PlacedIn file text := by
  unfold Cursor.round at passed
  split at passed
  · split at passed <;> contradiction
  · split at passed <;> cases passed
    · exact placed.advance _
    · exact placed.advance _

/-- A round that fails reports the place where the scanner stands. -/
theorem position_of_round {diagnostic : Diagnostic}
    (failed : cursor.round = .finished (.error diagnostic)) :
    diagnostic.position = cursor.position := by
  unfold Cursor.round at failed
  split at failed
  · split at failed <;> cases failed
    rfl
  · split at failed <;> cases failed
    rfl

end Cursor

theorem pointsInto_of_tokensWithin {text : List Char} {rounds : Nat} {cursor : Cursor}
    {diagnostic : Diagnostic} (placed : cursor.PlacedIn file text)
    (failed : tokensWithin rounds cursor = some (.error diagnostic)) :
    diagnostic.position.PointsInto file text := by
  induction rounds generalizing cursor with
  | zero =>
      rw [tokensWithin] at failed
      cases went : cursor.round with
      | passed emitted after => simp [went] at failed
      | finished result =>
          simp only [went, Option.some.injEq] at failed
          rw [Cursor.position_of_round (failed ▸ went)]
          exact placed.pointsInto
  | succ rounds ih =>
      rw [tokensWithin] at failed
      cases went : cursor.round with
      | finished result =>
          simp only [went, Option.some.injEq] at failed
          rw [Cursor.position_of_round (failed ▸ went)]
          exact placed.pointsInto
      | passed emitted after =>
          simp only [went, Option.map_eq_some_iff] at failed
          rcases failed with ⟨result, failedRest, joined⟩
          cases result with
          | ok others => contradiction
          | error other =>
              cases joined
              exact ih (placed.round went) failedRest

/-- As many rounds as the source has characters are enough. -/
theorem tokensWithin_ofText (source file : String) :
    tokensWithin source.length (Cursor.ofText source file) = some (tokenize source file) :=
  tokensWithin_eq (Nat.le_of_eq String.length_toList)

theorem pointsInto_of_tokenize {diagnostic : Diagnostic}
    (failed : tokenize source file = .error diagnostic) :
    diagnostic.position.PointsInto file source.toList := by
  have reached := tokensWithin_ofText source file
  rw [failed] at reached
  exact pointsInto_of_tokensWithin ⟨[], rfl, rfl⟩ reached

theorem tiles_of_tokenize (found : tokenize source file = .ok tokens) :
    Tiles file [] source.toList tokens := by
  have reached := tokensWithin_ofText source file
  rw [found] at reached
  exact Tiles.of_tokensWithin rfl reached

theorem pointsInto_of_mem (found : tokenize source file = .ok tokens) {token : Token}
    (member : token ∈ tokens) :
    token.start.PointsInto file source.toList ∧ token.stop.PointsInto file source.toList := by
  rcases (tiles_of_tokenize found).covers with ⟨others, rfl, placed⟩
  rcases List.mem_append.mp member with among | last
  · rcases placed token among with ⟨before, lexeme, after, whole, covers⟩
    exact ⟨⟨before, lexeme ++ after, whole, covers.start_eq⟩,
      ⟨before ++ lexeme, after, by rwa [List.append_assoc], covers.stop_eq⟩⟩
  · cases List.mem_singleton.mp last
    have ended : (behind file source.toList).PointsInto file source.toList :=
      ⟨source.toList, [], (List.append_nil _).symm, rfl⟩
    exact ⟨ended, ended⟩

end ScriptCheck
