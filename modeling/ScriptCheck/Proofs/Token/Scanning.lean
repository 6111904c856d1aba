import ScriptCheck.Proofs.Token.Separation

/-!
# Runs of the scanner

A run takes the text rule by rule: what one rule skips, makes of its characters or finds fault
with is an equation for the whole run. `Scans` are the runs that succeed, to be followed by
induction. Blanks may be taken one at a time, though the scanner takes all of them at once.
-/

namespace ScriptCheck

section Runs

variable {cursor : Cursor} {rule : Rule} {count : Nat} {tokens : List Token}

theorem tokensFrom_of_skip (found : Rule.first? cursor.rest = some (rule, count))
    (skips : rule.outcome (cursor.rest.take count) = .skip) :
    tokensFrom cursor = tokensFrom (cursor.advance count) := by
  rw [tokensFrom_eq, Cursor.round, found]
  simp only [skips]
  cases tokensFrom (cursor.advance count) <;> rfl

theorem tokensFrom_of_token {kind : Kind} {value : String}
    (found : Rule.first? cursor.rest = some (rule, count))
    (makes : rule.outcome (cursor.rest.take count) = .token kind value) :
    tokensFrom cursor = (tokensFrom (cursor.advance count)).map
      ({ kind, value, start := cursor.position
         stop := (cursor.advance count).position } :: ·) := by
  rw [tokensFrom_eq, Cursor.round, found]
  simp only [makes]
  rfl

theorem tokensFrom_of_fault {fault : LexicalFault}
    (found : Rule.first? cursor.rest = some (rule, count))
    (fails : rule.outcome (cursor.rest.take count) = .fault fault) :
    tokensFrom cursor = .error { cause := .lexical fault, position := cursor.position } := by
  rw [tokensFrom_eq, Cursor.round, found]
  simp only [fails]

theorem tokensFrom_of_nil (ended : cursor.rest = []) :
    tokensFrom cursor = .ok [Token.eofAt cursor.position] := by
  rw [tokensFrom_eq, Cursor.round, ended, Rule.first?_nil]

/-- The tokens that the scanner finds from a cursor on, rule by rule. -/
inductive Scans : Cursor → List Token → Prop
  | ended {cursor : Cursor} : cursor.rest = [] → Scans cursor [Token.eofAt cursor.position]
  | skip {cursor : Cursor} {rule : Rule} {count : Nat} {tokens : List Token} :
      Rule.first? cursor.rest = some (rule, count) →
      rule.outcome (cursor.rest.take count) = .skip → Scans (cursor.advance count) tokens →
      Scans cursor tokens
  | token {cursor : Cursor} {rule : Rule} {count : Nat} {kind : Kind} {value : String}
      {tokens : List Token} :
      Rule.first? cursor.rest = some (rule, count) →
      rule.outcome (cursor.rest.take count) = .token kind value →
      Scans (cursor.advance count) tokens →
      Scans cursor ({ kind, value, start := cursor.position
                      stop := (cursor.advance count).position } :: tokens)

theorem scans_of_tokensFrom (cursor : Cursor) :
    ∀ tokens, tokensFrom cursor = .ok tokens → Scans cursor tokens := by
  induction cursor using tokensFrom.induct with
  | case1 cursor found none =>
      intro tokens read
      rw [tokensFrom_of_nil none] at read
      cases read
      exact .ended none
  | case2 cursor found char rest remaining =>
      intro tokens read
      rw [tokensFrom_eq, Cursor.round, found, remaining] at read
      contradiction
  | case3 cursor rule count found after skips =>
      rename_i ih
      intro tokens read
      rw [tokensFrom_of_skip found skips] at read
      exact .skip found skips (ih tokens read)
  | case4 cursor rule count found after kind value makes =>
      rename_i ih
      intro tokens read
      rw [tokensFrom_of_token found makes] at read
      cases ran : tokensFrom (cursor.advance count) with
      | error diagnostic =>
          rw [ran] at read
          contradiction
      | ok others =>
          rw [ran] at read
          cases read
          exact .token found makes (ih others ran)
  | case5 cursor rule count found fault fails =>
      intro tokens read
      rw [tokensFrom_of_fault found fails] at read
      contradiction

/-- The scanner reports faults of its own only. -/
theorem lexical_of_tokensFrom (cursor : Cursor) :
    ∀ diagnostic, tokensFrom cursor = .error diagnostic →
      ∃ fault, diagnostic.cause = .lexical fault := by
  induction cursor using tokensFrom.induct with
  | case1 cursor found none =>
      intro diagnostic failed
      rw [tokensFrom_of_nil none] at failed
      contradiction
  | case2 cursor found char rest remaining =>
      intro diagnostic failed
      rw [tokensFrom_eq, Cursor.round, found, remaining] at failed
      cases failed
      exact ⟨_, rfl⟩
  | case3 cursor rule count found after skips =>
      rename_i ih
      intro diagnostic failed
      rw [tokensFrom_of_skip found skips] at failed
      exact ih diagnostic failed
  | case4 cursor rule count found after kind value makes =>
      rename_i ih
      intro diagnostic failed
      rw [tokensFrom_of_token found makes] at failed
      cases ran : tokensFrom (cursor.advance count) with
      | error other =>
          rw [ran] at failed
          cases failed
          exact ih diagnostic ran
      | ok others =>
          rw [ran] at failed
          contradiction
  | case5 cursor rule count found fault fails =>
      intro diagnostic failed
      rw [tokensFrom_of_fault found fails] at failed
      cases failed
      exact ⟨fault, rfl⟩

/-- A blank is skipped, alone as well as together with those behind it. -/
theorem tokensFrom_blank {char : Char} (blank : Text.isBlank char = true) (text : List Char)
    (position : Position) :
    tokensFrom { rest := char :: text, position } =
      tokensFrom { rest := text, position := position.next char } := by
  have skip (char : Char) (text : List Char) (position : Position)
      (blank : Text.isBlank char = true) :
      tokensFrom { rest := char :: text, position } =
        tokensFrom { rest := text.dropWhile Text.isBlank
                     position := (position.next char).advance (text.takeWhile Text.isBlank) } := by
    have applies : Rule.blanks.length? (char :: text) =
        some ((text.takeWhile Text.isBlank).length + 1) := by
      rw [Rule.length?, Rule.run?_cons, if_pos blank]
    have found : Rule.first? (char :: text) = some (.blanks, _) :=
      Rule.first?_of_general (by simp [Rule.general, Rule.all]) (by simp) applies
    rw [tokensFrom_of_skip found rfl]
    have taken := List.prefix_iff_eq_take.mp (List.takeWhile_prefix (l := text) Text.isBlank)
    have left : text.drop (text.takeWhile Text.isBlank).length = text.dropWhile Text.isBlank := by
      have whole := text.takeWhile_append_dropWhile (p := Text.isBlank)
      generalize text.takeWhile Text.isBlank = front at *
      generalize text.dropWhile Text.isBlank = behind at *
      rw [← whole, List.drop_left]
    rw [Cursor.advance, List.drop_succ_cons, List.take_succ_cons, Position.advance_cons, ← taken,
      left]
  rw [skip char text position blank]
  cases text with
  | nil => rfl
  | cons next text =>
      by_cases goesOn : Text.isBlank next = true
      · rw [skip next text _ goesOn]
        simp [goesOn]
      · simp [goesOn]

/-- The tokens of a list without those that mark an end. -/
def withoutEnd (tokens : List Token) : List Token :=
  tokens.filter (·.kind ≠ .eof)

/-- What a rule makes is no end. -/
theorem withoutEnd_cons {kind : Kind} {value : String} {text : List Char}
    (found : Rule.first? text = some (rule, count))
    (makes : rule.outcome (text.take count) = .token kind value) (start stop : Position)
    (tokens : List Token) :
    withoutEnd ({ kind, value, start, stop } :: tokens) =
      { kind, value, start, stop } :: withoutEnd tokens := by
  obtain ⟨known, applies⟩ := Rule.ok_of_first? found
  have unended := (Rule.spells_of_token known applies makes start stop).1
  simp [withoutEnd, unended]

end Runs

end ScriptCheck
