import ScriptCheck.Diagnostic
import ScriptCheck.Token.Cursor
import ScriptCheck.Token.Rule

/-!
# Token streams

`tokenize` divides a source text into tokens. At every place the first lexical rule that applies
takes its characters, and a token for the end of the text closes the list. A place where no rule
applies is a fault of its first character.
-/

namespace ScriptCheck

theorem length_rest_advance_lt {cursor : Cursor} {rule : Rule} {count : Nat}
    (found : Rule.first? cursor.rest = some (rule, count)) :
    (cursor.advance count).rest.length < cursor.rest.length := by
  have taken := Rule.pos_of_first? found
  have nonempty : cursor.rest ≠ [] := by
    intro empty
    rw [empty, Rule.first?_nil] at found
    contradiction
  have := List.length_pos_iff.mpr nonempty
  simp only [Cursor.advance, List.length_drop]
  omega

/-- The tokens from a cursor to the end of its text. -/
def tokensFrom (cursor : Cursor) : Except Diagnostic (List Token) :=
  match _found : Rule.first? cursor.rest with
  | none =>
    match cursor.rest with
    | [] => .ok [Token.eofAt cursor.position]
    | char :: _ =>
      .error { cause := .lexical (.unrecognisedToken (String.singleton char))
               position := cursor.position }
  | some (rule, count) =>
    let after := cursor.advance count
    match rule.outcome (cursor.rest.take count) with
    | .skip => tokensFrom after
    | .token kind value =>
      (tokensFrom after).map
        ({ kind, value, start := cursor.position, stop := after.position } :: ·)
    | .fault fault => .error { cause := .lexical fault, position := cursor.position }
  termination_by cursor.rest.length
  decreasing_by all_goals exact length_rest_advance_lt _found

def tokenize (source : String) (file : String) : Except Diagnostic (List Token) :=
  tokensFrom (Cursor.ofText source file)

end ScriptCheck
