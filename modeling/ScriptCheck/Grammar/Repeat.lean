import ScriptCheck.Grammar.Parser

/-!
# Repetition

Loops of parsers. The kind of the current token decides whether a loop goes on. Every round of a
loop of the grammar passes at least one token or fails, so one round more than there are tokens is
never needed, and the number of tokens bounds the loop.
-/

namespace ScriptCheck.Parser

variable {α : Type}

/-- At most `rounds` rounds of a loop that carries a value. -/
def repeatUpTo (again : Kind → Bool) (step : α → Parser α) : Nat → α → Parser α
  | 0, value => pure value
  | rounds + 1, value => do
    if again (← kind) then repeatUpTo again step rounds (← step value) else pure value

/-- Carries a value through steps for as long as the current token asks for another one. -/
def repeatWhile (again : Kind → Bool) (step : α → Parser α) (value : α) : Parser α := do
  repeatUpTo again step ((← get).remaining + 1) value

def collectUpTo (again : Kind → Bool) (item : Parser α) : Nat → Parser (List α)
  | 0 => pure []
  | rounds + 1 => do
    if again (← kind) then
      let first ← item
      let rest ← collectUpTo again item rounds
      return first :: rest
    else pure []

/-- Items for as long as the current token asks for another one. -/
def collectWhile (again : Kind → Bool) (item : Parser α) : Parser (List α) := do
  collectUpTo again item ((← get).remaining + 1)

/-- More items, each with a comma in front of it. -/
def moreItems (item : Parser α) : Parser (List α) :=
  collectWhile (· = .comma) (advance *> item)

/-- Items with commas between them, up to a closing token that is left alone. -/
def itemsUntil (close : Kind) (item : Parser α) : Parser (List α) := do
  if (← kind) = close then
    return []
  else
    let first ← item
    return first :: (← moreItems item)

end ScriptCheck.Parser
