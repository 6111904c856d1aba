import ScriptCheck.Diagnostic
import ScriptCheck.Token

/-!
# Parsers

A parser reads tokens from the front of a list and counts the declarations that it has numbered.
The list is closed by a token for the end of the text, which can be looked at any number of times
and is never passed. A parser that fails leaves the state where it stopped.
-/

namespace ScriptCheck

/-- The tokens that are still to be read, and the number of the next declaration. -/
structure ParserState where
  upcoming : List Token
  final : Token
  nextId : Nat
  file : String
  final_kind : final.kind = .eof

namespace ParserState

/-- The number of the first declaration. Smaller numbers are reserved. -/
def firstId : Nat := 1024

/-- The state before any token is read. A list that is not closed by an end token gets one where
its last token ends. -/
def ofTokens (tokens : List Token) (file : String) : ParserState :=
  match tokens.getLast? with
  | none =>
    { upcoming := [], final := Token.eofAt (Position.start file), nextId := firstId, file
      final_kind := rfl }
  | some last =>
    if final_kind : last.kind = .eof then
      { upcoming := tokens.dropLast, final := last, nextId := firstId, file, final_kind }
    else
      { upcoming := tokens, final := Token.eofAt last.stop, nextId := firstId, file
        final_kind := rfl }

def remaining (state : ParserState) : Nat :=
  state.upcoming.length

/-- The token that is `distance` tokens ahead, or the end token behind the list. -/
def peek (state : ParserState) (distance : Nat) : Token :=
  state.upcoming[distance]?.getD state.final

def current (state : ParserState) : Token :=
  state.upcoming.head?.getD state.final

/-- The state after the current token. The end token is never passed. -/
def tail (state : ParserState) : ParserState :=
  { state with upcoming := state.upcoming.tail }

@[simp]
theorem remaining_tail (state : ParserState) : state.tail.remaining = state.remaining - 1 := by
  simp [remaining, tail]

@[simp]
theorem final_tail (state : ParserState) : state.tail.final = state.final := rfl

theorem current_eq_peek (state : ParserState) : state.current = state.peek 0 := by
  simp [current, peek, List.head?_eq_getElem?]

theorem peek_of_remaining_le {state : ParserState} {distance : Nat}
    (behind : state.remaining ≤ distance) : state.peek distance = state.final := by
  simp only [peek, remaining] at *
  rw [List.getElem?_eq_none behind]
  rfl

end ParserState

/-- A parser for values of a type. -/
abbrev Parser := EStateM Diagnostic ParserState

namespace Parser

variable {α : Type}

def current : Parser Token :=
  return (← get).current

/-- The kind of the token that is read next. -/
def kind : Parser Kind :=
  return (← current).kind

/-- The position of the token that is read next. -/
def position : Parser Position :=
  return (← current).start

def advance : Parser Token := do
  let state ← get
  set state.tail
  return state.current

def failAt (position : Position) (fault : SyntaxFault) : Parser α :=
  throw { cause := .grammar fault, position }

/-- Fails because no form goes on with the current token. -/
def unexpected : Parser α := do
  let token ← current
  failAt token.start (.unexpectedToken token.value)

/-- Passes a token of the given kind, and fails with the given fault at any other. -/
def expectOr (expected : Kind) (fault : Token → SyntaxFault) : Parser Token := do
  let token ← current
  if token.kind = expected then advance else failAt token.start (fault token)

def expect (expected : Kind) : Parser Token :=
  expectOr expected fun token => .expectedToken expected.name token.value

def identifier : Parser String :=
  return (← expect .identifier).value

def freshId : Parser Nat := do
  let state ← get
  set { state with nextId := state.nextId + 1 }
  return state.nextId

end Parser

end ScriptCheck
