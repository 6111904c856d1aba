import ScriptCheck.Position

/-!
# Cursors

A cursor stands in a text: it holds the text that follows and the position of its first character.
-/

namespace ScriptCheck

/-- A place in a text with the text from there to the end. -/
structure Cursor where
  rest : List Char
  position : Position
  deriving DecidableEq, Repr

namespace Cursor

def ofText (text : String) (file : String) : Cursor :=
  { rest := text.toList, position := Position.start file }

/-- The cursor after the next `count` characters, or at the end of the text. -/
def advance (cursor : Cursor) (count : Nat) : Cursor :=
  { rest := cursor.rest.drop count, position := cursor.position.advance (cursor.rest.take count) }

/-- How many leading characters fit into the given number of UTF-8 bytes. -/
def fitting : List Char → Nat → Nat
  | [], _ => 0
  | char :: text, bytes =>
    if char.utf8Size ≤ bytes then fitting text (bytes - char.utf8Size) + 1 else 0

/-- The cursor after the next `bytes` bytes of the UTF-8 form, or at the end of the text. -/
def advanceBytes (cursor : Cursor) (bytes : Nat) : Cursor :=
  cursor.advance (fitting cursor.rest bytes)

/-- The next character, and a NUL at the end of the text. -/
def current (cursor : Cursor) : Char :=
  cursor.rest.head?.getD '\x00'

/-- Whether the cursor stands at the end of the text. -/
def atEnd (cursor : Cursor) : Bool :=
  cursor.rest.isEmpty

def remainder (cursor : Cursor) : String :=
  String.ofList cursor.rest

end Cursor

end ScriptCheck
