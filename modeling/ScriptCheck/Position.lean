/-!
# Positions in a source text

A position carries a byte offset into the UTF-8 form of the text, a line and a column counted in
characters, both from one, and the name of the file. `Position.advance` moves a position over a
stretch of text. It is the only place where offset, line and column are computed, so the three
always describe the same place.

The three numbers are stored in 32 bits, and what is counted further starts over at zero.
-/

namespace ScriptCheck

instance coeOfNat : Coe Nat UInt32 := ⟨UInt32.ofNat⟩

instance coeToNat : Coe UInt32 Nat := ⟨UInt32.toNat⟩

structure Position where
  offset : UInt32
  line : UInt32
  column : UInt32
  file : String
  deriving DecidableEq, Repr, Inhabited

namespace Position

def start (file : String) : Position :=
  { offset := 0, line := 1, column := 1, file }

/-- The position of a diagnostic that belongs to no source text. -/
def unknown : Position :=
  { offset := 0, line := 0, column := 0, file := "<null>" }

/-- The position after one more character: a newline opens the next line. -/
def next (position : Position) (char : Char) : Position :=
  let offset := position.offset + UInt32.ofNat char.utf8Size
  if char = '\n' then { position with offset, line := position.line + 1, column := 1 }
  else { position with offset, column := position.column + 1 }

def advance (position : Position) (text : List Char) : Position :=
  text.foldl next position

/-- File, line and column as they are shown to a reader. -/
def display (position : Position) : String :=
  position.file ++ ":" ++ toString position.line ++ ":" ++ toString position.column

@[simp]
theorem advance_nil (position : Position) : position.advance [] = position := rfl

@[simp]
theorem advance_cons (position : Position) (char : Char) (text : List Char) :
    position.advance (char :: text) = (position.next char).advance text := rfl

end Position

end ScriptCheck
