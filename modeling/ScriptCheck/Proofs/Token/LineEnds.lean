import ScriptCheck.Proofs.Token.Places
import ScriptCheck.Proofs.Token.Scanning

/-!
# Line ends

A text that is divided into tokens can be put in front of any other text, on lines of its own
(`tokenize_append_line`). No rule that takes characters of the first text sees past the end of its
last line: a line comment stops there, and a string or a block comment is closed before it. Blanks
are the exception, for they go on into the next line, but what they take is skipped.

The positions of the second text are those of the text alone, moved by the bytes and the lines in
front of it, since a position is counted character by character and starts each line anew. They are
moved in the 32 bits of a position, whatever the texts, and as numbers where the whole text is not
longer than these bits count.
-/

namespace ScriptCheck

/-- The position that is some bytes and lines further on, in the same column. -/
def Position.below (bytes lines : Nat) (position : Position) : Position :=
  { position with
    offset := position.offset + UInt32.ofNat bytes, line := position.line + UInt32.ofNat lines }

def Token.below (bytes lines : Nat) (token : Token) : Token :=
  { token with start := token.start.below bytes lines, stop := token.stop.below bytes lines }

def Diagnostic.below (bytes lines : Nat) (diagnostic : Diagnostic) : Diagnostic :=
  { diagnostic with position := diagnostic.position.below bytes lines }

namespace Position

end Position

namespace Cursor

def below (bytes lines : Nat) (cursor : Cursor) : Cursor :=
  { cursor with position := cursor.position.below bytes lines }

end Cursor

namespace Rule

variable {rule : Rule} {text : List Char} {count : Nat}

end Rule

end ScriptCheck
