/-!
# Blank characters

The characters with the Unicode property `White_Space`, and the removal of blanks at the ends of a
text. The property has kept its members since Unicode 6.3.
-/

namespace ScriptCheck.Text

def isBlank (char : Char) : Bool :=
  let code := char.toNat
  (0x09 ≤ code && code ≤ 0x0D) || code == 0x20 || code == 0x85 || code == 0xA0 ||
    code == 0x1680 || (0x2000 ≤ code && code ≤ 0x200A) || code == 0x2028 || code == 0x2029 ||
    code == 0x202F || code == 0x205F || code == 0x3000

def trimRight (text : List Char) : List Char :=
  (text.reverse.dropWhile isBlank).reverse

def trim (text : List Char) : List Char :=
  trimRight (text.dropWhile isBlank)

end ScriptCheck.Text
