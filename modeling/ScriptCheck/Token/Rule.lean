import ScriptCheck.Diagnostic.LexicalFault
import ScriptCheck.Text.Blank
import ScriptCheck.Token
import ScriptCheck.Token.Escape

/-!
# Lexical rules

A rule takes a number of characters from the front of a text or does not apply. The rules stand in
an order, and the first one that applies wins: longer operators come before their beginnings, and
the rule for an open comment is reached only where the rule for a closed one failed.

`Rule.length?` says how many characters a rule takes, and `Rule.outcome` what becomes of them.
-/

namespace ScriptCheck

inductive Rule where
  | blanks
  | lineComment
  | blockComment
  | openComment
  | word
  | number
  | string (quote : Char)
  | openString
  | fixed (text : String) (kind : Kind)
  deriving DecidableEq, Repr

namespace Rule

def startsWord (char : Char) : Bool :=
  char.isAlpha || char == '_'

def continuesWord (char : Char) : Bool :=
  char.isAlphanum || char == '_'

def positive? (count : Nat) : Option Nat :=
  if count = 0 then none else some count

/-- The number of leading characters with a property, if there are any. -/
def run? (property : Char → Bool) (text : List Char) : Option Nat :=
  positive? (text.takeWhile property).length

/-- The number of characters up to the end of a block comment, its mark included. -/
def commentLength? : List Char → Option Nat
  | [] => none
  | '*' :: '/' :: _ => some 2
  | _ :: rest => (commentLength? rest).map (· + 1)

/-- The number of characters up to the closing quote, the quote included. A backslash takes the
next character with it, whatever it is. -/
def stringLength? (quote : Char) : List Char → Option Nat
  | [] => none
  | '\\' :: [] => none
  | '\\' :: _ :: rest => (stringLength? quote rest).map (· + 2)
  | char :: rest => if char = quote then some 1 else (stringLength? quote rest).map (· + 1)

/-- The length of a point with digits behind it, and zero where there is none. -/
def fractionLength : List Char → Nat
  | '.' :: rest => (run? Char.isDigit rest).elim 0 (· + 1)
  | _ => 0

/-- The length of a numeral: digits, and a fraction where one follows. -/
def numberLength? (text : List Char) : Option Nat :=
  (run? Char.isDigit text).map fun whole => whole + fractionLength (text.drop whole)

/-- The number of characters that a rule takes from the front of a text. -/
def length? (rule : Rule) (text : List Char) : Option Nat :=
  match rule, text with
  | blanks, _ => run? Text.isBlank text
  | lineComment, '/' :: '/' :: rest => some ((rest.takeWhile (· ≠ '\n')).length + 2)
  | blockComment, '/' :: '*' :: rest => (commentLength? rest).map (· + 2)
  | openComment, '/' :: '*' :: _ => some 2
  | word, char :: rest =>
    if startsWord char then some ((rest.takeWhile continuesWord).length + 1) else none
  | number, _ => numberLength? text
  | string quote, char :: rest =>
    if char = quote then (stringLength? quote rest).map (· + 1) else none
  | openString, char :: _ => if char = '"' || char = '\'' then some 1 else none
  | fixed lexeme _, _ =>
    if lexeme.toList.isPrefixOf text then positive? lexeme.toList.length else none
  | _, _ => none

/-- What becomes of the characters that a rule takes. -/
inductive Outcome where
  | skip
  | token (kind : Kind) (value : String)
  | fault (fault : LexicalFault)
  deriving DecidableEq, Repr

/-- The outcome of a rule for the characters that it takes. -/
def outcome (rule : Rule) (lexeme : List Char) : Outcome :=
  match rule with
  | blanks | lineComment | blockComment => .skip
  | openComment => .fault .unterminatedComment
  | word => .token (Kind.ofWord (String.ofList lexeme)) (String.ofList lexeme)
  | number =>
    .token (if lexeme.contains '.' then .floatLiteral else .integerLiteral)
      (String.ofList lexeme)
  | string _ =>
    .token .stringLiteral (String.ofList (Escape.decode (lexeme.drop 1).dropLast))
  | openString => .fault .unterminatedString
  | fixed text kind => .token kind text

/-- The rules in the order in which they are tried. -/
def all : List Rule :=
  [blanks, lineComment, blockComment, openComment, word, number,
   string '"', string '\'', openString,
   fixed ">>" .arrow, fixed "->" .returnArrow,
   fixed "==" .equals, fixed "!=" .notEquals, fixed "<=" .lessEquals, fixed ">=" .greaterEquals,
   fixed "&&" .and, fixed "||" .or,
   fixed "++" .plusPlus, fixed "--" .minusMinus,
   fixed "+=" .plusEquals, fixed "-=" .minusEquals, fixed "*=" .starEquals,
   fixed "/=" .slashEquals,
   fixed "[" .openBracket, fixed "]" .closeBracket,
   fixed "\x7b" .openCurly, fixed "\x7d" .closeCurly,
   fixed "(" .openParen, fixed ")" .closeParen,
   fixed "." .dot, fixed "," .comma, fixed ";" .semicolon, fixed ":" .colon,
   fixed "=" .assignment, fixed "!" .not, fixed "<" .less, fixed ">" .greater,
   fixed "+" .plus, fixed "-" .dash, fixed "*" .star, fixed "/" .slash]

/-- The first rule that applies to a text, with the number of characters that it takes. -/
def first? (text : List Char) : Option (Rule × Nat) :=
  all.findSome? fun rule => (rule.length? text).map fun count => (rule, count)

theorem first?_nil : first? [] = none := by decide

theorem pos_of_positive? {count taken : Nat} (found : positive? count = some taken) :
    0 < taken := by
  unfold positive? at found
  split at found <;> simp_all
  omega

theorem pos_of_run? {property : Char → Bool} {text : List Char} {count : Nat}
    (found : run? property text = some count) : 0 < count :=
  pos_of_positive? found

theorem pos_of_length? {rule : Rule} {text : List Char} {count : Nat}
    (found : rule.length? text = some count) : 0 < count := by
  unfold length? at found
  split at found
  · exact pos_of_run? found
  · simp at found; omega
  · simp at found; omega
  · simp at found; omega
  · split at found <;> simp at found; omega
  · simp only [numberLength?, Option.map_eq_some_iff] at found
    obtain ⟨whole, foundWhole, rfl⟩ := found
    have := pos_of_run? foundWhole
    omega
  · split at found
    · simp at found; omega
    · simp at found
  · split at found <;> simp at found; omega
  · split at found
    · exact pos_of_positive? found
    · simp at found
  · simp at found

theorem pos_of_first? {text : List Char} {rule : Rule} {count : Nat}
    (found : first? text = some (rule, count)) : 0 < count := by
  obtain ⟨candidate, -, applies⟩ := List.exists_of_findSome?_eq_some found
  simp only [Option.map_eq_some_iff, Prod.mk.injEq] at applies
  obtain ⟨taken, taken_eq, -, rfl⟩ := applies
  exact pos_of_length? taken_eq

end Rule

end ScriptCheck
