import ScriptCheck.Position
import ScriptCheck.Text.Quoted

/-!
# Tokens

A token is a kind, a value and the two positions between which it was written. The value is the
written text, except for a string literal, whose value is the text that the literal denotes.
-/

namespace ScriptCheck

/-- The kinds of tokens. Reserved words and operators have a kind each. -/
inductive Kind where
  | eof
  | integerLiteral
  | floatLiteral
  | stringLiteral
  | booleanLiteral
  | nullLiteral
  | identifier
  | openBracket
  | closeBracket
  | openCurly
  | closeCurly
  | openParen
  | closeParen
  | assignment
  | equals
  | not
  | notEquals
  | less
  | lessEquals
  | greater
  | greaterEquals
  | or
  | and
  | dot
  | semicolon
  | colon
  | comma
  | arrow
  | returnArrow
  | plusPlus
  | minusMinus
  | plusEquals
  | minusEquals
  | slashEquals
  | starEquals
  | plus
  | dash
  | slash
  | star
  | returnWord
  | ifWord
  | elseWord
  | whileWord
  | rangeWord
  | eachWord
  | funcWord
  | echoWord
  | inWord
  | toWord
  | byWord
  | haltWord
  | skipWord
  | intWord
  | floatWord
  | boolWord
  | strWord
  | inferWord
  | voidWord
  | templateWord
  | entityWord
  deriving DecidableEq, Repr, Inhabited

namespace Kind

/-- The name under which a kind appears in token listings and diagnostics. -/
def name : Kind → String
  | eof => "EOF"
  | integerLiteral => "IntegerLiteral"
  | floatLiteral => "FloatLiteral"
  | stringLiteral => "StringLiteral"
  | booleanLiteral => "BooleanLiteral"
  | nullLiteral => "NullLiteral"
  | identifier => "Identifier"
  | openBracket => "OpenBracket"
  | closeBracket => "CloseBracket"
  | openCurly => "OpenCurly"
  | closeCurly => "CloseCurly"
  | openParen => "OpenParen"
  | closeParen => "CloseParen"
  | assignment => "Assignment"
  | equals => "Equals"
  | not => "Not"
  | notEquals => "NotEquals"
  | less => "Less"
  | lessEquals => "LessEquals"
  | greater => "Greater"
  | greaterEquals => "GreaterEquals"
  | or => "Or"
  | and => "And"
  | dot => "Dot"
  | semicolon => "Semicolon"
  | colon => "Colon"
  | comma => "Comma"
  | arrow => "Arrow"
  | returnArrow => "ReturnArrow"
  | plusPlus => "PlusPlus"
  | minusMinus => "MinusMinus"
  | plusEquals => "PlusEquals"
  | minusEquals => "MinusEquals"
  | slashEquals => "SlashEquals"
  | starEquals => "StarEquals"
  | plus => "Plus"
  | dash => "Dash"
  | slash => "Slash"
  | star => "Star"
  | returnWord => "Return"
  | ifWord => "If"
  | elseWord => "Else"
  | whileWord => "While"
  | rangeWord => "Range"
  | eachWord => "Each"
  | funcWord => "Func"
  | echoWord => "Echo"
  | inWord => "In"
  | toWord => "To"
  | byWord => "By"
  | haltWord => "Halt"
  | skipWord => "Skip"
  | intWord => "Int"
  | floatWord => "Float"
  | boolWord => "Bool"
  | strWord => "Str"
  | inferWord => "Infer"
  | voidWord => "Void"
  | templateWord => "Template"
  | entityWord => "Entity"

def all : List Kind :=
  [eof, integerLiteral, floatLiteral, stringLiteral, booleanLiteral, nullLiteral, identifier,
   openBracket, closeBracket, openCurly, closeCurly, openParen, closeParen,
   assignment, equals, not, notEquals, less, lessEquals, greater, greaterEquals, or, and,
   dot, semicolon, colon, comma, arrow, returnArrow,
   plusPlus, minusMinus, plusEquals, minusEquals, slashEquals, starEquals,
   plus, dash, slash, star,
   returnWord, ifWord, elseWord, whileWord, rangeWord, eachWord, funcWord, echoWord,
   inWord, toWord, byWord, haltWord, skipWord,
   intWord, floatWord, boolWord, strWord, inferWord, voidWord, templateWord, entityWord]

def ofName? (name : String) : Option Kind :=
  all.find? (·.name == name)

def reservedWords : List (String × Kind) :=
  [("return", returnWord), ("if", ifWord), ("else", elseWord), ("while", whileWord),
   ("range", rangeWord), ("each", eachWord), ("func", funcWord), ("echo", echoWord),
   ("in", inWord), ("to", toWord), ("by", byWord), ("halt", haltWord), ("skip", skipWord),
   ("int", intWord), ("float", floatWord), ("bool", boolWord), ("str", strWord),
   ("infer", inferWord), ("void", voidWord), ("template", templateWord), ("entity", entityWord),
   ("true", booleanLiteral), ("false", booleanLiteral), ("null", nullLiteral)]

/-- The kind of a word: its own kind when it is reserved, and an identifier otherwise. -/
def ofWord (word : String) : Kind :=
  (reservedWords.lookup word).getD identifier

/-- Whether a kind is a keyword that starts the type of a variable. -/
def isPrimitiveType : Kind → Bool
  | intWord | floatWord | boolWord | strWord | inferWord => true
  | _ => false

/-- Whether the tokens of a kind are told apart by their values. -/
def hasOwnValue : Kind → Bool
  | stringLiteral | identifier | integerLiteral | floatLiteral | booleanLiteral => true
  | _ => false

end Kind

/-- A token with the positions before its first and after its last character. -/
structure Token where
  kind : Kind
  value : String
  start : Position
  stop : Position
  deriving DecidableEq, Repr, Inhabited

namespace Token

/-- The token that ends a token list, at the end of the text. -/
def eofAt (position : Position) : Token :=
  { kind := .eof, value := "EOF", start := position, stop := position }

/-- Line, column and kind of a token, and its value where the kind leaves it open. -/
def display (token : Token) : String :=
  let place := toString token.start.line ++ ":" ++ toString token.start.column
  let text := place ++ " " ++ token.kind.name
  if token.kind.hasOwnValue then text ++ " (" ++ Text.quoted token.value ++ ")" else text

end Token

end ScriptCheck
