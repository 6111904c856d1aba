import ScriptCheck.Grammar.StmtForm

/-!
# Parsing

The parsers for whole expressions, blocks, statements and programs. They tie the knot between the
forms and what stands inside of them: the forms are nested as deep as there are tokens. This is deep
enough, since a form of expression passes a token before it reads an expression inside, and a block
passes its bracket before it reads a statement.
-/

namespace ScriptCheck.Parser

/-- The parsers for what is nested at most `depth` forms deep. -/
def nested : Nat → Inside
  | 0 => { expr := fun _ => unexpected, stmt := unexpected }
  | depth + 1 =>
    { expr := fun power state => exprForm (nested depth) power state
      stmt := fun state => stmtForm (nested depth) state }

/-- Runs a form with the parsers for what stands inside of it. -/
def withInside {α : Type} (form : Inside → Parser α) : Parser α := do
  form (nested (← get).remaining)

/-- An expression with everything behind it that binds tighter than a power. -/
def parseExpr (power : Power) : Parser Expr :=
  withInside fun inside => exprForm inside power

def parseStmt : Parser Stmt :=
  withInside stmtForm

def parseBlock : Parser Block :=
  withInside block

def parseProgram : Parser Program :=
  return { body := ← collectWhile (· != .eof) parseStmt }

/-- Reads a list of tokens as a program. The state of the parser tells where it stopped. -/
def parse (tokens : List Token) (file : String) :
    EStateM.Result Diagnostic ParserState Program :=
  parseProgram.run (ParserState.ofTokens tokens file)

end ScriptCheck.Parser
