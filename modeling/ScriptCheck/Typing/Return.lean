import ScriptCheck.Program

/-!
# The first return statement

The return statement that comes first in the source of a function body. Functions that are declared
in the body have return statements of their own, which do not count.
-/

namespace ScriptCheck

mutual

/-- What the first return statement in a statement returns. -/
def Stmt.firstReturn? : Stmt → Option (Option Expr)
  | .returning _ value => some value
  | .block content => content.firstReturn?
  | .ifElse _ _ thenBlock elseBlock =>
    thenBlock.firstReturn?.or (firstReturnElse? elseBlock)
  | .whileLoop _ _ body => body.firstReturn?
  | .range _ _ _ _ _ body => body.firstReturn?
  | .each _ _ _ body => body.firstReturn?
  | .varDecl .. | .expression .. | .halt _ | .skip _ | .fnDecl _ | .echo .. | .templateDecl .. =>
    none
  termination_by structural stmt => stmt

/-- What the first return statement in a block returns. -/
def Block.firstReturn? : Block → Option (Option Expr)
  | ⟨_, body⟩ => firstReturnIn? body
  termination_by structural block => block

/-- What the first return statement in a block behind `else` returns. -/
def firstReturnElse? : Option Block → Option (Option Expr)
  | none => none
  | some block => block.firstReturn?
  termination_by structural block => block

/-- What the first return statement in a list of statements returns. -/
def firstReturnIn? : List Stmt → Option (Option Expr)
  | [] => none
  | stmt :: rest => stmt.firstReturn?.or (firstReturnIn? rest)
  termination_by structural body => body

end

end ScriptCheck
