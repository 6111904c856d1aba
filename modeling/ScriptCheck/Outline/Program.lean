import ScriptCheck.Number.Shortest
import ScriptCheck.Outline
import ScriptCheck.Program
import ScriptCheck.Text.Quoted

/-!
# Outlines of programs

The outline of a syntax tree. It shows every part of a program: expressions, types, statements and
positions, each under the name of its form.
-/

namespace ScriptCheck.Outline

def ofText (text : String) : Outline :=
  .atom (Text.quoted text)

/-- A number of a declaration or of a position. -/
def ofNat (number : Nat) : Outline :=
  .atom (toString number)

def form (name : String) (content : Outline) : Outline :=
  .tuple name [content]

def pair (first second : Outline) : Outline :=
  .tuple "" [first, second]

def ofOption : Option Outline → Outline
  | none => .atom "None"
  | some outline => form "Some" outline

def ofPosition (position : Position) : Outline :=
  .record "Position"
    [("offset", ofNat position.offset), ("line", ofNat position.line),
     ("column", ofNat position.column), ("file", ofText position.file)]

def primitiveName : Primitive → String
  | .int => "Int"
  | .float => "Float"
  | .bool => "Bool"
  | .str => "Str"
  | .null => "Null"
  | .void => "Void"
  | .infer => "Infer"

def binaryName : BinaryOp → String
  | .add => "Add"
  | .subtract => "Subtract"
  | .multiply => "Multiply"
  | .divide => "Divide"
  | .equal => "Equal"
  | .notEqual => "NotEqual"
  | .less => "Less"
  | .greater => "Greater"
  | .lessEqual => "LessEqual"
  | .greaterEqual => "GreaterEqual"
  | .and => "And"
  | .or => "Or"

def unaryName : UnaryOp → String
  | .increment => "Increment"
  | .decrement => "Decrement"
  | .not => "Not"
  | .negate => "Negate"

def fixityName : Fixity → String
  | .before => "Prefix"
  | .behind => "Postfix"

mutual

def ofTy : Ty → Outline
  | .primitive primitive => form "Primitive" (.atom (primitiveName primitive))
  | .array element => form "Array" (ofTy element)
  | .set element => form "Set" (ofTy element)
  | .map key value => .record "Map" [("key", ofTy key), ("value", ofTy value)]
  | .function signature => form "Function" (ofSignature signature)
  | .named name => form "TypeName" (ofText name)
  | .template template => form "Template" (ofTemplate template)
  termination_by structural type => type

def ofSignature : Signature → Outline
  | ⟨result, params⟩ =>
    .record "FunctionType" [("return_type", ofTy result), ("params", .list (ofParams params))]
  termination_by structural signature => signature

def ofTemplate : Template → Outline
  | ⟨name, attributes, methods⟩ =>
    .record "TemplateType"
      [("name", ofText name), ("attributes", .list (ofParams attributes)),
       ("methods", .list (ofMethods methods))]
  termination_by structural template => template

def ofParams : List (String × Ty) → List Outline
  | [] => []
  | (name, type) :: rest => pair (ofText name) (ofTy type) :: ofParams rest
  termination_by structural params => params

def ofMethods : List (String × Signature) → List Outline
  | [] => []
  | (name, signature) :: rest => pair (ofText name) (ofSignature signature) :: ofMethods rest
  termination_by structural methods => methods

end

mutual

def ofExpr : Expr → Outline
  | .integer value => form "Numeric" (form "Int" (.atom (toString value)))
  | .float value => form "Numeric" (form "Float" (.atom value.display))
  | .string value => form "String" (ofText value)
  | .boolean value => form "Boolean" (.atom (if value then "true" else "false"))
  | .null => .atom "Null"
  | .array elements =>
    form "Array" (.record "ArrayLiteral" [("elements", .list (ofExprs elements))])
  | .set elements => form "Set" (.record "SetLiteral" [("elements", .list (ofExprs elements))])
  | .map pairs => form "Map" (.record "MapLiteral" [("pairs", .list (ofPairs pairs))])
  | .entity template attributes =>
    form "Entity" (.record "EntityLiteral"
      [("template", ofText template), ("attributes", .list (ofAttributes attributes))])
  | .function params body =>
    form "Function" (.record "FunctionLiteral"
      [("params", .list (ofParams params)), ("body", ofBlock body)])
  | .identifier name => form "Identifier" (ofText name)
  | .unary operator fixity operand =>
    form "Unary" (.record "UnaryExpr"
      [("operator", .atom (unaryName operator)), ("operand", ofExpr operand),
       ("fixity", .atom (fixityName fixity))])
  | .binary operator left right =>
    form "Binary" (.record "BinaryExpr"
      [("left", ofExpr left), ("operator", .atom (binaryName operator)), ("right", ofExpr right)])
  | .assignment target value =>
    form "Assignment" (.record "AssignmentExpr"
      [("target", ofExpr target), ("value", ofExpr value)])
  | .index base index =>
    form "Index" (.record "IndexExpr" [("base", ofExpr base), ("index", ofExpr index)])
  | .call callee arguments =>
    form "Call" (.record "CallExpr"
      [("callee", ofExpr callee), ("arguments", .list (ofExprs arguments))])
  | .member object name =>
    form "Member" (.record "MemberExpr" [("object", ofExpr object), ("member", ofText name)])
  | .methodCall object method arguments =>
    form "MethodCall" (.record "MethodCallExpr"
      [("object", ofExpr object), ("method", ofText method),
       ("arguments", .list (ofExprs arguments))])
  termination_by structural expr => expr

def ofExprs : List Expr → List Outline
  | [] => []
  | expr :: rest => ofExpr expr :: ofExprs rest
  termination_by structural exprs => exprs

def ofPairs : List (Expr × Expr) → List Outline
  | [] => []
  | (key, value) :: rest => pair (ofExpr key) (ofExpr value) :: ofPairs rest
  termination_by structural pairs => pairs

def ofAttributes : List (String × Expr) → List Outline
  | [] => []
  | (name, value) :: rest => pair (ofText name) (ofExpr value) :: ofAttributes rest
  termination_by structural attributes => attributes

def ofOptionalExpr : Option Expr → Option Outline
  | none => none
  | some expr => some (ofExpr expr)
  termination_by structural expr => expr

def ofStmt : Stmt → Outline
  | .varDecl position id name declared initializer =>
    form "VarDecl" (.record "VarDeclStmt"
      [("id", ofNat id), ("name", ofText name), ("declared_type", ofTy declared),
       ("initializer", ofExpr initializer), ("position", ofPosition position)])
  | .expression position expression =>
    form "Expression" (.record "ExpressionStmt"
      [("expression", ofExpr expression), ("position", ofPosition position)])
  | .block content => form "Block" (ofBlock content)
  | .ifElse position condition thenBlock elseBlock =>
    form "If" (.record "IfStmt"
      [("condition", ofExpr condition), ("then_block", ofBlock thenBlock),
       ("else_block", ofOption (ofOptionalBlock elseBlock)), ("position", ofPosition position)])
  | .whileLoop position condition body =>
    form "While" (.record "WhileStmt"
      [("condition", ofExpr condition), ("body", ofBlock body), ("position", ofPosition position)])
  | .range position name first last step body =>
    form "Range" (.record "RangeStmt"
      [("variable", ofText name), ("start", ofExpr first), ("end", ofExpr last),
       ("step", ofExpr step), ("body", ofBlock body), ("position", ofPosition position)])
  | .each position name iterable body =>
    form "Each" (.record "EachStmt"
      [("variable", ofText name), ("iterable", ofExpr iterable), ("body", ofBlock body),
       ("position", ofPosition position)])
  | .halt position => form "Halt" (.record "HaltStmt" [("position", ofPosition position)])
  | .skip position => form "Skip" (.record "SkipStmt" [("position", ofPosition position)])
  | .returning position value =>
    form "Return" (.record "ReturnStmt"
      [("expression", ofOption (ofOptionalExpr value)), ("position", ofPosition position)])
  | .fnDecl declaration => form "FnDecl" (ofFnDecl declaration)
  | .echo position expression =>
    form "Echo" (.record "EchoStmt"
      [("expression", ofExpr expression), ("position", ofPosition position)])
  | .templateDecl position name attributes methods =>
    form "TemplateDecl" (.record "TemplateDeclStmt"
      [("name", ofText name), ("attributes", .list (ofParams attributes)),
       ("methods", .list (ofFnDecls methods)), ("position", ofPosition position)])
  termination_by structural stmt => stmt

def ofStmts : List Stmt → List Outline
  | [] => []
  | stmt :: rest => ofStmt stmt :: ofStmts rest
  termination_by structural body => body

def ofBlock : Block → Outline
  | ⟨position, body⟩ =>
    .record "BlockStmt" [("body", .list (ofStmts body)), ("position", ofPosition position)]
  termination_by structural block => block

def ofOptionalBlock : Option Block → Option Outline
  | none => none
  | some block => some (ofBlock block)
  termination_by structural block => block

def ofFnDecl : FnDecl → Outline
  | ⟨position, id, name, signature, body⟩ =>
    .record "FnDeclStmt"
      [("id", ofNat id), ("name", ofText name), ("function_type", ofSignature signature),
       ("body", ofBlock body), ("position", ofPosition position)]
  termination_by structural declaration => declaration

def ofFnDecls : List FnDecl → List Outline
  | [] => []
  | declaration :: rest => ofFnDecl declaration :: ofFnDecls rest
  termination_by structural declarations => declarations

end

def ofProgram (program : Program) : Outline :=
  .record "Program" [("body", .list (ofStmts program.body))]

end ScriptCheck.Outline
