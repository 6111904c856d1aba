import ScriptCheck.Grammar.Form
import ScriptCheck.Grammar.Repeat

/-!
# The grammar of types

Each form of type is a parser of its own. A form with types inside takes the parser for those as an
argument, and `parseType` ties the knot: it nests the forms as deep as there are tokens, and every
form passes a token before it reads a type inside.
-/

namespace ScriptCheck.Parser

def primitiveType : Parser Ty := do
  match (← kind).primitive? with
  | none => unexpected
  | some primitive =>
    let _ ← advance
    return .primitive primitive

def namedType : Parser Ty :=
  return .named (← identifier)

def resultType (inside : Parser Ty) : Parser Ty := do
  if (← kind) = .voidWord then
    let _ ← advance
    return .void
  else inside

def parameter (inside : Parser Ty) : Parser (String × Ty) := do
  let type ← inside
  let name ← identifier
  return (name, type)

def parameters (inside : Parser Ty) : Parser (List (String × Ty)) := do
  let _ ← expect .openBracket
  let params ← itemsUntil .closeBracket (parameter inside)
  let _ ← expect .closeBracket
  return params

def functionType (inside : Parser Ty) : Parser Ty := do
  let _ ← expect .funcWord
  let _ ← expect .less
  let result ← resultType inside
  let _ ← expect .comma
  let params ← parameters inside
  let _ ← expect .greater
  return .function { result, params }

def arrayType (element : Ty) : Parser Ty := do
  let _ ← expect .openBracket
  let _ ← expect .closeBracket
  return .array element

/-- The suffix of a set type, or with a key type inside the suffix of a map type. -/
def setOrMapType (inside : Parser Ty) (element : Ty) : Parser Ty := do
  let _ ← expect .openCurly
  if (← kind) = .closeCurly then
    let _ ← advance
    return .set element
  else
    let key ← inside
    let _ ← expect .closeCurly
    return .map key element

def typeStart (inside : Parser Ty) : Parser Ty := do
  match (← kind).typeStart? with
  | none => unexpected
  | some .primitive => primitiveType
  | some .named => namedType
  | some .function => functionType inside

def typeTail (inside : Parser Ty) (left : Ty) : Parser Ty := do
  match (← kind).typeTail? with
  | none => unexpected
  | some (.array, _) => arrayType left
  | some (.setOrMap, _) => setOrMapType inside left

/-- A type with all suffixes that bind tighter than a power. -/
def typeForm (inside : Parser Ty) (power : Power) : Parser Ty := do
  let left ← typeStart inside
  repeatWhile (Kind.continuesType power) (typeTail inside) left

/-- The parser for types that are nested at most `depth` forms deep. -/
def nestedType : Nat → Parser Ty
  | 0 => unexpected
  | depth + 1 => typeForm (nestedType depth) .lowest

/-- Runs a form with the parser for the types inside of it. -/
def withTypes {α : Type} (form : Parser Ty → Parser α) : Parser α := do
  form (nestedType (← get).remaining)

/-- A type with all suffixes that bind tighter than a power. -/
def parseType (power : Power) : Parser Ty :=
  withTypes fun inside => typeForm inside power

end ScriptCheck.Parser
