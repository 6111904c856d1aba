import ScriptCheck.Ty

/-!
# The written form of types

Types are shown as they are written in a program. The suffix of an array or a set follows the
element type, and the suffix of a map holds the key type and follows the value type. A template is
shown by its name.
-/

namespace ScriptCheck

def Primitive.display : Primitive → String
  | int => "int"
  | float => "float"
  | bool => "bool"
  | str => "str"
  | null => "null"
  | void => "void"
  | infer => "infer"

/-- Items of a list with a comma and a space between them. -/
def commaSeparated (items : List String) : String :=
  String.intercalate ", " items

mutual

def Ty.display : Ty → String
  | .primitive primitive => primitive.display
  | .array element => element.display ++ "[]"
  | .set element => element.display ++ "\x7b\x7d"
  | .map key value => value.display ++ "\x7b" ++ key.display ++ "\x7d"
  | .function signature => signature.display
  | .named name => name
  | .template template => template.name
  termination_by structural type => type

def Signature.display : Signature → String
  | ⟨result, params⟩ =>
    "func<" ++ result.display ++ ", [" ++ commaSeparated (displayParams params) ++ "]>"
  termination_by structural signature => signature

/-- The written forms of parameters: the type and then the name. -/
def displayParams : List (String × Ty) → List String
  | [] => []
  | (name, type) :: rest => (type.display ++ " " ++ name) :: displayParams rest
  termination_by structural params => params

end

end ScriptCheck
