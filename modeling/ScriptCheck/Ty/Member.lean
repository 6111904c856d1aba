import ScriptCheck.Ty

/-!
# Members of types

Sets and maps have fixed methods whose signatures depend on their element, key and value types. A
template has the attributes and methods that it declares. No other type has members.
-/

namespace ScriptCheck.Ty

/-- The signature of a method of sets with the given element type. -/
def setMethod? (element : Ty) (name : String) : Option Signature :=
  match name with
  | "add" => some { result := .set element, params := [("element", element)] }
  | "remove" => some { result := .set element, params := [("element", element)] }
  | "clear" => some { result := .set element, params := [] }
  | "contains" => some { result := .bool, params := [("element", element)] }
  | "size" => some { result := .int, params := [] }
  | _ => none

/-- The signature of a method of maps with the given key and value types. -/
def mapMethod? (key value : Ty) (name : String) : Option Signature :=
  match name with
  | "get" => some { result := value, params := [("key", key)] }
  | "put" => some { result := .map key value, params := [("key", key), ("value", value)] }
  | "remove" => some { result := .map key value, params := [("key", key)] }
  | "clear" => some { result := .map key value, params := [] }
  | "contains" => some { result := .bool, params := [("key", key)] }
  | "size" => some { result := .int, params := [] }
  | _ => none

def method? (type : Ty) (name : String) : Option Signature :=
  match type with
  | .set element => setMethod? element name
  | .map key value => mapMethod? key value name
  | .template declared => declared.method? name
  | _ => none

/-- The type of a member that is not called. Only templates have such members: attributes, and
methods as functions. -/
def member? (type : Ty) (name : String) : Option Ty :=
  match type with
  | .template declared =>
    (declared.attribute? name).or ((declared.method? name).map Ty.function)
  | _ => none

end ScriptCheck.Ty
