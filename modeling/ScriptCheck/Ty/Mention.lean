import ScriptCheck.Ty

/-!
# Template names in types

The names by which a type mentions templates. They have to be declared where the type is written.
-/

namespace ScriptCheck

mutual

/-- The template names that a type mentions, from left to right. A template mentions no name. -/
def Ty.referencedNames : Ty → List String
  | .primitive _ => []
  | .array element => element.referencedNames
  | .set element => element.referencedNames
  | .map key value => key.referencedNames ++ value.referencedNames
  | .function signature => signature.referencedNames
  | .named name => [name]
  | .template _ => []
  termination_by structural type => type

/-- The template names that a signature mentions: those of its result, then those of its
parameters. -/
def Signature.referencedNames : Signature → List String
  | ⟨result, params⟩ => result.referencedNames ++ paramNames params
  termination_by structural signature => signature

/-- The template names that the types of parameters mention. -/
def paramNames : List (String × Ty) → List String
  | [] => []
  | (_, type) :: rest => type.referencedNames ++ paramNames rest
  termination_by structural params => params

end

end ScriptCheck
