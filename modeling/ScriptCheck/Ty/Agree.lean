import ScriptCheck.Ty

/-!
# Agreement of types

Two types agree when a value of one may stand where a value of the other is expected. Agreement is
equality of structure with two relaxations: the element type of an empty literal, `void`, agrees
with every element type, and a template agrees with every mention of its name. The element types of
arrays and sets and the key and value types of maps are the places where `void` is open. Elsewhere
it agrees with itself only.
-/

namespace ScriptCheck

mutual

def Ty.agrees : Ty → Ty → Bool
  | .primitive first, .primitive second => first == second
  | .array first, .array second =>
    first.isVoid || second.isVoid || first.agrees second
  | .set first, .set second =>
    first.isVoid || second.isVoid || first.agrees second
  | .map firstKey firstValue, .map secondKey secondValue =>
    (firstKey.isVoid || secondKey.isVoid || firstKey.agrees secondKey) &&
      (firstValue.isVoid || secondValue.isVoid || firstValue.agrees secondValue)
  | .function first, .function second => first.agrees second
  | .named first, .named second => first == second
  | .named first, .template second => first == second.name
  | .template first, .named second => first.name == second
  | .template first, .template second => first.name == second.name
  | _, _ => false
  termination_by structural first => first

/-- Whether two signatures agree: in their results, and in the names and types of their
parameters. -/
def Signature.agrees : Signature → Signature → Bool
  | ⟨firstResult, firstParams⟩, ⟨secondResult, secondParams⟩ =>
    firstResult.agrees secondResult && paramsAgree firstParams secondParams
  termination_by structural first => first

/-- Whether two lists of parameters agree one by one. -/
def paramsAgree : List (String × Ty) → List (String × Ty) → Bool
  | [], [] => true
  | (firstName, first) :: firstRest, (secondName, second) :: secondRest =>
    firstName == secondName && first.agrees second && paramsAgree firstRest secondRest
  | _, _ => false
  termination_by structural first => first

end

mutual

@[simp]
theorem Ty.agrees_refl (type : Ty) : type.agrees type = true := by
  cases type with
  | primitive primitive => simp [Ty.agrees]
  | array element => simp [Ty.agrees, Ty.agrees_refl element]
  | set element => simp [Ty.agrees, Ty.agrees_refl element]
  | map key value => simp [Ty.agrees, Ty.agrees_refl key, Ty.agrees_refl value]
  | function signature => simp [Ty.agrees, Signature.agrees_refl signature]
  | named name => simp [Ty.agrees]
  | template template => simp [Ty.agrees]
  termination_by structural type

@[simp]
theorem Signature.agrees_refl (signature : Signature) : signature.agrees signature = true := by
  obtain ⟨result, params⟩ := signature
  simp [Signature.agrees, Ty.agrees_refl result, paramsAgree_refl params]
  termination_by structural signature

theorem paramsAgree_refl (params : List (String × Ty)) : paramsAgree params params = true := by
  cases params with
  | nil => rfl
  | cons param rest =>
    obtain ⟨name, type⟩ := param
    simp [paramsAgree, Ty.agrees_refl type, paramsAgree_refl rest]
  termination_by structural params

end

/-- Only a type that is still to be found agrees with one that is. -/
theorem Ty.eq_infer_of_isInfer {type : Ty} (isOpen : type.isInfer = true) : type = .infer := by
  unfold Ty.isInfer at isOpen
  split at isOpen
  · rfl
  · contradiction

theorem Ty.isInfer_of_agrees_infer {type : Ty} (agrees : type.agrees .infer = true) :
    type.isInfer = true := by
  cases type <;> simp_all [Ty.agrees, Ty.isInfer]

end ScriptCheck
