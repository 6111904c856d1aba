import ScriptCheck.Typing.Rule

/-!
# What the typing rules answer

A typing rule that applies answers with one of the types that it was given, or with a part of one.
-/

namespace ScriptCheck

theorem mem_of_lookup {α : Type} {entries : List (String × α)} {name : String} {value : α}
    (found : entries.lookup name = some value) : (name, value) ∈ entries := by
  rcases List.lookup_eq_some_iff.mp found with ⟨before, after, rfl, _⟩
  simp

namespace Rule

variable {type : Ty} {name : String} {count : Nat} {found : Signature}

theorem eq_of_unary {operator : UnaryOp} {operand : Ty}
    (typed : unary operator operand = .ok type) : type = operand := by
  unfold unary at typed
  split at typed
  · exact (Except.ok.inj typed).symm
  · contradiction

theorem eq_of_binary {operator : BinaryOp} {left right : Ty}
    (typed : binary operator left right = .ok type) : type = left ∨ type = .bool := by
  unfold binary agree at typed
  split at typed
  · have result : binaryResult operator left = .ok type := typed
    unfold binaryResult at result
    simp only at result
    split at result
    · split at result
      · exact .inl (Except.ok.inj result).symm
      · contradiction
    · split at result
      · exact .inr (Except.ok.inj result).symm
      · split at result
        · exact .inr (Except.ok.inj result).symm
        · contradiction
  · contradiction

theorem eq_of_assignment {target value : Ty} (typed : assignment target value = .ok type) :
    type = target := by
  unfold assignment agree at typed
  split at typed
  · exact (Except.ok.inj typed).symm
  · contradiction

theorem eq_of_index {base position : Ty} (typed : index base position = .ok type) :
    base = .array type := by
  unfold index agree at typed
  split at typed
  · cases base with
    | array element => rw [← Except.ok.inj typed]
    | _ => contradiction
  · contradiction

theorem eq_of_iterated {element : Ty} (typed : iterated type = .ok element) :
    type = .array element := by
  cases type with
  | array inner => rw [← Except.ok.inj typed]
  | _ => contradiction

theorem member?_of_member {object : Ty} (typed : member object name = .ok type) :
    object.member? name = some type := by
  unfold member at typed
  split at typed
  · split at typed
    · rename_i declared
      rw [declared, Except.ok.inj typed]
    · contradiction
  · contradiction

theorem eq_of_callee (typed : callee type count = .ok found) : type = .function found := by
  cases type with
  | function signature =>
      rw [callee] at typed
      split at typed
      · rw [Except.ok.inj typed]
      · contradiction
  | _ => contradiction

/-- What is called is the signature that was found, whose result is known. -/
theorem eq_of_called {signature : Signature} {arity : TypeFault}
    (typed : called name signature count arity = .ok found) :
    found = signature ∧ found.result.isInfer = false := by
  unfold called at typed
  split at typed
  · contradiction
  · split at typed
    · contradiction
    · rename_i known
      cases Except.ok.inj typed
      exact ⟨rfl, eq_false_of_ne_true known⟩

theorem eq_of_namedCallee (typed : namedCallee name type count = .ok found) :
    type = .function found ∧ found.result.isInfer = false := by
  cases type with
  | function signature =>
      rcases eq_of_called typed with ⟨rfl, known⟩
      exact ⟨rfl, known⟩
  | _ => contradiction

theorem method?_of_method {object : Ty} (typed : method object name count = .ok found) :
    object.method? name = some found ∧ found.result.isInfer = false := by
  unfold method at typed
  split at typed
  · split at typed
    · rename_i declared
      rcases eq_of_called typed with ⟨rfl, known⟩
      exact ⟨declared, known⟩
    · contradiction
  · contradiction

end Rule

end ScriptCheck
