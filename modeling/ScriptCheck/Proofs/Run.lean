/-!
# Running actions in sequence

Checkers and parsers are actions on a state that may fail. A sequence is opened by what its first
action answers. A sequence that succeeds gives back the success of both of its actions, and one
that fails tells which of them does.
-/

namespace ScriptCheck

variable {Fault State α β : Type}

theorem bind_apply (action : EStateM Fault State α) (rest : α → EStateM Fault State β)
    (state : State) :
    (action >>= rest) state =
      match action state with
      | .ok value after => rest value after
      | .error diagnostic after => .error diagnostic after := by
  show EStateM.bind action rest state = _
  unfold EStateM.bind
  cases action state <;> rfl

theorem bind_of_ok {action : EStateM Fault State α} {state after : State} {value : α}
    (ran : action state = .ok value after) (rest : α → EStateM Fault State β) :
    (action >>= rest) state = rest value after := by
  rw [bind_apply, ran]

theorem bind_of_error {action : EStateM Fault State α} {state after : State} {diagnostic : Fault}
    (failed : action state = .error diagnostic after) (rest : α → EStateM Fault State β) :
    (action >>= rest) state = .error diagnostic after := by
  rw [bind_apply, failed]

theorem ok_of_bind_eq_ok {action : EStateM Fault State α} {rest : α → EStateM Fault State β}
    {state after : State} {value : β} (found : (action >>= rest) state = .ok value after) :
    ∃ first between, action state = .ok first between ∧ rest first between = .ok value after := by
  rw [bind_apply] at found
  cases ran : action state with
  | ok first between =>
      rw [ran] at found
      exact ⟨first, between, rfl, found⟩
  | error diagnostic between =>
      rw [ran] at found
      contradiction

/-- Either the first action fails, or the second one does after the first has succeeded. -/
theorem error_of_bind_eq_error {action : EStateM Fault State α} {rest : α → EStateM Fault State β}
    {state after : State} {diagnostic : Fault}
    (failed : (action >>= rest) state = .error diagnostic after) :
    action state = .error diagnostic after ∨
      ∃ first between, action state = .ok first between ∧
        rest first between = .error diagnostic after := by
  rw [bind_apply] at failed
  cases ran : action state with
  | error other between =>
      rw [ran] at failed
      rcases EStateM.Result.error.inj failed with ⟨rfl, rfl⟩
      exact .inl rfl
  | ok first between =>
      rw [ran] at failed
      exact .inr ⟨first, between, rfl, failed⟩

end ScriptCheck
