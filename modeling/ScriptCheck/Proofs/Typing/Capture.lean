import ScriptCheck.Proofs.Typing.Mirror
import ScriptCheck.Proofs.Typing.Stack

/-!
# Functions capture no variables

The check of a function cannot see the types of the variables around it. Two runs in states that
differ in such types only end with the same signature, the same analysis, or the same fault.
-/

namespace ScriptCheck

open Checker

/-- Two types that are the same or belong to variables: neither is that of a function or a
template. -/
def Ty.SameOrValues (first second : Ty) : Prop :=
  first = second ∨ (first.isValue = true ∧ second.isValue = true)

theorem Ty.SameOrValues.refl (type : Ty) : type.SameOrValues type :=
  Or.inl rfl

/-- Two scopes that are the same but for the types of variables. -/
structure Scope.SameButValues (first second : Scope) : Prop where
  kind : first.kind = second.kind
  reachable : first.reachable = second.reachable
  names : ∀ name, Option.Rel Ty.SameOrValues (first.lookup? name) (second.lookup? name)

/-- Two states that are the same but for the types of variables. -/
structure CheckState.SameButValues (first second : CheckState) : Prop where
  position : first.position = second.position
  analysis : first.analysis = second.analysis
  scopes : List.Forall₂ Scope.SameButValues first.scopes.scopes second.scopes.scopes

/-- The likeness of runs that have to find out the same, but see no types of values around the
function that they are in. -/
def Likeness.veiling : Likeness where
  veiled := True
  sameLoops := False
  unveiled := False.elim
  tables := Eq
  addVariable := Likeness.eq_addVariable
  addFunction := Likeness.eq_addFunction

namespace CheckState

variable {first second : CheckState}

theorem SameButValues.states (same : first.SameButValues second) :
    Likeness.veiling.States [] first second := by
  refine ⟨same.position, same.analysis, [], List.Sublist.refl [], .base ?_ ?_⟩
  · simp [ScopeStack.scopes]
  · refine same.scopes.imp fun scope other alike => ?_
    refine ⟨?_, False.elim, alike.reachable, fun name => ?_⟩
    · simp only [Scope.isFunction, Scope.signature?, alike.kind]
    · refine Likeness.option_rel_imp (fun type other types => ?_) (alike.names name)
      exact types.imp id fun values => ⟨trivial, values⟩

/-- One more variable in the innermost scope, of one type or of another. -/
theorem sameButValues_bound (state : CheckState) (name : String) {type other : Ty}
    (typeValue : type.isValue = true) (otherValue : other.isValue = true) :
    SameButValues { state with scopes := state.scopes.bound name type }
      { state with scopes := state.scopes.bound name other } := by
  refine ⟨rfl, rfl, .cons ⟨rfl, rfl, fun sought => ?_⟩ ?_⟩
  · simp only [ScopeStack.bound, Scope.bind, Scope.lookup?, List.lookup_cons]
    split
    · exact .some (Or.inr ⟨typeValue, otherValue⟩)
    · exact Likeness.option_rel_refl Ty.SameOrValues.refl _
  · refine List.forall₂_same.mpr fun scope _ => ⟨rfl, rfl, fun sought => ?_⟩
    exact Likeness.option_rel_refl Ty.SameOrValues.refl _

end CheckState

namespace Checker

variable {α : Type}

/-- What a run is about: its result with the analysis, or its fault. -/
def findings : EStateM.Result Diagnostic CheckState α → Except Diagnostic (α × Analysis)
  | .ok value after => .ok (value, after.analysis)
  | .error diagnostic _ => .error diagnostic

theorem findings_eq_of_outcomes {shape : List Bool}
    {ranFirst ranSecond : EStateM.Result Diagnostic CheckState α}
    (outcomes : Likeness.veiling.Outcomes shape ranFirst ranSecond) :
    findings ranFirst = findings ranSecond := by
  cases outcomes with
  | ok value alike =>
      have sameAnalysis := alike.analysis
      rw [findings, findings, sameAnalysis]
  | error diagnostic alike => rfl

end Checker

/-- A function is checked alike whatever types the variables around it have, and its result is
found alike before: with the same signature and the same analysis, or with the same fault. -/
theorem functions_capture_no_variables (signature : Signature) (template : Option Template)
    (body : Block) {first second : CheckState} (same : first.SameButValues second) :
    findings (checkFunction signature template body first) =
        findings (checkFunction signature template body second) ∧
      ∃ prepared, prepareSignature signature template body first = .ok prepared first ∧
        prepareSignature signature template body second = .ok prepared second := by
  have inside : true ∈ [true] := List.mem_singleton.mpr rfl
  refine ⟨?_, ?_⟩
  · have mirrors : Likeness.veiling.Mirrors [] [] (checkFunction signature template body) :=
      Likeness.mirrors_inFunction signature template (mirrors_checkBody body (.inl inside))
    exact findings_eq_of_outcomes (mirrors first second same.states)
  · have mirrors : Likeness.veiling.Mirrors [] [] (prepareSignature signature template body) :=
      Likeness.mirrors_inferResult signature template _ (mirrors_searchBody inside body)
    have outcomes := mirrors first second same.states
    rcases inferResult_apply signature template body.firstReturn? (searchBody body) first with
      ⟨prepared, ranFirst⟩
    rcases inferResult_apply signature template body.firstReturn? (searchBody body) second with
      ⟨other, ranSecond⟩
    simp only [prepareSignature, ranFirst, ranSecond] at outcomes ⊢
    cases outcomes with
    | ok _ alike => exact ⟨prepared, rfl, rfl⟩

/-- A function that returns a variable of its own does not care for one of the same name around
it. -/
theorem function_with_own_variable_captures_none :
    (CheckState.mk (ScopeStack.initial.bound "x" .int) Analysis.empty
      Position.unknown).SameButValues
        (CheckState.mk (ScopeStack.initial.bound "x" .str) Analysis.empty Position.unknown) ∧
    findings (checkFunction { result := .infer, params := [] } none
        ⟨Position.unknown, [.varDecl Position.unknown 0 "x" .int (.integer 1),
          .returning Position.unknown (some (.identifier "x"))]⟩
        (CheckState.mk (ScopeStack.initial.bound "x" .str) Analysis.empty Position.unknown)) =
      .ok ({ result := .int, params := [] }, { types := [(0, .int)], signatures := [] }) := by
  have same := CheckState.sameButValues_bound CheckState.initial "x"
    (rfl : Ty.int.isValue = true) (rfl : Ty.str.isValue = true)
  exact ⟨same, (functions_capture_no_variables _ none _ same).1.symm.trans rfl⟩

end ScriptCheck
