import ScriptCheck.Proofs.Typing.Accepted
import ScriptCheck.Proofs.Typing.Prepared

/-!
# Signatures that are settled

A signature only changes by the result that is found for it. It changes when the function is
prepared or when its body is checked, and it keeps its parameters. A template changes in the same
way, method by method, while its methods are prepared and checked. `Template.Version` is this
relation between a template as it is written and as it is by then.
-/

namespace ScriptCheck

open Checker

/-- A signature is the same as before, or its open result has been found. -/
def Signature.Settles (before after : Signature) : Prop :=
  after = before ∨
    (before.result.isInfer = true ∧ after.result.isInfer = false ∧ after.params = before.params)

/-- A signature as it is known in the end: it has the declared parameters and the declared result,
and a result that is still to be found has been found. -/
structure Signature.Completes (declared resolved : Signature) : Prop where
  params : resolved.params = declared.params
  result : declared.result.isInfer = false → resolved.result = declared.result
  known : resolved.result.isInfer = false

/-- A template after some open results of its methods have been found. -/
structure Template.Version (written current : Template) : Prop where
  name : current.name = written.name
  attributes : current.attributes = written.attributes
  methods : ∀ index : Nat, Option.Rel
    (fun before after => before.1 = after.1 ∧ before.2.Settles after.2)
    written.methods[index]? current.methods[index]?

/-- The methods stand in a template from an index on, with their signatures as they are written. -/
def Template.Declares (template : Template) (index : Nat) (methods : List FnDecl) : Prop :=
  ∀ (offset : Nat) (method : FnDecl), methods[offset]? = some method →
    template.methods[index + offset]? = some method.asMethod

theorem Signature.Settles.trans {before between after : Signature}
    (first : before.Settles between) (second : between.Settles after) : before.Settles after := by
  rcases first with rfl | ⟨isOpen, known, sameParams⟩
  · exact second
  · rcases second with rfl | ⟨isOpenBetween, _, _⟩
    · exact .inr ⟨isOpen, known, sameParams⟩
    · rw [known] at isOpenBetween
      contradiction

theorem Signature.Settles.refl (signature : Signature) : signature.Settles signature :=
  .inl rfl

theorem Signature.Settles.params {before after : Signature} (settles : before.Settles after) :
    after.params = before.params := by
  rcases settles with rfl | ⟨_, _, same⟩
  · rfl
  · exact same

/-- A result that is still open has been open from the start. -/
theorem Signature.Settles.isOpen {before after : Signature} (settles : before.Settles after)
    (isOpen : after.result.isInfer = true) : before.result.isInfer = true := by
  rcases settles with rfl | ⟨wasOpen, _, _⟩
  · exact isOpen
  · exact wasOpen

theorem Signature.Settles.completes {declared resolved : Signature}
    (settles : declared.Settles resolved) (known : resolved.result.isInfer = false) :
    declared.Completes resolved := by
  refine ⟨settles.params, fun isDeclared => ?_, known⟩
  rcases settles with rfl | ⟨isOpen, _, _⟩
  · rfl
  · rw [isDeclared] at isOpen
    contradiction

/-- A result that has been found does not agree with one that is still to be found. -/
theorem Signature.Settles.eq_of_agrees {before after : Signature} (settles : before.Settles after)
    (agrees : after.agrees before = true) : after = before := by
  rcases settles with same | ⟨isOpen, known, _⟩
  · exact same
  · rcases before with ⟨result, params⟩
    rcases after with ⟨found, others⟩
    have resultsAgree : found.agrees result = true := (Bool.and_eq_true_iff.mp agrees).1
    rw [show result = .infer from Ty.eq_infer_of_isInfer isOpen] at resultsAgree
    have impossible := Ty.isInfer_of_agrees_infer resultsAgree
    rw [show found.isInfer = false from known] at impossible
    contradiction

theorem Signature.isInfer_settled (signature : Signature) :
    signature.settled.result.isInfer = false := by
  unfold Signature.settled
  split
  · rfl
  · rename_i known
    simpa using known

section Versions

variable {written current : Template} {index : Nat} {signature : Signature}

theorem getElem?_setMethod (template : Template) (index place : Nat) (signature : Signature) :
    (template.setMethod index signature).methods[place]? =
      if index = place then template.methods[place]?.map fun method => (method.1, signature)
      else template.methods[place]? := by
  rw [Template.setMethod, List.getElem?_modify]
  by_cases here : index = place <;> simp [here]

theorem declares_declaredTemplate (name : String) (attributes : List (String × Ty))
    (methods : List FnDecl) : (declaredTemplate name attributes methods).Declares 0 methods := by
  intro offset method found
  rw [Nat.zero_add, declaredTemplate, List.getElem?_map, found]
  rfl

theorem Template.Declares.head {method : FnDecl} {rest : List FnDecl}
    (declares : current.Declares index (method :: rest)) :
    current.methods[index]? = some method.asMethod :=
  declares 0 method rfl

theorem Template.Declares.tail {method : FnDecl} {rest : List FnDecl}
    (declares : current.Declares index (method :: rest)) : current.Declares (index + 1) rest := by
  intro offset later found
  rw [Nat.add_right_comm]
  exact declares (offset + 1) later found

/-- The methods behind the one that is set stay as they are written. -/
theorem Template.Declares.setMethod {rest : List FnDecl}
    (declares : current.Declares (index + 1) rest) :
    (current.setMethod index signature).Declares (index + 1) rest := by
  intro offset later found
  rw [getElem?_setMethod, if_neg (by omega)]
  exact declares offset later found

/-- What a method that is still as it is written settles to. -/
theorem Template.settles_of_declared {method : FnDecl}
    (declared : current.methods[index]? = some method.asMethod)
    (settles : method.signature.Settles signature) :
    ∀ found ∈ current.methods[index]?, found.2.Settles signature := by
  intro found isFound
  rw [← Option.some.inj (declared.symm.trans isFound)]
  exact settles

/-- What a method that has been prepared settles to. -/
theorem Template.settles_of_prepared {method : FnDecl}
    (settles : (current.preparedMethod index method).Settles signature) :
    ∀ found ∈ current.methods[index]?, found.2.Settles signature := by
  intro found isFound
  rw [Template.preparedMethod, Option.mem_def.mp isFound] at settles
  exact settles

theorem Template.Version.refl (template : Template) : template.Version template := by
  refine ⟨rfl, rfl, fun index => ?_⟩
  cases template.methods[index]? with
  | none => exact .none
  | some method => exact .some ⟨rfl, .inl rfl⟩

theorem Template.Version.length_eq (version : written.Version current) :
    current.methods.length = written.methods.length := by
  have isNone_iff (index : Nat) :
      current.methods[index]? = none ↔ written.methods[index]? = none := by
    have related := version.methods index
    generalize current.methods[index]? = after, written.methods[index]? = before at related
    cases related <;> simp
  apply Nat.le_antisymm
  · exact List.getElem?_eq_none_iff.mp ((isNone_iff _).mpr (List.getElem?_eq_none (Nat.le_refl _)))
  · exact List.getElem?_eq_none_iff.mp ((isNone_iff _).mp (List.getElem?_eq_none (Nat.le_refl _)))

theorem Template.Version.setMethod (version : written.Version current)
    (settles : ∀ method ∈ current.methods[index]?, method.2.Settles signature) :
    written.Version (current.setMethod index signature) := by
  refine ⟨version.name, version.attributes, fun place => ?_⟩
  have before := version.methods place
  rw [getElem?_setMethod]
  by_cases here : index = place
  · subst here
    rw [if_pos rfl]
    cases found : current.methods[index]? with
    | none =>
        rw [found] at before
        exact before
    | some method =>
        rw [found] at before
        generalize written.methods[index]? = original at before ⊢
        cases before with
        | some related =>
            exact .some ⟨related.1, related.2.trans (settles method found)⟩
  · rw [if_neg here]
    exact before

/-- A method is prepared with its written signature, once that has been settled. -/
theorem Template.Version.settles_preparedMethod {method : FnDecl}
    (version : written.Version current)
    (declared : written.methods[index]? = some method.asMethod) :
    method.signature.Settles (current.preparedMethod index method) := by
  have related := version.methods index
  rw [declared] at related
  unfold Template.preparedMethod
  generalize current.methods[index]? = found at related
  cases related with
  | some settled => exact settled.2

end Versions

section Settling

variable {signature prepared resolved : Signature} {template : Option Template} {body : Block}
variable {state after : CheckState}

theorem settles_of_prepareSignature
    (prepares : prepareSignature signature template body state = .ok prepared after) :
    signature.Settles prepared := by
  cases isOpen : signature.result.isInfer with
  | false =>
      rw [prepareSignature, inferResult_of_known isOpen] at prepares
      exact .inl (EStateM.Result.ok.inj prepares).1.symm
  | true =>
      rcases prepareSignature_cases template body state isOpen with same | ⟨result, known, found⟩
      · rw [same] at prepares
        exact .inl (EStateM.Result.ok.inj prepares).1.symm
      · rw [found] at prepares
        rw [← (EStateM.Result.ok.inj prepares).1]
        exact .inr ⟨isOpen, known, rfl⟩

/-- The parameters of the nearest function stay. -/
theorem ScopeStack.Kept.params_eq {returns : Prop} {before after : ScopeStack}
    {found : Signature} (kept : before.Kept returns after)
    (nearest : before.signature? = some signature) (nearestAfter : after.signature? = some found) :
    found.params = signature.params := by
  rw [← ScopeStack.signature?_restored after before] at nearestAfter
  simp only [ScopeStack.signature?] at nearest nearestAfter
  unfold ScopeStack.Kept at kept
  generalize before.scopes = scopes, (after.restored before).scopes = scopes'
    at kept nearest nearestAfter
  induction kept with
  | same =>
      rw [nearest, Option.some.injEq] at nearestAfter
      rw [nearestAfter]
  | found other result symbols reachable outer returning opened =>
      simp only [List.findSome?_cons, Scope.signature?, Option.some.injEq] at nearest nearestAfter
      rw [← nearest, ← nearestAfter]
      rfl
  | around scope outside settled ih =>
      have passed : scope.signature? = none := by simpa [Scope.isFunction] using outside
      simp only [List.findSome?_cons, passed] at nearest nearestAfter
      exact ih nearest nearestAfter

/-- The methods from an index on are prepared: each of them is still as it is written. -/
theorem Template.Version.of_prepareMethods {written current prepared : Template} {index : Nat}
    {methods : List FnDecl} (version : written.Version current)
    (declares : current.Declares index methods)
    (ran : prepareMethods current index methods state = .ok prepared after) :
    written.Version prepared := by
  induction methods generalizing current index state with
  | nil =>
      rw [prepareMethods, pure_apply, EStateM.Result.ok.injEq] at ran
      rcases ran with ⟨rfl, rfl⟩
      exact version
  | cons method rest ih =>
      rcases ok_of_prepareMethods_cons ran with ⟨signature, _, prepares, ranRest⟩
      have settled :=
        Template.settles_of_declared declares.head (settles_of_prepareSignature prepares)
      exact ih (version.setMethod settled) declares.tail.setMethod ranRest

theorem settles_of_checkFunction
    (ran : checkFunction prepared template body state = .ok resolved after) :
    prepared.Settles resolved := by
  cases isOpen : prepared.result.isInfer with
  | false => exact .inl (eq_of_inFunction isOpen (keeps_checkBody body) ran)
  | true =>
      rcases ok_of_inFunction (keeps_checkBody body) ran with
        ⟨entered, bodyEnd, found, ranEnter, ranBody, nearest, rfl⟩
      have sameParams := ((keeps_checkBody body).of_ok ranBody).2.params_eq
        (signature?_of_enterFunction ranEnter) nearest
      refine .inr ⟨isOpen, found.isInfer_settled, ?_⟩
      unfold Signature.settled
      split <;> exact sameParams

theorem isInfer_of_checkFunction
    (ran : checkFunction prepared template body state = .ok resolved after) :
    resolved.result.isInfer = false := by
  rcases ok_of_inFunction (keeps_checkBody body) ran with ⟨_, _, found, _, _, _, rfl⟩
  exact found.isInfer_settled

/-- A function is bound with the signature that is recorded for it, even where the bound signature
is left as it was prepared. -/
theorem bound_of_checkFnDecl {declaration : FnDecl}
    (ran : checkFnDecl declaration state = .ok () after) :
    ∃ resolved, after.scopes = state.scopes.bound declaration.name (.function resolved) ∧
      after.analysis.signatures.get? declaration.id = some resolved ∧
      declaration.signature.Completes resolved := by
  rcases ok_of_checkFnDecl ran with
    ⟨declared, prepared, resolved, checked, last, _, defined, prepares, ranBody, ranReplace, rfl⟩
  rcases scopes_of_define defined with ⟨unbound, sameDeclared⟩
  have settles := settles_of_checkFunction ranBody
  have sameChecked := ((keeps_inFunction prepared none
    (keeps_checkBody declaration.body)).of_ok ranBody).2
  have updated : checked.scopes = state.scopes.bound declaration.name (.function prepared) := by
    rw [← sameChecked, CheckState.updated, sameDeclared, ScopeStack.update_bound unbound]
  refine ⟨resolved, ?_, ?_, ?_⟩
  · show last.scopes = _
    unfold replaceFunction at ranReplace
    split at ranReplace
    · rename_i agrees
      rw [← (EStateM.Result.ok.inj ranReplace).2, updated, settles.eq_of_agrees agrees]
    · rw [← (EStateM.Result.ok.inj ranReplace).2]
      show checked.scopes.update declaration.name (.function resolved) = _
      rw [updated, ScopeStack.update_bound unbound]
  · show (last.analysis.addFunction _ _).signatures.get? _ = _
    rw [Analysis.addFunction, Table.get?_insert, if_pos rfl]
  · exact ((settles_of_prepareSignature prepares).trans settles).completes
      (isInfer_of_checkFunction ranBody)

end Settling

end ScriptCheck
