import ScriptCheck.Proofs.Typing.Declared
import ScriptCheck.Proofs.Typing.Search

/-!
# Functions with a prepared result

A function whose result is still to be found is checked with the result that was searched for
before. This makes no difference to an accepted function exactly if the search leaves the result
open, finds what the first return statement returns, or has nothing to search for. It does so on
plain ways, but behind a template or another function with an open result it can be misled.
-/

namespace ScriptCheck

open Checker

variable {signature resolved : Signature} {template : Option Template} {body : Block}
variable {state after entered bodyEnd : CheckState} {type : Ty}

theorem Reaches.isReachable {stmts : List Stmt} (reaches : Reaches stmts state type) :
    state.scopes.isReachable = true := by
  cases reaches with
  | here reachable found => exact reachable
  | @later stmt _ _ _ _ never passed reaches =>
      cases stmt <;> rw [checkStmt] at passed <;> exact isReachable_of_atStmt passed
  | inside enters returns reachable passed defined reaches => exact reachable

/-- Whether the first return statement of a body returns a value. -/
def Block.returnsValue (body : Block) : Bool :=
  body.firstReturn?.any (·.isSome)

theorem prepareSignature_of_no_value (isOpen : signature.result.isInfer = true)
    (noValue : body.returnsValue = false) (state : CheckState) :
    prepareSignature signature template body state = .ok (signature.withResult .void) state := by
  rw [Block.returnsValue] at noValue
  rw [prepareSignature, inferResult, isOpen, noValue]
  rfl

theorem prepareSignature_of_value (isOpen : signature.result.isInfer = true)
    (value : body.returnsValue = true) (state : CheckState) :
    prepareSignature signature template body state =
      .ok (signature.withFound
        (match (enterFunction signature template >>= fun _ => searchBody body) state with
          | .ok found _ => found
          | .error _ _ => none)) state := by
  rw [Block.returnsValue] at value
  rw [prepareSignature, inferResult, isOpen, value]
  apply (bind_of_ok (tentatively_apply _ state) _).trans
  cases (enterFunction signature template >>= fun _ => searchBody body) state <;> rfl

/-- A result that was searched for is left open or found. -/
theorem prepareSignature_cases (template : Option Template) (body : Block) (state : CheckState)
    (isOpen : signature.result.isInfer = true) :
    prepareSignature signature template body state = .ok signature state ∨
      ∃ result, result.isInfer = false ∧
        prepareSignature signature template body state =
          .ok (signature.withResult result) state := by
  cases value : body.returnsValue with
  | false => exact Or.inr ⟨.void, rfl, prepareSignature_of_no_value isOpen value state⟩
  | true =>
      rw [prepareSignature_of_value isOpen value]
      split
      · rename_i found _ _
        cases found with
        | none => exact Or.inl rfl
        | some result =>
            cases known : result.isInfer with
            | true => exact Or.inl (by rw [Signature.withFound, known, if_pos rfl])
            | false =>
                refine Or.inr ⟨result, known, ?_⟩
                rw [Signature.withFound, known, if_neg (by simp)]
      · exact Or.inl rfl

section Transparent

theorem result?_of_enterFunction (isOpen : signature.result.isInfer = true)
    (ranEnter : enterFunction signature template state = .ok () entered) :
    entered.scopes.result? = some .infer := by
  rw [ScopeStack.result?, signature?_of_enterFunction ranEnter, Option.map_some,
    Ty.eq_infer_of_isInfer isOpen]

/-- A function with a declared result, entered next to one with an open result. -/
theorem checkFunction_answered {result : Ty} {found : Signature}
    (ranEnter : enterFunction signature template state = .ok () entered)
    (ranBody : checkBody body (entered.answered result) = .ok () bodyEnd)
    (nearest : bodyEnd.scopes.signature? = some found) :
    checkFunction (signature.withResult result) template body state =
      .ok found.settled { bodyEnd with scopes := state.scopes } :=
  inFunction_apply (keeps_checkBody body) (enterFunction_answered ranEnter) ranBody nearest

/-- A declared result that the first return statement finds makes no difference. -/
theorem Reaches.checkFunction_answered (reaches : Reaches body.body entered type)
    (isOpen : signature.result.isInfer = true) (known : type.isInfer = false)
    (ranEnter : enterFunction signature template state = .ok () entered)
    (ran : checkFunction signature template body state = .ok resolved after) :
    checkFunction (signature.withResult type) template body state = .ok resolved after := by
  rcases ok_of_inFunction (keeps_checkBody body) ran with
    ⟨entered', bodyEnd, found, ranEnter', ranBody, nearest, rfl⟩
  rw [ranEnter, EStateM.Result.ok.injEq] at ranEnter'
  rcases ranEnter' with ⟨_, rfl⟩
  have enteredOpen := result?_of_enterFunction isOpen ranEnter
  have ranAnswered : checkBody body (entered.answered type) = .ok () bodyEnd := by
    rw [checkBody_eq, reaches.checkStmts_answered enteredOpen known, ← checkBody_eq]
    exact ranBody
  rw [ScriptCheck.checkFunction_answered ranEnter ranAnswered nearest]
  have same := inFunction_apply (keeps_checkBody body) ranEnter ranBody nearest
  rw [← checkFunction, ran] at same
  exact same.symm

theorem checkFunction_of_firstReturn?_eq_none (never : body.firstReturn? = none)
    (isOpen : signature.result.isInfer = true)
    (prepares : prepareSignature signature template body state =
      .ok (signature.withResult type) state)
    (ran : checkFunction signature template body state = .ok resolved after) :
    checkFunction (signature.withResult type) template body state = .ok resolved after := by
  have noValue : body.returnsValue = false := by rw [Block.returnsValue, never]; rfl
  rw [prepareSignature_of_no_value isOpen noValue, EStateM.Result.ok.injEq] at prepares
  rw [← prepares.1]
  rcases ok_of_inFunction (keeps_checkBody body) ran with
    ⟨entered, bodyEnd, found, ranEnter, ranBody, nearest, rfl⟩
  have kept := ((keeps_checkBody body).of_ok ranBody).2
  have sameNearest := kept.signature?_eq (by simp [never])
  rw [nearest, signature?_of_enterFunction ranEnter, Option.some.injEq] at sameNearest
  subst sameNearest
  have ranAnswered : checkBody body (entered.answered .void) = .ok () (bodyEnd.answered .void) := by
    rw [checkBody_eq] at ranBody ⊢
    rw [Block.firstReturn?_eq] at never
    exact ignores_checkStmts never _ _ _ ranBody
  have settled := ScopeStack.signature?_setResult .void nearest
  rw [checkFunction_answered ranEnter ranAnswered settled]
  have same := inFunction_apply (keeps_checkBody body) ranEnter ranBody nearest
  rw [← checkFunction, ran] at same
  rw [same, Signature.settled, Signature.settled, isOpen]
  rfl

/-- A declared result that makes no difference is found by the first return statement. -/
theorem reaches_of_checkFunction_answered {again : Signature} {final : CheckState}
    (isOpen : signature.result.isInfer = true) (known : type.isInfer = false)
    (returns : body.firstReturn?.isSome = true)
    (ran : checkFunction signature template body state = .ok resolved after)
    (ranAgain : checkFunction (signature.withResult type) template body state = .ok again final)
    (same : again.result = resolved.result) :
    ∃ entered, enterFunction signature template state = .ok () entered ∧
      Reaches body.body entered type := by
  rcases ok_of_inFunction (keeps_checkBody body) ran with
    ⟨entered, bodyEnd, found, ranEnter, ranBody, nearest, rfl⟩
  rw [checkBody_eq] at ranBody
  rw [Block.firstReturn?_eq] at returns
  refine ⟨entered, ranEnter, ?_⟩
  have enteredOpen := result?_of_enterFunction isOpen ranEnter
  rcases reaches_of_checkStmts ranBody returns with ⟨foundType, reaches⟩
  have declared := eq_of_inFunction known (keeps_checkBody body) ranAgain
  rw [declared] at same
  cases foundKnown : foundType.isInfer with
  | true =>
      -- No declared result agrees with an open type, so the second check would have been refused.
      have disagree : type.agrees foundType = false := by
        rw [Ty.eq_infer_of_isInfer foundKnown, Bool.eq_false_iff]
        intro agrees
        rw [Ty.isInfer_of_agrees_infer agrees] at known
        contradiction
      rcases reaches.error_of_answered enteredOpen known disagree with
        ⟨diagnostic, stopped, refused⟩
      rcases ok_of_inFunction (keeps_checkBody body) ranAgain with
        ⟨entered', bodyEnd', _, ranEnter', ranBody', _⟩
      rw [enterFunction_answered ranEnter, EStateM.Result.ok.injEq] at ranEnter'
      rw [checkBody_eq, ← ranEnter'.2, refused] at ranBody'
      contradiction
  | false =>
      have settled := reaches.result?_eq enteredOpen foundKnown ranBody
      rw [ScopeStack.result?, nearest, Option.map_some, Option.some.injEq] at settled
      have sameFound : found.settled = found := by
        rw [Signature.settled, settled, foundKnown]
        rfl
      have sameType : type = foundType := by
        rw [sameFound, settled] at same
        exact same
      rw [sameType]
      exact reaches

theorem eq_of_withFound {result : Ty} (isOpen : signature.result.isInfer = true)
    (known : result.isInfer = false)
    (same : signature.withResult result = signature.withFound type) : result = type := by
  rw [Signature.withFound] at same
  split at same
  · rw [← same, Signature.withResult, known] at isOpen
    contradiction
  · exact congrArg Signature.result same

/-- On a plain way the search finds what the first return statement returns. -/
theorem prepareSignature_of_plain (isOpen : signature.result.isInfer = true)
    (plain : body.isPlain = true ∨ body.returnsValue = false)
    (returns : body.firstReturn?.isSome = true)
    (ranEnter : enterFunction signature template state = .ok () entered)
    (reaches : Reaches body.body entered type) :
    prepareSignature signature template body state = .ok (signature.withFound type) state := by
  cases value : body.returnsValue with
  | false =>
      have first : firstReturnIn? body.body = some none := by
        rw [← Block.firstReturn?_eq]
        rcases Option.isSome_iff_exists.mp returns with ⟨returned, first⟩
        rw [Block.returnsValue, first, Option.any_some, Option.isSome_eq_false_iff] at value
        rw [first, Option.isNone_iff_eq_none.mp value]
      rw [prepareSignature_of_no_value isOpen value, reaches.eq_void first]
      rfl
  | true =>
      have plainIn : isPlainIn body.body = true := by
        rw [← Block.isPlain_eq]
        exact plain.resolve_right (by simp [value])
      rcases discovers_of_reaches reaches plainIn _ (.refl reaches.isReachable) with
        ⟨searched, found, _⟩
      rw [prepareSignature_of_value isOpen value, bind_of_ok ranEnter, searchBody_eq, found]

/-- Preparing a function with an open result makes no difference exactly if what is prepared is
right. It is so wherever the way to the first return statement is plain. -/
theorem prepared_check_agrees (isOpen : signature.result.isInfer = true)
    (ran : checkFunction signature template body state = .ok resolved after) :
    ∃ prepared, prepareSignature signature template body state = .ok prepared state ∧
      ((∃ again final, checkFunction prepared template body state = .ok again final ∧
          again.result = resolved.result) ↔
        prepared.result.isInfer = true ∨ body.firstReturn? = none ∨
          ∃ entered, enterFunction signature template state = .ok () entered ∧
            Reaches body.body entered prepared.result) ∧
      (body.isPlain = true ∨ body.returnsValue = false →
        checkFunction prepared template body state = .ok resolved after) := by
  rcases prepareSignature_cases template body state isOpen with
    prepares | ⟨type, known, prepares⟩
  · refine ⟨signature, prepares, ?_, fun _ => ran⟩
    exact ⟨fun _ => Or.inl isOpen, fun _ => ⟨resolved, after, ran, rfl⟩⟩
  refine ⟨signature.withResult type, prepares, ⟨?_, ?_⟩, ?_⟩
  · rintro ⟨again, final, ranAgain, same⟩
    cases returned : body.firstReturn? with
    | none => exact Or.inr (Or.inl rfl)
    | some value =>
        have returns : body.firstReturn?.isSome = true := by rw [returned]; rfl
        have reaches := reaches_of_checkFunction_answered isOpen known returns ran ranAgain same
        exact Or.inr (Or.inr reaches)
  · rintro (stillOpen | never | ⟨entered, ranEnter, reaches⟩)
    · rw [Signature.withResult, known] at stillOpen
      contradiction
    · refine ⟨resolved, after, ?_, rfl⟩
      exact checkFunction_of_firstReturn?_eq_none never isOpen prepares ran
    · exact ⟨resolved, after, reaches.checkFunction_answered isOpen known ranEnter ran, rfl⟩
  · intro plain
    cases returned : body.firstReturn? with
    | none => exact checkFunction_of_firstReturn?_eq_none returned isOpen prepares ran
    | some value =>
        rcases ok_of_inFunction (keeps_checkBody body) ran with
          ⟨entered, bodyEnd, found, ranEnter, ranBody, nearest, rfl⟩
        have returns : body.firstReturn?.isSome = true := by rw [returned]; rfl
        have returnsIn : (firstReturnIn? body.body).isSome = true := by
          rwa [← Block.firstReturn?_eq]
        rw [checkBody_eq] at ranBody
        rcases reaches_of_checkStmts ranBody returnsIn with ⟨foundType, reaches⟩
        have found := prepareSignature_of_plain isOpen plain returns ranEnter reaches
        rw [prepares, EStateM.Result.ok.injEq] at found
        have sameType := eq_of_withFound isOpen known found.1
        rw [← sameType] at reaches
        exact reaches.checkFunction_answered isOpen known ranEnter ran

end Transparent

/-- A function that returns an element of a list of its own is prepared with the type of it. -/
theorem prepared_element_agrees :
    let body : Block := ⟨Position.unknown,
      [.each Position.unknown "x" (.array [.string "a"])
        ⟨Position.unknown, [.returning Position.unknown (some (.identifier "x"))]⟩]⟩
    ∃ prepared, prepareSignature { result := .infer, params := [] } none body CheckState.initial =
        .ok prepared CheckState.initial ∧ prepared.result = .str ∧
      checkFunction prepared none body CheckState.initial =
        .ok { result := .str, params := [] } CheckState.initial := by
  intro body
  have ran : checkFunction { result := .infer, params := [] } none body CheckState.initial =
    .ok { result := .str, params := [] } CheckState.initial := rfl
  have found : prepareSignature { result := .infer, params := [] } none body CheckState.initial =
    .ok { result := .str, params := [] } CheckState.initial := rfl
  rcases prepared_check_agrees (by rfl) ran with ⟨prepared, prepares, _, agrees⟩
  rw [found, EStateM.Result.ok.injEq] at prepares
  refine ⟨prepared, by rw [← prepares.1]; exact found, by rw [← prepares.1], ?_⟩
  exact agrees (Or.inl rfl)

/-- A body that calls a function of its own, which makes a value of a template of its own. -/
def hiddenTemplate : Block :=
  let callee : Block := ⟨Position.unknown,
    [.varDecl Position.unknown 2 "t" (.named "T") (.entity "T" [("a", .integer 1)]),
      .returning Position.unknown (some (.member (.identifier "t") "a"))]⟩
  ⟨Position.unknown,
    [.templateDecl Position.unknown "T" [("a", .int)] [],
      .varDecl Position.unknown 1 "g" .infer (.function [] callee),
      .returning Position.unknown (some (.call (.identifier "g") []))]⟩

/-- The search does not see the template, does not bind the function for that reason, and takes
another function of the same name from around. The check with its result is refused. -/
theorem hidden_template_misprepared :
    let around : CheckState := { CheckState.initial with
      scopes := ScopeStack.initial.bound "g" (.function { result := .str, params := [] }) }
    hiddenTemplate.isPlain = false ∧
    (∃ after, checkFunction { result := .infer, params := [] } none hiddenTemplate around =
      .ok { result := .int, params := [] } after) ∧
    prepareSignature { result := .infer, params := [] } none hiddenTemplate around =
      .ok { result := .str, params := [] } around ∧
    ∃ diagnostic after, checkFunction { result := .str, params := [] } none hiddenTemplate around =
      .error diagnostic after :=
  ⟨rfl, ⟨_, rfl⟩, rfl, _, _, rfl⟩

end ScriptCheck
