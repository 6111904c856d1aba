import ScriptCheck.Ty.Agree

/-!
# Types with holes

The element type of an empty literal is `void`. Where it is the type of an element, a key or a
value, `void` is a hole that any type can fill. A type fills another one if it has some type in the
place of every hole, and the names of the templates in the place of the templates; otherwise the two
are the same. Two types agree exactly if one type fills both.

Agreement is not transitive: what agrees with `void[]` need not agree with one another. It is so
through types without holes, which are filled in one way only.
-/

namespace ScriptCheck

mutual

/-- The first type is the second one with all holes filled and all templates named. -/
inductive Ty.Fills : Ty → Ty → Prop where
  | primitive (primitive : Primitive) : Ty.Fills (.primitive primitive) (.primitive primitive)
  | array {inside element : Ty} (place : Ty.FillsPlace inside element) :
      Ty.Fills (.array inside) (.array element)
  | set {inside element : Ty} (place : Ty.FillsPlace inside element) :
      Ty.Fills (.set inside) (.set element)
  | map {insideKey insideValue key value : Ty} (keys : Ty.FillsPlace insideKey key)
      (values : Ty.FillsPlace insideValue value) :
      Ty.Fills (.map insideKey insideValue) (.map key value)
  | function {found result : Ty} {params others : List (String × Ty)}
      (results : Ty.Fills found result) (fills : ParamsFill params others) :
      Ty.Fills (.function ⟨found, params⟩) (.function ⟨result, others⟩)
  | named (name : String) : Ty.Fills (.named name) (.named name)
  | template (template : Template) : Ty.Fills (.named template.name) (.template template)

/-- The first type stands in the place of the second one in an array, a set or a map. -/
inductive Ty.FillsPlace : Ty → Ty → Prop where
  | hole (type : Ty) : Ty.FillsPlace type .void
  | inside {type other : Ty} (fills : Ty.Fills type other) : Ty.FillsPlace type other

/-- The same parameters, with types that fill those of the second ones. -/
inductive ParamsFill : List (String × Ty) → List (String × Ty) → Prop where
  | nil : ParamsFill [] []
  | cons (name : String) {type other : Ty} {rest others : List (String × Ty)}
      (fills : Ty.Fills type other) (fillsRest : ParamsFill rest others) :
      ParamsFill ((name, type) :: rest) ((name, other) :: others)

end

mutual

/-- Whether a type has no holes. Templates count as their names. -/
def Ty.isFilled : Ty → Bool
  | .primitive _ => true
  | .array element => !element.isVoid && element.isFilled
  | .set element => !element.isVoid && element.isFilled
  | .map key value =>
    (!key.isVoid && key.isFilled) && (!value.isVoid && value.isFilled)
  | .function signature => signature.isFilled
  | .named _ => true
  | .template _ => true
  termination_by structural type => type

def Signature.isFilled : Signature → Bool
  | ⟨result, params⟩ => result.isFilled && areFilled params
  termination_by structural signature => signature

/-- Whether the types of parameters have no holes. -/
def areFilled : List (String × Ty) → Bool
  | [] => true
  | (_, type) :: rest => type.isFilled && areFilled rest
  termination_by structural params => params

end

theorem Ty.eq_void_of_isVoid {type : Ty} (empty : type.isVoid = true) : type = .void := by
  unfold Ty.isVoid at empty
  split at empty
  · rfl
  · contradiction

mutual

theorem Ty.exists_fills (type : Ty) : ∃ filled : Ty, filled.Fills type := by
  cases type with
  | primitive primitive => exact ⟨_, .primitive primitive⟩
  | array element =>
      rcases Ty.exists_fills element with ⟨filled, fills⟩
      exact ⟨_, .array (.inside fills)⟩
  | set element =>
      rcases Ty.exists_fills element with ⟨filled, fills⟩
      exact ⟨_, .set (.inside fills)⟩
  | map key value =>
      rcases Ty.exists_fills key with ⟨filledKey, fillsKey⟩
      rcases Ty.exists_fills value with ⟨filledValue, fillsValue⟩
      exact ⟨_, .map (.inside fillsKey) (.inside fillsValue)⟩
  | function signature => exact Signature.exists_fills signature
  | named name => exact ⟨_, .named name⟩
  | template template => exact ⟨_, .template template⟩
  termination_by structural type

theorem Signature.exists_fills (signature : Signature) :
    ∃ filled : Ty, filled.Fills (.function signature) := by
  rcases signature with ⟨result, params⟩
  rcases Ty.exists_fills result with ⟨filled, fills⟩
  rcases exists_paramsFill params with ⟨filledParams, fillsParams⟩
  exact ⟨_, .function fills fillsParams⟩
  termination_by structural signature

theorem exists_paramsFill (params : List (String × Ty)) :
    ∃ filled, ParamsFill filled params := by
  cases params with
  | nil => exact ⟨_, .nil⟩
  | cons param rest =>
      rcases param with ⟨name, type⟩
      rcases Ty.exists_fills type with ⟨filled, fills⟩
      rcases exists_paramsFill rest with ⟨filledRest, fillsRest⟩
      exact ⟨_, .cons name fills fillsRest⟩
  termination_by structural params

end

/-- Where two types can be filled alike, so can the places of an array, a set or a map that hold
them, and a hole can be filled with anything. -/
theorem Ty.exists_fillsPlace {first second : Ty}
    (common : first.agrees second = true →
      ∃ filled : Ty, filled.Fills first ∧ filled.Fills second)
    (agrees : (first.isVoid || second.isVoid || first.agrees second) = true) :
    ∃ filled : Ty, filled.FillsPlace first ∧ filled.FillsPlace second := by
  rw [Bool.or_eq_true, Bool.or_eq_true] at agrees
  rcases agrees with (hole | hole) | agrees
  · rcases Ty.exists_fills second with ⟨filled, fills⟩
    exact ⟨filled, Ty.eq_void_of_isVoid hole ▸ .hole filled, .inside fills⟩
  · rcases Ty.exists_fills first with ⟨filled, fills⟩
    exact ⟨filled, .inside fills, Ty.eq_void_of_isVoid hole ▸ .hole filled⟩
  · rcases common agrees with ⟨filled, fillsFirst, fillsSecond⟩
    exact ⟨filled, .inside fillsFirst, .inside fillsSecond⟩

mutual

theorem Ty.exists_common (first second : Ty) (agrees : first.agrees second = true) :
    ∃ filled : Ty, filled.Fills first ∧ filled.Fills second := by
  cases first with
  | primitive primitive =>
      cases second with
      | primitive other =>
          have same : primitive = other := by simpa [Ty.agrees] using agrees
          exact ⟨_, .primitive primitive, same ▸ .primitive primitive⟩
      | _ => simp [Ty.agrees] at agrees
  | array element =>
      cases second with
      | array other =>
          rw [Ty.agrees] at agrees
          rcases Ty.exists_fillsPlace (Ty.exists_common element other) agrees with
            ⟨filled, fills, fillsOther⟩
          exact ⟨_, .array fills, .array fillsOther⟩
      | _ => simp [Ty.agrees] at agrees
  | set element =>
      cases second with
      | set other =>
          rw [Ty.agrees] at agrees
          rcases Ty.exists_fillsPlace (Ty.exists_common element other) agrees with
            ⟨filled, fills, fillsOther⟩
          exact ⟨_, .set fills, .set fillsOther⟩
      | _ => simp [Ty.agrees] at agrees
  | map key value =>
      cases second with
      | map otherKey otherValue =>
          rw [Ty.agrees, Bool.and_eq_true] at agrees
          rcases Ty.exists_fillsPlace (Ty.exists_common key otherKey) agrees.1 with
            ⟨filledKey, fillsKey, fillsOtherKey⟩
          rcases Ty.exists_fillsPlace (Ty.exists_common value otherValue) agrees.2 with
            ⟨filledValue, fillsValue, fillsOtherValue⟩
          exact ⟨_, .map fillsKey fillsValue, .map fillsOtherKey fillsOtherValue⟩
      | _ => simp [Ty.agrees] at agrees
  | function signature =>
      cases second with
      | function other =>
          rw [Ty.agrees] at agrees
          exact Signature.exists_common signature other agrees
      | _ => simp [Ty.agrees] at agrees
  | named name =>
      cases second with
      | named other =>
          have same : name = other := by simpa [Ty.agrees] using agrees
          exact ⟨_, .named name, same ▸ .named name⟩
      | template template =>
          have same : name = template.name := by simpa [Ty.agrees] using agrees
          exact ⟨_, .named name, same ▸ .template template⟩
      | _ => simp [Ty.agrees] at agrees
  | template template =>
      cases second with
      | named other =>
          have same : template.name = other := by simpa [Ty.agrees] using agrees
          exact ⟨_, .template template, same ▸ .named template.name⟩
      | template other =>
          have same : template.name = other.name := by simpa [Ty.agrees] using agrees
          exact ⟨_, .template template, same ▸ .template other⟩
      | _ => simp [Ty.agrees] at agrees
  termination_by structural first

theorem Signature.exists_common (first second : Signature)
    (agrees : first.agrees second = true) :
    ∃ filled : Ty, filled.Fills (.function first) ∧ filled.Fills (.function second) := by
  rcases first with ⟨result, params⟩
  rcases second with ⟨otherResult, otherParams⟩
  rw [Signature.agrees, Bool.and_eq_true] at agrees
  rcases Ty.exists_common result otherResult agrees.1 with ⟨filled, fills, fillsOther⟩
  rcases exists_common_params params otherParams agrees.2 with
    ⟨filledParams, fillsParams, fillsOthers⟩
  exact ⟨_, .function fills fillsParams, .function fillsOther fillsOthers⟩
  termination_by structural first

theorem exists_common_params (first second : List (String × Ty))
    (agrees : paramsAgree first second = true) :
    ∃ filled, ParamsFill filled first ∧ ParamsFill filled second := by
  cases first with
  | nil =>
      cases second with
      | nil => exact ⟨_, .nil, .nil⟩
      | cons other others => simp [paramsAgree] at agrees
  | cons param rest =>
      rcases param with ⟨name, type⟩
      cases second with
      | nil => simp [paramsAgree] at agrees
      | cons other others =>
          rcases other with ⟨otherName, otherType⟩
          rw [paramsAgree, Bool.and_eq_true, Bool.and_eq_true, beq_iff_eq] at agrees
          rcases agrees with ⟨⟨rfl, agreesType⟩, agreesRest⟩
          rcases Ty.exists_common type otherType agreesType with ⟨filled, fills, fillsOther⟩
          rcases exists_common_params rest others agreesRest with
            ⟨filledRest, fillsRest, fillsOthers⟩
          exact ⟨_, .cons name fills fillsRest, .cons name fillsOther fillsOthers⟩
  termination_by structural first

end

/-- Places that are filled alike hold types that agree, unless one of them is a hole. -/
theorem Ty.FillsPlace.agree {filled first second : Ty} (place : filled.FillsPlace first)
    (other : filled.FillsPlace second)
    (agrees : filled.Fills first → filled.Fills second → first.agrees second = true) :
    (first.isVoid || second.isVoid || first.agrees second) = true := by
  cases place with
  | hole => simp [Ty.isVoid]
  | inside fills =>
      cases other with
      | hole => simp [Ty.isVoid]
      | inside fillsOther => simp [agrees fills fillsOther]

mutual

theorem Ty.agrees_of_common {filled second : Ty} (first : Ty) (fills : filled.Fills first)
    (fillsOther : filled.Fills second) : first.agrees second = true := by
  cases first with
  | primitive primitive =>
      cases fills
      cases fillsOther
      simp [Ty.agrees]
  | array element =>
      rcases fills with _ | place
      rcases fillsOther with _ | other
      rw [Ty.agrees]
      exact place.agree other (Ty.agrees_of_common element)
  | set element =>
      rcases fills with _ | _ | place
      rcases fillsOther with _ | _ | other
      rw [Ty.agrees]
      exact place.agree other (Ty.agrees_of_common element)
  | map key value =>
      rcases fills with _ | _ | _ | ⟨keys, values⟩
      rcases fillsOther with _ | _ | _ | ⟨otherKeys, otherValues⟩
      rw [Ty.agrees, Bool.and_eq_true]
      exact ⟨keys.agree otherKeys (Ty.agrees_of_common key),
        values.agree otherValues (Ty.agrees_of_common value)⟩
  | function signature => exact Signature.agrees_of_common signature fills fillsOther
  | named name =>
      cases fills
      cases fillsOther with
      | named => simp [Ty.agrees]
      | template => simp [Ty.agrees]
  | template template =>
      cases fills
      generalize sameName : template.name = name at fillsOther
      cases fillsOther with
      | named => simp [Ty.agrees, sameName]
      | template => simp [Ty.agrees, sameName]
  termination_by structural first

theorem Signature.agrees_of_common {filled second : Ty} (first : Signature)
    (fills : filled.Fills (.function first)) (fillsOther : filled.Fills second) :
    (Ty.function first).agrees second = true := by
  rcases first with ⟨result, params⟩
  rcases fills with _ | _ | _ | _ | ⟨results, fillsParams⟩
  rcases fillsOther with _ | _ | _ | _ | ⟨otherResults, otherParams⟩
  rw [Ty.agrees, Signature.agrees, Bool.and_eq_true]
  exact ⟨Ty.agrees_of_common result results otherResults,
    paramsAgree_of_common params fillsParams otherParams⟩
  termination_by structural first

theorem paramsAgree_of_common {filled second : List (String × Ty)} (first : List (String × Ty))
    (fills : ParamsFill filled first) (fillsOther : ParamsFill filled second) :
    paramsAgree first second = true := by
  cases first with
  | nil =>
      cases fills
      cases fillsOther
      rfl
  | cons param rest =>
      rcases param with ⟨name, type⟩
      rcases fills with _ | ⟨_, fillsType, fillsRest⟩
      rcases fillsOther with _ | ⟨_, otherType, otherRest⟩
      simp [paramsAgree, Ty.agrees_of_common type fillsType otherType,
        paramsAgree_of_common rest fillsRest otherRest]
  termination_by structural first

end

/-- Two types agree exactly if one type fills both. -/
theorem Ty.agrees_iff_exists_common (first second : Ty) :
    first.agrees second = true ↔ ∃ filled : Ty, filled.Fills first ∧ filled.Fills second :=
  ⟨Ty.exists_common first second, fun ⟨_, fills, fillsOther⟩ =>
    Ty.agrees_of_common first fills fillsOther⟩

theorem Ty.agrees_comm (first second : Ty) : first.agrees second = second.agrees first := by
  rw [Bool.eq_iff_iff, Ty.agrees_iff_exists_common, Ty.agrees_iff_exists_common]
  exact exists_congr fun _ => and_comm

/-- A place that is not a hole is filled in one way only if its type is. -/
theorem Ty.FillsPlace.unique {type first second : Ty} (place : first.FillsPlace type)
    (other : second.FillsPlace type) (filled : (!type.isVoid && type.isFilled) = true)
    (unique : type.isFilled = true → first.Fills type → second.Fills type → first = second) :
    first = second := by
  rw [Bool.and_eq_true] at filled
  cases place with
  | hole => simp [Ty.isVoid] at filled
  | inside fills =>
      cases other with
      | hole => simp [Ty.isVoid] at filled
      | inside fillsOther => exact unique filled.2 fills fillsOther

mutual

/-- A type without holes is filled in one way only. -/
theorem Ty.fills_unique {first second : Ty} (type : Ty) (filled : type.isFilled = true)
    (fills : first.Fills type) (other : second.Fills type) : first = second := by
  cases type with
  | primitive primitive =>
      cases fills
      cases other
      rfl
  | array element =>
      rcases fills with _ | place
      rcases other with _ | otherPlace
      rw [Ty.isFilled] at filled
      rw [place.unique otherPlace filled (Ty.fills_unique element)]
  | set element =>
      rcases fills with _ | _ | place
      rcases other with _ | _ | otherPlace
      rw [Ty.isFilled] at filled
      rw [place.unique otherPlace filled (Ty.fills_unique element)]
  | map key value =>
      rcases fills with _ | _ | _ | ⟨keys, values⟩
      rcases other with _ | _ | _ | ⟨otherKeys, otherValues⟩
      rw [Ty.isFilled, Bool.and_eq_true] at filled
      rw [keys.unique otherKeys filled.1 (Ty.fills_unique key),
        values.unique otherValues filled.2 (Ty.fills_unique value)]
  | function signature => exact Signature.fills_unique signature filled fills other
  | named name =>
      cases fills
      cases other
      rfl
  | template template =>
      cases fills
      cases other
      rfl
  termination_by structural type

theorem Signature.fills_unique {first second : Ty} (signature : Signature)
    (filled : signature.isFilled = true) (fills : first.Fills (.function signature))
    (other : second.Fills (.function signature)) : first = second := by
  rcases signature with ⟨result, params⟩
  rcases fills with _ | _ | _ | _ | ⟨results, fillsParams⟩
  rcases other with _ | _ | _ | _ | ⟨otherResults, otherParams⟩
  rw [Signature.isFilled, Bool.and_eq_true] at filled
  rw [Ty.fills_unique result filled.1 results otherResults,
    paramsFill_unique params filled.2 fillsParams otherParams]
  termination_by structural signature

theorem paramsFill_unique {first second : List (String × Ty)} (params : List (String × Ty))
    (filled : areFilled params = true) (fills : ParamsFill first params)
    (other : ParamsFill second params) : first = second := by
  cases params with
  | nil =>
      cases fills
      cases other
      rfl
  | cons param rest =>
      rcases param with ⟨name, type⟩
      rcases fills with _ | ⟨_, fillsType, fillsRest⟩
      rcases other with _ | ⟨_, otherType, otherRest⟩
      rw [areFilled, Bool.and_eq_true] at filled
      rw [Ty.fills_unique type filled.1 fillsType otherType,
        paramsFill_unique rest filled.2 fillsRest otherRest]
  termination_by structural params

end

/-- Types that agree with a type without holes agree with each other. -/
theorem Ty.agrees_through {first second third : Ty} (filled : second.isFilled = true)
    (agrees : first.agrees second = true) (agreesNext : second.agrees third = true) :
    first.agrees third = true := by
  rcases (Ty.agrees_iff_exists_common first second).mp agrees with ⟨one, fillsFirst, fillsOne⟩
  rcases (Ty.agrees_iff_exists_common second third).mp agreesNext with
    ⟨other, fillsOther, fillsThird⟩
  rw [Ty.fills_unique second filled fillsOther fillsOne] at fillsThird
  exact Ty.agrees_of_common first fillsFirst fillsThird

/-- Agreement means that one type fills both. It is reflexive and symmetric, and an equivalence
among the types without holes. -/
theorem agreement_is_common_filling :
    (∀ first second : Ty, first.agrees second = true ↔
      ∃ filled : Ty, filled.Fills first ∧ filled.Fills second) ∧
    (∀ type : Ty, type.agrees type = true) ∧
    (∀ first second : Ty, first.agrees second = second.agrees first) ∧
    Equivalence fun first second : { type : Ty // type.isFilled = true } =>
      first.val.agrees second.val = true := by
  refine ⟨Ty.agrees_iff_exists_common, Ty.agrees_refl, Ty.agrees_comm, ?_⟩
  exact {
    refl := fun type => Ty.agrees_refl type.val
    symm := fun {first second} agrees => (Ty.agrees_comm second.val first.val).trans agrees
    trans := fun {_ second _} agrees agreesNext =>
      Ty.agrees_through second.property agrees agreesNext }

/-- An empty array agrees with arrays that do not agree with each other. -/
example : (Ty.array .int).agrees (.array .void) = true ∧
    (Ty.array .void).agrees (.array .str) = true ∧
    (Ty.array .int).agrees (.array .str) = false :=
  ⟨rfl, rfl, rfl⟩

end ScriptCheck
