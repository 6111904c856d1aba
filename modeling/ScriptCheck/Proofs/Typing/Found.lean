import ScriptCheck.Proofs.Typing.Mention

/-!
# Types that have been found

A type is found where no part of it is still to be found. The results of the methods in a template
are let off, since a template can be looked up before its methods are checked. A function or a
method whose own result is open, and everything else about it is found, is promised: its result is
found by the time that its declaration has been checked.

The names under which a result may be open are left to be chosen. A function that may be bound to a
name is promised as what this name stands for, and so are the methods of a template.
-/

namespace ScriptCheck

section

variable (opens : String → Prop)

mutual

/-- No part of the type is still to be found, apart from the results of methods with the given
names. -/
def Ty.Found : Ty → Prop
  | .primitive primitive => primitive ≠ .infer
  | .array element => element.Found
  | .set element => element.Found
  | .map key value => key.Found ∧ value.Found
  | .function signature => signature.Found
  | .named _ => True
  | .template template => template.Promised
  termination_by structural type => type

def Signature.Found : Signature → Prop
  | ⟨result, params⟩ => result.Found ∧ foundIn params
  termination_by structural signature => signature

/-- Nothing but the result may still have to be found. -/
def Signature.Promised : Signature → Prop
  | ⟨result, params⟩ => (result.isInfer = true ∨ result.Found) ∧ foundIn params
  termination_by structural signature => signature

/-- Nothing but the results of methods with the given names may still have to be found. -/
def Template.Promised : Template → Prop
  | ⟨_, attributes, methods⟩ => foundIn attributes ∧ promisedIn methods
  termination_by structural template => template

/-- The types of all parameters or attributes are found. -/
def foundIn : List (String × Ty) → Prop
  | [] => True
  | (_, type) :: rest => type.Found ∧ foundIn rest
  termination_by structural entries => entries

def promisedIn : List (String × Signature) → Prop
  | [] => True
  | (name, signature) :: rest =>
    (signature.Promised ∧ (signature.result.isInfer = true → opens name)) ∧ promisedIn rest
  termination_by structural methods => methods

end

/-- A function may be bound to a name: its result may still be open if the name is among the given
ones. -/
structure Signature.PromisedAs (name : String) (signature : Signature) : Prop where
  promised : signature.Promised opens
  named : signature.result.isInfer = true → opens name

/-- What a name may be bound to. -/
def Ty.Promised (name : String) : Ty → Prop
  | .function signature => signature.PromisedAs opens name
  | type => type.Found opens

end

/-- A result may be open under every name. -/
def anyName (_ : String) : Prop :=
  True

section Parts

variable {opens : String → Prop} {name : String} {type : Ty} {signature : Signature}
variable {template : Template}

theorem foundIn_iff {entries : List (String × Ty)} :
    foundIn opens entries ↔ ∀ entry ∈ entries, entry.2.Found opens := by
  induction entries with
  | nil => exact ⟨fun _ => nofun, fun _ => trivial⟩
  | cons entry rest ih =>
      rw [List.forall_mem_cons, ← ih]
      rfl

theorem Signature.promisedAs_iff : signature.PromisedAs opens name ↔
    signature.Promised opens ∧ (signature.result.isInfer = true → opens name) :=
  ⟨fun promised => ⟨promised.promised, promised.named⟩, fun promised => ⟨promised.1, promised.2⟩⟩

theorem promisedIn_iff {methods : List (String × Signature)} :
    promisedIn opens methods ↔ ∀ method ∈ methods, method.2.PromisedAs opens method.1 := by
  induction methods with
  | nil => exact ⟨fun _ => nofun, fun _ => trivial⟩
  | cons method rest ih =>
      rw [List.forall_mem_cons, ← ih]
      exact and_congr_left' Signature.promisedAs_iff.symm

theorem Signature.found_iff : signature.Found opens ↔
    signature.result.Found opens ∧ ∀ param ∈ signature.params, param.2.Found opens := by
  cases signature with
  | mk result params =>
      rw [← foundIn_iff]
      rfl

theorem Signature.promised_iff : signature.Promised opens ↔
    (signature.result.isInfer = true ∨ signature.result.Found opens) ∧
      ∀ param ∈ signature.params, param.2.Found opens := by
  cases signature with
  | mk result params =>
      rw [← foundIn_iff]
      rfl

theorem Template.promised_iff : template.Promised opens ↔
    (∀ entry ∈ template.attributes, entry.2.Found opens) ∧
      ∀ method ∈ template.methods, method.2.PromisedAs opens method.1 := by
  cases template with
  | mk name attributes methods =>
      rw [← foundIn_iff, ← promisedIn_iff]
      rfl

theorem Signature.Found.promised (found : signature.Found opens) : signature.Promised opens :=
  promised_iff.mpr ((found_iff.mp found).imp .inr id)

theorem Signature.Found.isInfer_eq_false (found : signature.Found opens) :
    signature.result.isInfer = false := by
  refine eq_false_of_ne_true fun isOpen => ?_
  have foundResult := (found_iff.mp found).1
  rw [Ty.eq_infer_of_isInfer isOpen] at foundResult
  exact foundResult rfl

/-- A function that is found may be bound to any name. -/
theorem Signature.Found.promisedAs (found : signature.Found opens) (name : String) :
    signature.PromisedAs opens name :=
  ⟨found.promised, by simp [found.isInfer_eq_false]⟩

theorem Ty.Found.promised (found : type.Found opens) (name : String) :
    type.Promised opens name := by
  cases type with
  | function signature => exact Signature.Found.promisedAs found name
  | _ => exact found

/-- A promised function is found unless its result is open. -/
theorem Signature.Promised.found (promised : signature.Promised opens)
    (known : signature.result.isInfer = false) : signature.Found opens := by
  rcases promised_iff.mp promised with ⟨result, params⟩
  exact found_iff.mpr ⟨result.resolve_left (by simp [known]), params⟩

theorem Ty.Promised.found (promised : type.Promised opens name)
    (known : ∀ signature, type = .function signature → opens name →
      signature.result.isInfer = false) : type.Found opens := by
  cases type with
  | function signature =>
      have promisedAs : signature.PromisedAs opens name := promised
      refine promisedAs.promised.found (eq_false_of_ne_true fun isOpen => ?_)
      simp [known signature rfl (promisedAs.named isOpen)] at isOpen
  | _ => exact promised

theorem Signature.Promised.withResult {result : Ty} (promised : signature.Promised opens)
    (found : result.Found opens) : (signature.withResult result).Promised opens :=
  promised_iff.mpr ⟨.inr found, (promised_iff.mp promised).2⟩

theorem Ty.found_void : Ty.void.Found opens :=
  nofun

/-- A function whose check is over has a result. -/
theorem Signature.Promised.settled (promised : signature.Promised opens) :
    signature.settled.Found opens := by
  unfold Signature.settled
  split
  · exact found_iff.mpr ⟨Ty.found_void, (promised_iff.mp promised).2⟩
  · rename_i known
    exact promised.found (eq_false_of_ne_true known)

theorem Signature.Promised.withFound {result : Option Ty} (promised : signature.Promised opens)
    (found : ∀ type ∈ result, type.Found opens) : (signature.withFound result).Promised opens := by
  cases result with
  | none => exact promised
  | some type =>
      rw [Signature.withFound]
      split
      · exact promised
      · exact promised.withResult (found type rfl)

/-- A method is set where the one before it was open, or was not and the new one is not either. -/
theorem Template.Promised.setMethod (index : Nat) (promised : template.Promised opens)
    (promisedMethod : signature.Promised opens)
    (opened : signature.result.isInfer = true →
      ∀ method ∈ template.methods[index]?, method.2.result.isInfer = true) :
    (template.setMethod index signature).Promised opens := by
  rw [Template.promised_iff] at promised ⊢
  refine ⟨promised.1, fun method member => ?_⟩
  rcases List.mem_iff_getElem.mp member with ⟨place, bound, rfl⟩
  rw [Template.setMethod, List.length_modify] at bound
  simp only [Template.setMethod, List.getElem_modify]
  have before := promised.2 template.methods[place] (List.getElem_mem bound)
  split
  · rename_i here
    subst here
    exact ⟨promisedMethod, fun isOpen =>
      before.named (opened isOpen _ (List.getElem?_eq_getElem bound))⟩
  · exact before

end Parts

section Names

variable {opens others : String → Prop}

/-- The methods of a template that are open under a name of the first kind have names of the second
kind. -/
def Mention.Renames (opens others : String → Prop) : Mention → Prop
  | .name _ => True
  | .template copy => ∀ method ∈ copy.methods, method.2.result.isInfer = true →
      opens method.1 → others method.1

theorem Mention.renames_anyName (mention : Mention) : mention.Renames opens anyName := by
  cases mention with
  | name name => trivial
  | template copy => exact fun _ _ _ _ => trivial

mutual

/-- A type is found under other names as well, where these are the names of all open methods in
it. -/
theorem Ty.Found.under (type : Ty) (found : type.Found opens)
    (renames : type.Within (Mention.Renames opens others)) : type.Found others := by
  cases type with
  | primitive primitive => exact found
  | array element => exact Ty.Found.under element found renames
  | set element => exact Ty.Found.under element found renames
  | map key value =>
      rcases List.forall_mem_append.mp renames with ⟨renamesKey, renamesValue⟩
      exact ⟨Ty.Found.under key found.1 renamesKey, Ty.Found.under value found.2 renamesValue⟩
  | function signature => exact Signature.Found.under signature found renames
  | named name => exact found
  | template template =>
      rcases List.forall_mem_cons.mp renames with ⟨renamesHere, renamesInside⟩
      exact Template.Promised.under template found renamesHere renamesInside
  termination_by structural type

theorem Signature.Found.under (signature : Signature) (found : signature.Found opens)
    (renames : signature.Within (Mention.Renames opens others)) : signature.Found others := by
  rcases signature with ⟨result, params⟩
  rcases List.forall_mem_append.mp renames with ⟨renamesResult, renamesParams⟩
  exact ⟨Ty.Found.under result found.1 renamesResult, foundIn_under params found.2 renamesParams⟩
  termination_by structural signature

theorem Signature.Promised.under (signature : Signature) (promised : signature.Promised opens)
    (renames : signature.Within (Mention.Renames opens others)) : signature.Promised others := by
  rcases signature with ⟨result, params⟩
  rcases List.forall_mem_append.mp renames with ⟨renamesResult, renamesParams⟩
  refine ⟨promised.1.imp id fun found => ?_, foundIn_under params promised.2 renamesParams⟩
  exact Ty.Found.under result found renamesResult
  termination_by structural signature

theorem Template.Promised.under (template : Template) (promised : template.Promised opens)
    (renames : Mention.Renames opens others (.template template))
    (renamesInside : template.Within (Mention.Renames opens others)) :
    template.Promised others := by
  rcases template with ⟨name, attributes, methods⟩
  rcases List.forall_mem_append.mp renamesInside with ⟨renamesAttributes, renamesMethods⟩
  exact ⟨foundIn_under attributes promised.1 renamesAttributes,
    promisedIn_under methods promised.2 renames renamesMethods⟩
  termination_by structural template

theorem foundIn_under (entries : List (String × Ty)) (found : foundIn opens entries)
    (renames : ∀ mention ∈ mentionsIn entries, mention.Renames opens others) :
    foundIn others entries := by
  cases entries with
  | nil => trivial
  | cons entry rest =>
      rcases entry with ⟨name, type⟩
      rcases List.forall_mem_append.mp renames with ⟨renamesFirst, renamesRest⟩
      exact ⟨Ty.Found.under type found.1 renamesFirst, foundIn_under rest found.2 renamesRest⟩
  termination_by structural entries

theorem promisedIn_under (methods : List (String × Signature))
    (promised : promisedIn opens methods)
    (renamesHere : ∀ method ∈ methods, method.2.result.isInfer = true → opens method.1 →
      others method.1)
    (renames : ∀ mention ∈ mentionsInMethods methods, mention.Renames opens others) :
    promisedIn others methods := by
  cases methods with
  | nil => trivial
  | cons method rest =>
      rcases method with ⟨name, signature⟩
      rcases List.forall_mem_cons.mp renamesHere with ⟨renamesThis, renamesLater⟩
      rcases List.forall_mem_append.mp renames with ⟨renamesFirst, renamesRest⟩
      rcases promised with ⟨⟨promisedFirst, named⟩, promisedRest⟩
      exact ⟨⟨Signature.Promised.under signature promisedFirst renamesFirst,
        fun isOpen => renamesThis isOpen (named isOpen)⟩,
        promisedIn_under rest promisedRest renamesLater renamesRest⟩
  termination_by structural methods

end

end Names

section Rules

variable {opens : String → Prop} {name : String} {type : Ty} {signature : Signature}

theorem Ty.Found.unary {operator : UnaryOp} {operand : Ty} (found : operand.Found opens)
    (typed : Rule.unary operator operand = .ok type) : type.Found opens := by
  rw [Rule.eq_of_unary typed]
  exact found

theorem Ty.Found.binary {operator : BinaryOp} {left right : Ty} (found : left.Found opens)
    (typed : Rule.binary operator left right = .ok type) : type.Found opens := by
  rcases Rule.eq_of_binary typed with rfl | rfl
  · exact found
  · exact nofun

theorem Ty.Found.index {base position : Ty} (found : base.Found opens)
    (typed : Rule.index base position = .ok type) : type.Found opens := by
  rw [Rule.eq_of_index typed] at found
  exact found

/-- The fixed methods of sets and maps have found results where the elements, keys and values are
found. -/
theorem Ty.Found.method {object : Ty} {count : Nat} (found : object.Found opens)
    (typed : Rule.method object name count = .ok signature) : signature.result.Found opens := by
  rcases Rule.method?_of_method typed with ⟨declared, known⟩
  cases object with
  | set element =>
      have foundElement : element.Found opens := found
      simp only [Ty.method?, Ty.setMethod?] at declared
      split at declared <;> simp only [Option.some.injEq, reduceCtorEq] at declared <;>
        simp [← declared, Ty.Found, foundElement]
  | map key value =>
      have foundParts : key.Found opens ∧ value.Found opens := found
      simp only [Ty.method?, Ty.mapMethod?] at declared
      split at declared <;> simp only [Option.some.injEq, reduceCtorEq] at declared <;>
        simp [← declared, Ty.Found, foundParts]
  | template template =>
      have promised := (Template.promised_iff.mp found).2 _ (mem_of_lookup declared)
      exact (Signature.found_iff.mp (promised.promised.found known)).1
  | _ => contradiction

/-- A member of a template is promised. -/
theorem Ty.Found.member {object : Ty} (found : object.Found opens)
    (declared : object.member? name = some type) : type.Promised opens name := by
  cases object with
  | template template =>
      have promised := Template.promised_iff.mp found
      rcases Option.or_eq_some_iff.mp declared with declared | ⟨_, method⟩
      · exact (promised.1 _ (mem_of_lookup declared)).promised name
      · rcases Option.map_eq_some_iff.mp method with ⟨signature, found, rfl⟩
        exact promised.2 _ (mem_of_lookup found)
  | _ => contradiction

end Rules

end ScriptCheck
