import ScriptCheck.Proofs.Typing.Answers

/-!
# Laws of types

The typing rules make new types out of those that they are given: they take types apart, and put
arrays, sets and maps together, the latter two with hashable elements and keys only. A property of
types that goes along with this is a law, and the rules only answer with types for which the law
holds, where it holds for the types they are given. The fixed methods of sets and maps are no way
around a law either. A law may restrict the names of parameters as well, as long as it leaves those
of the fixed methods.
-/

namespace ScriptCheck

/-- A property of types that passes to the types inside, and back where sets and maps are hashable.
A template may have more to it than the types of its members. -/
structure TypeLaw where
  Holds : Ty → Prop
  Allows : String → Prop
  allows : ∀ name ∈ ["element", "key", "value"], Allows name
  primitive (primitive : Primitive) : Holds (.primitive primitive)
  array_iff (element : Ty) : Holds (.array element) ↔ Holds element
  set {element : Ty} (hashable : element.isHashable = true) (holds : Holds element) :
    Holds (.set element)
  of_set {element : Ty} (holds : Holds (.set element)) : Holds element
  map {key value : Ty} (hashable : key.isHashable = true) (holdsKey : Holds key)
    (holdsValue : Holds value) : Holds (.map key value)
  of_map {key value : Ty} (holds : Holds (.map key value)) : Holds key ∧ Holds value
  function_iff (signature : Signature) : Holds (.function signature) ↔
    Holds signature.result ∧ ∀ param ∈ signature.params, Allows param.1 ∧ Holds param.2
  of_attribute {template : Template} {entry : String × Ty} (holds : Holds (.template template))
    (member : entry ∈ template.attributes) : Holds entry.2
  of_method {template : Template} {method : String × Signature}
    (holds : Holds (.template template)) (member : method ∈ template.methods) :
    Holds (.function method.2)

namespace TypeLaw

variable (law : TypeLaw)

/-- A law holds for the attributes and the methods of a template. -/
def Members (template : Template) : Prop :=
  (∀ entry ∈ template.attributes, law.Holds entry.2) ∧
    ∀ method ∈ template.methods, law.Holds (.function method.2)

/-- Two laws at once. -/
def both (first second : TypeLaw) : TypeLaw where
  Holds type := first.Holds type ∧ second.Holds type
  Allows name := first.Allows name ∧ second.Allows name
  allows name member := ⟨first.allows name member, second.allows name member⟩
  primitive primitive := ⟨first.primitive primitive, second.primitive primitive⟩
  array_iff element := and_congr (first.array_iff element) (second.array_iff element)
  set hashable holds := holds.imp (first.set hashable) (second.set hashable)
  of_set holds := holds.imp first.of_set second.of_set
  map hashable holdsKey holdsValue :=
    ⟨first.map hashable holdsKey.1 holdsValue.1, second.map hashable holdsKey.2 holdsValue.2⟩
  of_map holds := and_and_and_comm.mp (holds.imp first.of_map second.of_map)
  function_iff signature := by
    rw [first.function_iff, second.function_iff, and_and_and_comm]
    refine and_congr_right fun _ => ⟨fun holds param member => ?_, fun holds => ⟨?_, ?_⟩⟩
    · exact and_and_and_comm.mp ⟨holds.1 param member, holds.2 param member⟩
    · exact fun param member => (holds param member).imp And.left And.left
    · exact fun param member => (holds param member).imp And.right And.right
  of_attribute holds member :=
    ⟨first.of_attribute holds.1 member, second.of_attribute holds.2 member⟩
  of_method holds member := ⟨first.of_method holds.1 member, second.of_method holds.2 member⟩

section Parts

variable {signature : Signature} {template : Template} {name : String}

theorem members (holds : law.Holds (.template template)) : law.Members template :=
  ⟨fun _ => law.of_attribute holds, fun _ => law.of_method holds⟩

theorem holds_withResult {result : Ty} (holds : law.Holds (.function signature))
    (holdsResult : law.Holds result) : law.Holds (.function (signature.withResult result)) :=
  (law.function_iff _).mpr ⟨holdsResult, ((law.function_iff _).mp holds).2⟩

theorem holds_settled (holds : law.Holds (.function signature)) :
    law.Holds (.function signature.settled) := by
  unfold Signature.settled
  split
  · exact law.holds_withResult holds (law.primitive _)
  · exact holds

theorem holds_withFound {found : Option Ty} (holds : law.Holds (.function signature))
    (holdsFound : ∀ type ∈ found, law.Holds type) :
    law.Holds (.function (signature.withFound found)) := by
  cases found with
  | none => exact holds
  | some type =>
      rw [Signature.withFound]
      split
      · exact holds
      · exact law.holds_withResult holds (holdsFound type rfl)

theorem members_setMethod (index : Nat) (members : law.Members template)
    (holds : law.Holds (.function signature)) :
    law.Members (template.setMethod index signature) := by
  refine ⟨members.1, fun method member => ?_⟩
  rcases List.mem_iff_getElem.mp member with ⟨place, bound, rfl⟩
  simp only [Template.setMethod, List.getElem_modify]
  split
  · exact holds
  · exact members.2 _ (List.getElem_mem _)

theorem holds_attribute? {type : Ty} (members : law.Members template)
    (found : template.attribute? name = some type) : law.Holds type :=
  members.1 _ (mem_of_lookup found)

theorem holds_method? (members : law.Members template)
    (found : template.method? name = some signature) : law.Holds (.function signature) :=
  members.2 _ (mem_of_lookup found)

end Parts

section Rules

theorem holds_unary {operator : UnaryOp} {operand type : Ty} (holds : law.Holds operand)
    (typed : Rule.unary operator operand = .ok type) : law.Holds type := by
  rw [Rule.eq_of_unary typed]
  exact holds

theorem holds_binary {operator : BinaryOp} {left right type : Ty} (holds : law.Holds left)
    (typed : Rule.binary operator left right = .ok type) : law.Holds type := by
  rcases Rule.eq_of_binary typed with rfl | rfl
  · exact holds
  · exact law.primitive _

theorem holds_assignment {target value type : Ty} (holds : law.Holds target)
    (typed : Rule.assignment target value = .ok type) : law.Holds type := by
  rw [Rule.eq_of_assignment typed]
  exact holds

theorem holds_index {base position type : Ty} (holds : law.Holds base)
    (typed : Rule.index base position = .ok type) : law.Holds type := by
  rw [Rule.eq_of_index typed] at holds
  exact (law.array_iff type).mp holds

theorem holds_iterated {type element : Ty} (holds : law.Holds type)
    (typed : Rule.iterated type = .ok element) : law.Holds element := by
  rw [Rule.eq_of_iterated typed] at holds
  exact (law.array_iff element).mp holds

theorem holds_member {object type : Ty} {name : String} (holds : law.Holds object)
    (typed : Rule.member object name = .ok type) : law.Holds type := by
  have declared := Rule.member?_of_member typed
  cases object with
  | template template =>
      have members := law.members holds
      rcases Option.or_eq_some_iff.mp declared with declared | ⟨_, method⟩
      · exact law.holds_attribute? members declared
      · rcases Option.map_eq_some_iff.mp method with ⟨signature, found, rfl⟩
        exact law.holds_method? members found
  | _ => contradiction

end Rules

end TypeLaw

namespace Rule

/-- The elements of a set are hashable, also where the type of no elements is. -/
theorem isHashable_of_hashableElement {empty : Bool} {type : Ty}
    (hashableEmpty : empty = true → type.isHashable = true)
    (typed : hashableElement empty type = .ok ()) : type.isHashable = true := by
  unfold hashableElement at typed
  split at typed
  · rename_i either
    rcases Bool.or_eq_true_iff.mp either with isEmpty | hashable
    · exact hashableEmpty isEmpty
    · exact hashable
  · contradiction

theorem isHashable_of_hashableKey {type : Ty} (typed : hashableKey type = .ok ()) :
    type.isHashable = true := by
  unfold hashableKey at typed
  split at typed
  · assumption
  · contradiction

end Rule

namespace TypeLaw

variable (law : TypeLaw)

section Calls

variable {found : Signature} {name : String} {count : Nat}

theorem holds_namedCallee {type : Ty} (holds : law.Holds type)
    (typed : Rule.namedCallee name type count = .ok found) : law.Holds (.function found) := by
  rw [← (Rule.eq_of_namedCallee typed).1]
  exact holds

theorem holds_callee {type : Ty} (holds : law.Holds type)
    (typed : Rule.callee type count = .ok found) : law.Holds (.function found) := by
  rw [← Rule.eq_of_callee typed]
  exact holds

/-- The methods of sets have to do with the set and its elements only. -/
theorem holds_setMethod? {element : Ty} (holds : law.Holds (.set element))
    (declared : Ty.setMethod? element name = some found) : law.Holds (.function found) := by
  have holdsElement := law.of_set holds
  have allowsElement := law.allows "element" List.mem_cons_self
  unfold Ty.setMethod? at declared
  split at declared <;> simp only [Option.some.injEq, reduceCtorEq] at declared <;>
    simp [← declared, law.function_iff, law.primitive, allowsElement, holds, holdsElement]

/-- The methods of maps have to do with the map, its keys and its values only. -/
theorem holds_mapMethod? {key value : Ty} (holds : law.Holds (.map key value))
    (declared : Ty.mapMethod? key value name = some found) : law.Holds (.function found) := by
  rcases law.of_map holds with ⟨holdsKey, holdsValue⟩
  have allowsKey := law.allows "key" (by simp)
  have allowsValue := law.allows "value" (by simp)
  unfold Ty.mapMethod? at declared
  split at declared <;> simp only [Option.some.injEq, reduceCtorEq] at declared <;>
    simp [← declared, law.function_iff, law.primitive, allowsKey, allowsValue, holds, holdsKey,
      holdsValue]

theorem holds_method {object : Ty} (holds : law.Holds object)
    (typed : Rule.method object name count = .ok found) : law.Holds (.function found) := by
  have declared := (Rule.method?_of_method typed).1
  cases object with
  | set element => exact law.holds_setMethod? holds declared
  | map key value => exact law.holds_mapMethod? holds declared
  | template template => exact law.holds_method? (law.members holds) declared
  | _ => contradiction

end Calls

end TypeLaw

end ScriptCheck
