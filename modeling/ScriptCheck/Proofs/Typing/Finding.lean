import ScriptCheck.Proofs.Typing.Keeping
import ScriptCheck.Proofs.Typing.Moment
import ScriptCheck.Proofs.Typing.Settling

/-!
# Finding types

Where `infer` is written as the whole type of a variable or the whole result of a function only, and
no function is read while it is open, every expression has a type that has been found. What is in
scope is promised: a function is bound before its own result is known, and so are the methods of a
template.

There is one case for each form of expressions and statements, and for a search as for a check. The
states in between are moments of the check, and what is said of a form is said of a run that starts
at such a moment.
-/

namespace ScriptCheck

open Checker

/-- Everything that has been found out is found. -/
structure Analysis.Found (opens : String → Prop) (analysis : Analysis) : Prop where
  types : ∀ entry ∈ analysis.types, entry.2.Found opens
  signatures : ∀ entry ∈ analysis.signatures, entry.2.Found opens

theorem Analysis.Found.anyName {opens : String → Prop} {analysis : Analysis}
    (found : analysis.Found opens) : analysis.Found anyName where
  types entry member :=
    Ty.Found.under entry.2 (found.types entry member) fun mention _ => mention.renames_anyName
  signatures entry member := Signature.Found.under entry.2 (found.signatures entry member)
    fun mention _ => mention.renames_anyName

theorem Table.mem_insert {α : Type} {table : Table α} {id : Nat} {value : α} {entry : Nat × α}
    (member : entry ∈ table.insert id value) : entry = (id, value) ∨ entry ∈ table := by
  induction table with
  | nil => exact .inl (List.mem_singleton.mp member)
  | cons first rest ih =>
      rcases first with ⟨other, old⟩
      rw [Table.insert] at member
      split at member
      · exact List.mem_cons.mp member
      · split at member
        · exact (List.mem_cons.mp member).imp_right (List.mem_cons_of_mem _)
        · rcases List.mem_cons.mp member with rfl | later
          · exact .inr List.mem_cons_self
          · exact (ih later).imp_right (List.mem_cons_of_mem _)

/-- What a part writes by itself, where results may be open under the given names. -/
def Part.WritesWhole (opens : String → Prop) : Part → Prop
  | .expr (.function params _) => foundIn opens params
  | .stmt (.varDecl _ _ _ declared _) => declared.isInfer = true ∨ declared.Found opens
  | .stmt (.fnDecl declaration) => declaration.signature.PromisedAs opens declaration.name
  | .stmt (.templateDecl _ _ attributes declared) =>
    foundIn opens attributes ∧ ∀ method ∈ declared, method.signature.PromisedAs opens method.name
  | _ => True

/-- In a part, `infer` is written as the whole type of a variable or the whole result of a function
only, and as such a result only under the given names. -/
def Part.InfersWhole (opens : String → Prop) (part : Part) : Prop :=
  ∀ inner, Relation.ReflTransGen Part.Holds part inner → inner.WritesWhole opens

/-- What is written in a function or a method. -/
structure FnDecl.InfersWhole (opens : String → Prop) (declaration : FnDecl) : Prop where
  signature : declaration.signature.PromisedAs opens declaration.name
  body : ∀ stmt ∈ declaration.body.body, (Part.stmt stmt).InfersWhole opens

section

variable {opens : String → Prop}

theorem Part.InfersWhole.held {part inner : Part} (whole : part.InfersWhole opens)
    (holds : part.Holds inner) : inner.InfersWhole opens :=
  fun last inside => whole last (.head holds inside)

theorem Part.InfersWhole.self {part : Part} (whole : part.InfersWhole opens) :
    part.WritesWhole opens :=
  whole part .refl

theorem Part.InfersWhole.function {declaration : FnDecl}
    (whole : (Part.stmt (.fnDecl declaration)).InfersWhole opens) :
    declaration.InfersWhole opens where
  signature := whole.self
  body _ member := whole.held (.functionBody member)

theorem Part.InfersWhole.method {position : Position} {name : String}
    {attributes : List (String × Ty)} {methods : List FnDecl} {method : FnDecl}
    (whole : (Part.stmt (.templateDecl position name attributes methods)).InfersWhole opens)
    (among : method ∈ methods) : method.InfersWhole opens where
  signature := whole.self.2 method among
  body _ member := whole.held (.methodBody position name attributes among member)

theorem Part.InfersWhole.template {position : Position} {name : String}
    {attributes : List (String × Ty)} {methods : List FnDecl}
    (whole : (Part.stmt (.templateDecl position name attributes methods)).InfersWhole opens) :
    (declaredTemplate name attributes methods).Promised opens := by
  refine Template.promised_iff.mpr ⟨foundIn_iff.mp whole.self.1, fun entry member => ?_⟩
  rcases List.mem_map.mp member with ⟨method, among, rfl⟩
  exact whole.self.2 method among

end

/-- What is in scope is promised, and what has been found out is found. -/
def promising (opens : String → Prop) : Keeping where
  Bound := Ty.Promised opens
  Given := Signature.Promised opens
  Records := Analysis.Found opens
  bound_template found := found

/-- A type that is found, if there is one. -/
def FoundOption (opens : String → Prop) (type : Option Ty) : Prop :=
  ∀ found ∈ type, found.Found opens

namespace Promising

open Keeping

variable {opens : String → Prop} {watched : Bool} {state : CheckState}

section Blocks

variable {template : Template}

theorem upholds_resolveFound {type : Ty} (found : type.Found opens) :
    (promising opens).Upholds watched (Ty.Found opens) (resolve type) :=
  upholds_resolve found fun _ _ bound => bound

/-- A function that is called by its name has been found. -/
theorem upholds_calledByName (name : String) (count : Nat) :
    (promising opens).Upholds watched (Signature.Found opens) (calledByName name count) := by
  refine (upholds_lookup? .everywhere name).bind fun found bound => ?_
  split
  · exact upholds_fail _
  · refine upholds_follow fun signature typed => ?_
    rcases Rule.eq_of_namedCallee typed with ⟨rfl, known⟩
    have promisedAs : signature.PromisedAs opens name := bound _ rfl
    exact promisedAs.promised.found known

theorem upholds_declaredAttribute (name : String) :
    (promising opens).Upholds watched (fun _ => True) (declaredAttribute template name) := by
  unfold declaredAttribute
  cases template.attribute? name with
  | none => exact upholds_fail _
  | some type => exact upholds_pure trivial

theorem upholds_variableType {declared actual : Ty}
    (whole : declared.isInfer = true ∨ declared.Found opens) (found : actual.Found opens) :
    (promising opens).Upholds watched (Ty.Found opens) (variableType declared actual) := by
  unfold variableType
  split
  · exact upholds_pure found
  · rename_i known
    exact (upholds_mentions _).bind fun _ _ => upholds_resolveFound (whole.resolve_left known)

theorem upholds_declareVariable (id : Nat) (name : String) {declared actual : Ty}
    (whole : declared.isInfer = true ∨ declared.Found opens) (found : actual.Found opens) :
    (promising opens).Upholds watched (fun _ => True)
      (declareVariable id name declared actual) := by
  refine (upholds_requireUnbound name).bind fun _ _ => ?_
  refine (upholds_variableType whole found).bind fun type foundType => ?_
  refine (upholds_check _).bind fun _ _ => (upholds_check _).bind fun _ _ => ?_
  refine (upholds_define name (foundType.promised name)).bind fun _ _ => ?_
  refine upholds_modifyAnalysis fun analysis records => ⟨fun entry member => ?_, records.signatures⟩
  rcases Table.mem_insert member with rfl | old
  · exact foundType
  · exact records.types entry old

theorem upholds_addFunction (id : Nat) {signature : Signature} (found : signature.Found opens) :
    (promising opens).Upholds watched (fun _ => True)
      (modifyAnalysis (·.addFunction id signature)) := by
  refine upholds_modifyAnalysis fun analysis records => ⟨records.types, fun entry member => ?_⟩
  rcases Table.mem_insert member with rfl | old
  · exact found
  · exact records.signatures entry old

/-- A method is updated where it is open in the template, or with a result that has been found. -/
theorem upholds_updateMethod (index : Nat) {signature : Signature}
    (promised : template.Promised opens) (promisedMethod : signature.Promised opens)
    (opened : signature.result.isInfer = true →
      ∀ method ∈ template.methods[index]?, method.2.result.isInfer = true) :
    (promising opens).Upholds watched (Template.Promised opens)
      (updateMethod template index signature) := by
  have updated := promised.setMethod index promisedMethod opened
  exact (upholds_update template.name updated).bind fun _ _ => upholds_pure updated

end Blocks

section Functions

variable {signature : Signature} {template : Option Template} {body : Block}

theorem ends_enterFunction (promised : signature.Promised opens)
    (members : ∀ declared ∈ template, declared.Promised opens)
    (obeyed : (promising opens).Obeyed watched state) :
    (promising opens).Ends true (fun _ => True) (enterFunction signature template state) := by
  refine .enterFunction obeyed promised ((upholds_defineMembers ?_ ?_).bind fun _ _ =>
    upholds_defineResolved fun entry member => ?_)
  · exact fun declared among entry member =>
      ((Template.promised_iff.mp (members declared among)).1 entry member).promised entry.1
  · exact fun declared among => (Template.promised_iff.mp (members declared among)).2
  · exact ((Signature.promised_iff.mp promised).2 entry member).promised entry.1

/-- A function that is checked is found. -/
theorem ends_checkFunction (promised : signature.Promised opens)
    (members : ∀ declared ∈ template, declared.Promised opens)
    (obeyed : (promising opens).Obeyed watched state)
    (closed : Moment.Closed opens (.check (.function signature template body) state))
    (ends : ∀ inside, Moment.Closed opens (.check (.stmts body.body) inside) →
      (promising opens).Obeyed true inside →
        (promising opens).Ends true (fun _ => True) (checkBody body inside)) :
    (promising opens).Ends watched (Signature.Found opens)
      (inFunction signature template (checkBody body) state) := by
  refine Ends.inFunction obeyed (ends_enterFunction promised members obeyed) (keeps_checkBody body)
    (fun inside ran obeyedInside => ?_) fun given promisedGiven => promisedGiven.settled
  exact ends inside (closed.next (.visit (.body body [] ran))) obeyedInside

/-- A function that is prepared is promised. -/
theorem ends_prepare (promised : signature.Promised opens)
    (members : ∀ declared ∈ template, declared.Promised opens)
    (obeyed : (promising opens).Obeyed watched state)
    (closed : ∀ inside, Seeks signature template body state inside →
      Moment.Closed opens (.search body.body inside))
    (ends : ∀ inside, Moment.Closed opens (.search body.body inside) →
      (promising opens).Obeyed false inside →
        (promising opens).Ends false (FoundOption opens) (searchBody body inside)) :
    (promising opens).Ends watched (Signature.Promised opens)
      (inferResult signature template body.firstReturn? (searchBody body) state) := by
  refine Ends.inferResult obeyed (ends_enterFunction promised members obeyed)
    (fun inside isOpen returns ran obeyedInside => ?_) promised
    (promised.withResult Ty.found_void) fun result found => promised.withFound found
  exact ends inside (closed inside ⟨isOpen, returns, ran⟩) obeyedInside

theorem promised_preparedMethod {template : Template} (index : Nat) {method : FnDecl}
    (promised : template.Promised opens) (whole : method.InfersWhole opens) :
    (template.preparedMethod index method).Promised opens := by
  unfold Template.preparedMethod
  cases found : template.methods[index]? with
  | none => exact whole.signature.promised
  | some prepared =>
      exact ((Template.promised_iff.mp promised).2 prepared (List.mem_of_getElem? found)).promised

/-- A function is bound to its name as it has been prepared. -/
theorem promisedAs_prepared {name : String} {prepared : Signature}
    (declared : signature.PromisedAs opens name) (settles : signature.Settles prepared)
    (promised : prepared.Promised opens) : prepared.PromisedAs opens name :=
  ⟨promised, fun isOpen => declared.named (settles.isOpen isOpen)⟩

theorem promised_no_template (declared : Template) (member : declared ∈ (none : Option Template)) :
    declared.Promised opens :=
  nomatch member

end Functions

end Promising

end ScriptCheck
