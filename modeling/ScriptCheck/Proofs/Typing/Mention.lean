import ScriptCheck.Proofs.Typing.TypeLaw
import ScriptCheck.Ty.Mention

/-!
# What types mention

A type mentions templates by their names and holds copies of templates, at any depth: in the results
and parameters of functions, and in the attributes and methods of other templates. What a typing
rule answers mentions no more than the types it was given.
-/

namespace ScriptCheck

/-- A template in a type: the name that stands for it, or a copy of it. -/
inductive Mention where
  | name (name : String)
  | template (template : Template)

/-- The name of the mentioned template. -/
def Mention.templateName : Mention → String
  | .name written => written
  | .template copy => copy.name

mutual

/-- The templates that a type mentions, at every depth. -/
def Ty.mentions : Ty → List Mention
  | .primitive _ => []
  | .array element => element.mentions
  | .set element => element.mentions
  | .map key value => key.mentions ++ value.mentions
  | .function signature => signature.mentions
  | .named name => [.name name]
  | .template template => .template template :: template.mentions
  termination_by structural type => type

def Signature.mentions : Signature → List Mention
  | ⟨result, params⟩ => result.mentions ++ mentionsIn params
  termination_by structural signature => signature

/-- The templates that the attributes and the methods of a template mention. -/
def Template.mentions : Template → List Mention
  | ⟨_, attributes, methods⟩ => mentionsIn attributes ++ mentionsInMethods methods
  termination_by structural template => template

/-- The templates that the types of parameters or attributes mention. -/
def mentionsIn : List (String × Ty) → List Mention
  | [] => []
  | (_, type) :: rest => type.mentions ++ mentionsIn rest
  termination_by structural entries => entries

def mentionsInMethods : List (String × Signature) → List Mention
  | [] => []
  | (_, signature) :: rest => signature.mentions ++ mentionsInMethods rest
  termination_by structural methods => methods

end

/-- Everything that a type mentions is allowed. -/
def Ty.Within (allowed : Mention → Prop) (type : Ty) : Prop :=
  ∀ mention ∈ type.mentions, allowed mention

def Signature.Within (allowed : Mention → Prop) (signature : Signature) : Prop :=
  ∀ mention ∈ signature.mentions, allowed mention

/-- Everything that the attributes and the methods of a template mention is allowed. -/
def Template.Within (allowed : Mention → Prop) (template : Template) : Prop :=
  ∀ mention ∈ template.mentions, allowed mention

mutual

/-- A name that has to be declared where a type is written is mentioned. -/
theorem Ty.name_mem_mentions {name : String} (type : Ty) (member : name ∈ type.referencedNames) :
    .name name ∈ type.mentions := by
  cases type with
  | primitive primitive => contradiction
  | array element => exact Ty.name_mem_mentions element member
  | set element => exact Ty.name_mem_mentions element member
  | map key value =>
      rcases List.mem_append.mp member with inKey | inValue
      · exact List.mem_append_left _ (Ty.name_mem_mentions key inKey)
      · exact List.mem_append_right _ (Ty.name_mem_mentions value inValue)
  | function signature => exact Signature.name_mem_mentions signature member
  | named written =>
      cases List.mem_singleton.mp member
      exact List.mem_singleton_self _
  | template declared => contradiction
  termination_by structural type

theorem Signature.name_mem_mentions {name : String} (signature : Signature)
    (member : name ∈ signature.referencedNames) : .name name ∈ signature.mentions := by
  rcases signature with ⟨result, params⟩
  rcases List.mem_append.mp member with inResult | inParams
  · exact List.mem_append_left _ (Ty.name_mem_mentions result inResult)
  · exact List.mem_append_right _ (name_mem_mentionsIn params inParams)
  termination_by structural signature

theorem name_mem_mentionsIn {name : String} (params : List (String × Ty))
    (member : name ∈ paramNames params) : .name name ∈ mentionsIn params := by
  cases params with
  | nil => contradiction
  | cons param rest =>
      rcases param with ⟨binder, type⟩
      rcases List.mem_append.mp member with inType | inRest
      · exact List.mem_append_left _ (Ty.name_mem_mentions type inType)
      · exact List.mem_append_right _ (name_mem_mentionsIn rest inRest)
  termination_by structural params

end

mutual

/-- A mentioned name has to be declared where a type without copies of templates is written. -/
theorem Ty.mem_referencedNames {name : String} (type : Ty)
    (noCopies : ∀ copy, .template copy ∉ type.mentions) (mentioned : .name name ∈ type.mentions) :
    name ∈ type.referencedNames := by
  cases type with
  | primitive primitive => contradiction
  | array element => exact Ty.mem_referencedNames element noCopies mentioned
  | set element => exact Ty.mem_referencedNames element noCopies mentioned
  | map key value =>
      rcases List.mem_append.mp mentioned with inKey | inValue
      · exact List.mem_append_left _ (Ty.mem_referencedNames key
          (fun copy member => noCopies copy (List.mem_append_left _ member)) inKey)
      · exact List.mem_append_right _ (Ty.mem_referencedNames value
          (fun copy member => noCopies copy (List.mem_append_right _ member)) inValue)
  | function signature => exact Signature.mem_referencedNames signature noCopies mentioned
  | named written =>
      cases List.mem_singleton.mp mentioned
      exact List.mem_singleton_self _
  | template declared => exact absurd List.mem_cons_self (noCopies declared)
  termination_by structural type

theorem Signature.mem_referencedNames {name : String} (signature : Signature)
    (noCopies : ∀ copy, .template copy ∉ signature.mentions)
    (mentioned : .name name ∈ signature.mentions) : name ∈ signature.referencedNames := by
  rcases signature with ⟨result, params⟩
  rcases List.mem_append.mp mentioned with inResult | inParams
  · exact List.mem_append_left _ (Ty.mem_referencedNames result
      (fun copy member => noCopies copy (List.mem_append_left _ member)) inResult)
  · exact List.mem_append_right _ (mem_paramNames params
      (fun copy member => noCopies copy (List.mem_append_right _ member)) inParams)
  termination_by structural signature

theorem mem_paramNames {name : String} (params : List (String × Ty))
    (noCopies : ∀ copy, .template copy ∉ mentionsIn params)
    (mentioned : .name name ∈ mentionsIn params) : name ∈ paramNames params := by
  cases params with
  | nil => contradiction
  | cons param rest =>
      rcases param with ⟨binder, type⟩
      rcases List.mem_append.mp mentioned with inType | inRest
      · exact List.mem_append_left _ (Ty.mem_referencedNames type
          (fun copy member => noCopies copy (List.mem_append_left _ member)) inType)
      · exact List.mem_append_right _ (mem_paramNames rest
          (fun copy member => noCopies copy (List.mem_append_right _ member)) inRest)
  termination_by structural params

end

section

variable {allowed weaker : Mention → Prop}

theorem Ty.Within.mono {type : Ty} (within : type.Within allowed)
    (implies : ∀ mention, allowed mention → weaker mention) : type.Within weaker :=
  fun mention member => implies mention (within mention member)

theorem mem_mentionsIn {entries : List (String × Ty)} {mention : Mention} :
    mention ∈ mentionsIn entries ↔ ∃ entry ∈ entries, mention ∈ entry.2.mentions := by
  induction entries with
  | nil => simp [mentionsIn]
  | cons entry rest ih => simp [mentionsIn, ih]

theorem mem_mentionsInMethods {methods : List (String × Signature)} {mention : Mention} :
    mention ∈ mentionsInMethods methods ↔ ∃ method ∈ methods, mention ∈ method.2.mentions := by
  induction methods with
  | nil => simp [mentionsInMethods]
  | cons method rest ih => simp [mentionsInMethods, ih]

@[simp]
theorem Ty.within_primitive (primitive : Primitive) :
    (Ty.primitive primitive).Within allowed :=
  fun _ member => absurd member List.not_mem_nil

@[simp]
theorem Ty.within_array (element : Ty) :
    (Ty.array element).Within allowed ↔ element.Within allowed :=
  Iff.rfl

@[simp]
theorem Ty.within_set (element : Ty) :
    (Ty.set element).Within allowed ↔ element.Within allowed :=
  Iff.rfl

@[simp]
theorem Ty.within_map (key value : Ty) :
    (Ty.map key value).Within allowed ↔ key.Within allowed ∧ value.Within allowed :=
  List.forall_mem_append

@[simp]
theorem Ty.within_function (signature : Signature) :
    (Ty.function signature).Within allowed ↔ signature.Within allowed :=
  Iff.rfl

@[simp]
theorem Ty.within_named (name : String) :
    (Ty.named name).Within allowed ↔ allowed (.name name) :=
  List.forall_mem_singleton

@[simp]
theorem Ty.within_template (template : Template) :
    (Ty.template template).Within allowed ↔
      allowed (.template template) ∧ template.Within allowed :=
  List.forall_mem_cons

theorem Signature.within_iff (signature : Signature) :
    signature.Within allowed ↔
      signature.result.Within allowed ∧ ∀ param ∈ signature.params, param.2.Within allowed := by
  rcases signature with ⟨result, params⟩
  constructor
  · intro within
    refine ⟨fun mention member => within mention ?_, fun param among mention member =>
      within mention ?_⟩
    · exact List.mem_append_left _ member
    · exact List.mem_append_right _ (mem_mentionsIn.mpr ⟨param, among, member⟩)
  · rintro ⟨withinResult, withinParams⟩ mention member
    rcases List.mem_append.mp member with inResult | inParams
    · exact withinResult mention inResult
    · rcases mem_mentionsIn.mp inParams with ⟨param, among, inParam⟩
      exact withinParams param among mention inParam

theorem Template.within_iff (template : Template) :
    template.Within allowed ↔
      (∀ entry ∈ template.attributes, entry.2.Within allowed) ∧
        ∀ method ∈ template.methods, method.2.Within allowed := by
  rcases template with ⟨name, attributes, methods⟩
  constructor
  · intro within
    refine ⟨fun entry among mention member => within mention ?_,
      fun method among mention member => within mention ?_⟩
    · exact List.mem_append_left _ (mem_mentionsIn.mpr ⟨entry, among, member⟩)
    · exact List.mem_append_right _ (mem_mentionsInMethods.mpr ⟨method, among, member⟩)
  · rintro ⟨withinAttributes, withinMethods⟩ mention member
    rcases List.mem_append.mp member with inAttributes | inMethods
    · rcases mem_mentionsIn.mp inAttributes with ⟨entry, among, inEntry⟩
      exact withinAttributes entry among mention inEntry
    · rcases mem_mentionsInMethods.mp inMethods with ⟨method, among, inMethod⟩
      exact withinMethods method among mention inMethod

/-- The law that types mention what is allowed. -/
def mentionLaw (allowed : Mention → Prop) : TypeLaw where
  Holds := Ty.Within allowed
  Allows _ := True
  allows _ _ := trivial
  primitive := Ty.within_primitive
  array_iff := Ty.within_array
  set _ within := (Ty.within_set _).mpr within
  of_set within := (Ty.within_set _).mp within
  map _ withinKey withinValue := (Ty.within_map _ _).mpr ⟨withinKey, withinValue⟩
  of_map within := (Ty.within_map _ _).mp within
  function_iff signature := by
    rw [Ty.within_function, Signature.within_iff]
    simp only [true_and]
  of_attribute within member :=
    ((Template.within_iff _).mp ((Ty.within_template _).mp within).2).1 _ member
  of_method within member := (Ty.within_function _).mpr
    (((Template.within_iff _).mp ((Ty.within_template _).mp within).2).2 _ member)

theorem mentionLaw_members (template : Template) :
    (mentionLaw allowed).Members template ↔ template.Within allowed := by
  rw [Template.within_iff]
  refine and_congr_right fun _ => forall₂_congr fun method _ => ?_
  exact Ty.within_function method.2

theorem Template.within_setMethod {template : Template} (index : Nat) {signature : Signature}
    (within : template.Within allowed) (withinMethod : signature.Within allowed) :
    (template.setMethod index signature).Within allowed :=
  (mentionLaw_members _).mp ((mentionLaw allowed).members_setMethod index
    ((mentionLaw_members _).mpr within) ((Ty.within_function _).mpr withinMethod))

end

end ScriptCheck
