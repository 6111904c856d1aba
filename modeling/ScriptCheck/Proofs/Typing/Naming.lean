import ScriptCheck.Ty

/-!
# Names in types

A type is shown with the names of templates and of parameters in it, and what a template has inside
stays hidden (`Ty.shownNames`). `Ty.Named` is about all names at every depth: those of templates and
parameters in the members of templates have the given property as well.
-/

namespace ScriptCheck

mutual

/-- The names in the text in which a type is shown: those of templates and of parameters. -/
def Ty.shownNames : Ty → List String
  | .primitive _ => []
  | .array element | .set element => element.shownNames
  | .map key value => value.shownNames ++ key.shownNames
  | .function signature => signature.shownNames
  | .named name => [name]
  | .template template => [template.name]
  termination_by structural type => type

def Signature.shownNames : Signature → List String
  | ⟨result, params⟩ => result.shownNames ++ shownParamNames params
  termination_by structural signature => signature

/-- The names in the text in which parameters are shown. -/
def shownParamNames : List (String × Ty) → List String
  | [] => []
  | (name, type) :: rest => type.shownNames ++ name :: shownParamNames rest
  termination_by structural params => params

end

section

variable (named : String → Prop)

mutual

/-- All names of templates and parameters in a type have a property. -/
def Ty.Named : Ty → Prop
  | .primitive _ => True
  | .array element | .set element => element.Named
  | .map key value => key.Named ∧ value.Named
  | .function signature => signature.Named
  | .named name => named name
  | .template template => template.Named
  termination_by structural type => type

def Signature.Named : Signature → Prop
  | ⟨result, params⟩ => result.Named ∧ ParamsNamed params
  termination_by structural signature => signature

def ParamsNamed : List (String × Ty) → Prop
  | [] => True
  | (name, type) :: rest => (named name ∧ type.Named) ∧ ParamsNamed rest
  termination_by structural params => params

def Template.Named : Template → Prop
  | ⟨name, attributes, methods⟩ => named name ∧ AttributesNamed attributes ∧ MethodsNamed methods
  termination_by structural template => template

/-- The names of attributes are not shown in any type, and neither are those of methods. -/
def AttributesNamed : List (String × Ty) → Prop
  | [] => True
  | (_, type) :: rest => type.Named ∧ AttributesNamed rest
  termination_by structural attributes => attributes

def MethodsNamed : List (String × Signature) → Prop
  | [] => True
  | (_, signature) :: rest => signature.Named ∧ MethodsNamed rest
  termination_by structural methods => methods

end

end

variable {named : String → Prop}

theorem paramsNamed_iff {params : List (String × Ty)} :
    ParamsNamed named params ↔ ∀ param ∈ params, named param.1 ∧ param.2.Named named := by
  induction params with
  | nil => simp [ParamsNamed]
  | cons param rest ih => rw [ParamsNamed, ih, List.forall_mem_cons]

theorem attributesNamed_iff {attributes : List (String × Ty)} :
    AttributesNamed named attributes ↔ ∀ entry ∈ attributes, entry.2.Named named := by
  induction attributes with
  | nil => simp [AttributesNamed]
  | cons entry rest ih => rw [AttributesNamed, ih, List.forall_mem_cons]

theorem methodsNamed_iff {methods : List (String × Signature)} :
    MethodsNamed named methods ↔ ∀ method ∈ methods, method.2.Named named := by
  induction methods with
  | nil => simp [MethodsNamed]
  | cons method rest ih => rw [MethodsNamed, ih, List.forall_mem_cons]

theorem Signature.named_iff {signature : Signature} :
    signature.Named named ↔ signature.result.Named named ∧
      ∀ param ∈ signature.params, named param.1 ∧ param.2.Named named := by
  rcases signature with ⟨result, params⟩
  rw [Signature.Named, paramsNamed_iff]

theorem Template.named_iff {template : Template} :
    template.Named named ↔ named template.name ∧
      (∀ entry ∈ template.attributes, entry.2.Named named) ∧
        ∀ method ∈ template.methods, method.2.Named named := by
  rcases template with ⟨name, attributes, methods⟩
  rw [Template.Named, attributesNamed_iff, methodsNamed_iff]

mutual

theorem Ty.Named.shown {type : Ty} (isNamed : type.Named named) :
    ∀ name ∈ type.shownNames, named name := by
  cases type with
  | primitive primitive => nofun
  | array element | set element =>
      rw [Ty.Named] at isNamed
      rw [Ty.shownNames]
      exact Ty.Named.shown isNamed
  | map key value =>
      rw [Ty.Named] at isNamed
      rw [Ty.shownNames, List.forall_mem_append]
      exact ⟨Ty.Named.shown isNamed.2, Ty.Named.shown isNamed.1⟩
  | function signature =>
      rw [Ty.Named] at isNamed
      rw [Ty.shownNames]
      exact Signature.Named.shown isNamed
  | named name => exact List.forall_mem_singleton.mpr isNamed
  | template template => exact List.forall_mem_singleton.mpr (Template.named_iff.mp isNamed).1
  termination_by structural type

theorem Signature.Named.shown {signature : Signature} (isNamed : signature.Named named) :
    ∀ name ∈ signature.shownNames, named name := by
  rcases signature with ⟨result, params⟩
  rw [Signature.Named] at isNamed
  rw [Signature.shownNames, List.forall_mem_append]
  exact ⟨Ty.Named.shown isNamed.1, ParamsNamed.shown isNamed.2⟩
  termination_by structural signature

theorem ParamsNamed.shown {params : List (String × Ty)} (areNamed : ParamsNamed named params) :
    ∀ name ∈ shownParamNames params, named name := by
  cases params with
  | nil => nofun
  | cons param rest =>
      rcases param with ⟨name, type⟩
      rw [ParamsNamed] at areNamed
      rw [shownParamNames, List.forall_mem_append, List.forall_mem_cons]
      exact ⟨Ty.Named.shown areNamed.1.2, areNamed.1.1, ParamsNamed.shown areNamed.2⟩
  termination_by structural params

end

end ScriptCheck
