import Mathlib
import ScriptCheck.Proofs.Grammar.MarkedForms
import ScriptCheck.Proofs.Typing.Mention
import ScriptCheck.Proofs.Typing.Upholding

/-!
# Hashable elements and keys

The elements of sets and the keys of maps have to be hashable, at every depth of a type. Literals of
sets and maps are checked for this, and so are the types of variables, attributes and declared
functions. The signatures of methods and the parameters of function literals are not checked, and
what is written there spreads: as the member of a template, as the parameter of a function, and as
the result of one that returns such a function. The check does not look into templates either,
but no source text writes one inside of a type. There is no other source of elements and keys that
are not hashable.

So it can be told where they are found in what is recorded. In the type of a variable, they only
stand in the methods of a template, and in the signature of a declared function only in a result
that has been found. The signatures of methods are the third place.
-/

namespace ScriptCheck

open Checker

mutual

/-- The types in a type, at every depth and with the type itself. -/
def Ty.nested : Ty → List Ty
  | .primitive primitive => [.primitive primitive]
  | .array element => .array element :: element.nested
  | .set element => .set element :: element.nested
  | .map key value => .map key value :: (key.nested ++ value.nested)
  | .function signature => .function signature :: signature.nested
  | .named name => [.named name]
  | .template template => .template template :: template.nested
  termination_by structural type => type

def Signature.nested : Signature → List Ty
  | ⟨result, params⟩ => result.nested ++ nestedIn params
  termination_by structural signature => signature

/-- The types in the attributes and the methods of a template. -/
def Template.nested : Template → List Ty
  | ⟨_, attributes, methods⟩ => nestedIn attributes ++ nestedInMethods methods
  termination_by structural template => template

/-- The types in the types of parameters or attributes. -/
def nestedIn : List (String × Ty) → List Ty
  | [] => []
  | (_, type) :: rest => type.nested ++ nestedIn rest
  termination_by structural entries => entries

def nestedInMethods : List (String × Signature) → List Ty
  | [] => []
  | (_, signature) :: rest => signature.nested ++ nestedInMethods rest
  termination_by structural methods => methods

end

/-- Whether a type is a set whose elements, or a map whose keys, are not hashable. -/
def Ty.isIllKeyed : Ty → Bool
  | .set element => !element.isHashable
  | .map key _ => !key.isHashable
  | _ => false

/-- All sets and maps in a type have hashable elements and keys, apart from the excused ones. -/
def Ty.KeyedUnless (excused : Ty → Prop) (type : Ty) : Prop :=
  ∀ inner ∈ type.nested, inner.isIllKeyed = true → excused inner

def Signature.KeyedUnless (excused : Ty → Prop) (signature : Signature) : Prop :=
  ∀ inner ∈ signature.nested, inner.isIllKeyed = true → excused inner

section

variable {excused : Ty → Prop}

theorem Ty.KeyedUnless.mono {also : Ty → Prop} {type : Ty} (keyed : type.KeyedUnless excused)
    (implies : ∀ inner, excused inner → also inner) : type.KeyedUnless also :=
  fun inner inside isIllKeyed => implies inner (keyed inner inside isIllKeyed)

theorem mem_nestedIn {entries : List (String × Ty)} {inner : Ty} :
    inner ∈ nestedIn entries ↔ ∃ entry ∈ entries, inner ∈ entry.2.nested := by
  induction entries with
  | nil => simp [nestedIn]
  | cons entry rest ih => simp [nestedIn, ih]

theorem mem_nestedInMethods {methods : List (String × Signature)} {inner : Ty} :
    inner ∈ nestedInMethods methods ↔ ∃ method ∈ methods, inner ∈ method.2.nested := by
  induction methods with
  | nil => simp [nestedInMethods]
  | cons method rest ih => simp [nestedInMethods, ih]

theorem Ty.keyedUnless_array (element : Ty) :
    (Ty.array element).KeyedUnless excused ↔ element.KeyedUnless excused :=
  List.forall_mem_cons.trans (and_iff_right Bool.noConfusion)

theorem Ty.keyedUnless_set (element : Ty) :
    (Ty.set element).KeyedUnless excused ↔
      (element.isHashable = false → excused (.set element)) ∧ element.KeyedUnless excused :=
  List.forall_mem_cons.trans (and_congr_left' (imp_congr_left (Bool.not_eq_true' _).to_iff))

theorem Ty.keyedUnless_map (key value : Ty) :
    (Ty.map key value).KeyedUnless excused ↔
      (key.isHashable = false → excused (.map key value)) ∧
        key.KeyedUnless excused ∧ value.KeyedUnless excused :=
  List.forall_mem_cons.trans
    (and_congr (imp_congr_left (Bool.not_eq_true' _).to_iff) List.forall_mem_append)

theorem Ty.keyedUnless_function (signature : Signature) :
    (Ty.function signature).KeyedUnless excused ↔ signature.KeyedUnless excused :=
  List.forall_mem_cons.trans (and_iff_right Bool.noConfusion)

theorem Signature.keyedUnless_iff (signature : Signature) :
    signature.KeyedUnless excused ↔
      signature.result.KeyedUnless excused ∧
        ∀ param ∈ signature.params, param.2.KeyedUnless excused := by
  rcases signature with ⟨result, params⟩
  simp only [Signature.KeyedUnless, Ty.KeyedUnless, Signature.nested, List.mem_append, or_imp,
    forall_and, mem_nestedIn, forall_exists_index, and_imp]
  refine and_congr_right fun _ => ⟨?_, ?_⟩
  · exact fun holds param member inner inside => holds inner param member inside
  · exact fun holds inner param member inside => holds param member inner inside

theorem Ty.keyedUnless_template (template : Template) :
    (Ty.template template).KeyedUnless excused ↔
      (∀ entry ∈ template.attributes, entry.2.KeyedUnless excused) ∧
        ∀ method ∈ template.methods, method.2.KeyedUnless excused := by
  rcases template with ⟨name, attributes, methods⟩
  simp only [Signature.KeyedUnless, Ty.KeyedUnless, Ty.nested, Template.nested, List.mem_cons,
    List.mem_append, or_imp, forall_and, mem_nestedIn, mem_nestedInMethods, forall_exists_index,
    and_imp, forall_eq, Ty.isIllKeyed, Bool.false_eq_true, false_imp_iff, true_and]
  refine and_congr ⟨?_, ?_⟩ ⟨?_, ?_⟩
  · exact fun holds entry member inner inside => holds inner entry member inside
  · exact fun holds inner entry member inside => holds entry member inner inside
  · exact fun holds method member inner inside => holds inner method member inside
  · exact fun holds inner method member inside => holds method member inner inside

end

/-- The law that all sets and maps but the excused ones have hashable elements and keys. -/
def keyLaw (excused : Ty → Prop) : TypeLaw where
  Holds := Ty.KeyedUnless excused
  Allows _ := True
  allows _ _ := trivial
  primitive _ := List.forall_mem_singleton.mpr Bool.noConfusion
  array_iff := Ty.keyedUnless_array
  set hashable keyed := (Ty.keyedUnless_set _).mpr ⟨by simp [hashable], keyed⟩
  of_set keyed := ((Ty.keyedUnless_set _).mp keyed).2
  map hashable keyedKey keyedValue :=
    (Ty.keyedUnless_map _ _).mpr ⟨by simp [hashable], keyedKey, keyedValue⟩
  of_map keyed := ((Ty.keyedUnless_map _ _).mp keyed).2
  function_iff signature := by
    rw [Ty.keyedUnless_function, Signature.keyedUnless_iff]
    simp only [true_and]
  of_attribute keyed member := ((Ty.keyedUnless_template _).mp keyed).1 _ member
  of_method keyed member := (Ty.keyedUnless_function _).mpr
    (((Ty.keyedUnless_template _).mp keyed).2 _ member)

theorem ok_of_then {first second : Except TypeFault Unit}
    (ran : (do first; second) = .ok ()) : first = .ok () ∧ second = .ok () := by
  cases first with
  | error fault => contradiction
  | ok value => exact ⟨rfl, ran⟩

mutual

/-- A type that passes the check is as it should be at every depth, but for the templates in it. -/
theorem Ty.keyed_of_checkHashable {excused : Ty → Prop} (type : Ty)
    (copies : ∀ copy, .template copy ∈ type.mentions → ∀ inner ∈ copy.nested, excused inner)
    (checked : type.checkHashable = .ok ()) : type.KeyedUnless excused := by
  cases type with
  | primitive primitive => exact (keyLaw excused).primitive primitive
  | array element =>
      exact (Ty.keyedUnless_array element).mpr (Ty.keyed_of_checkHashable element copies checked)
  | set element =>
      rw [Ty.checkHashable] at checked
      split at checked
      · rename_i hashable
        exact (keyLaw excused).set hashable (Ty.keyed_of_checkHashable element copies checked)
      · contradiction
  | map key value =>
      rw [Ty.checkHashable] at checked
      split at checked
      · rename_i hashable
        rcases ok_of_then checked with ⟨checkedKey, checkedValue⟩
        exact (keyLaw excused).map hashable
          (Ty.keyed_of_checkHashable key
            (fun copy member => copies copy (List.mem_append_left _ member)) checkedKey)
          (Ty.keyed_of_checkHashable value
            (fun copy member => copies copy (List.mem_append_right _ member)) checkedValue)
      · contradiction
  | function signature =>
      exact (Ty.keyedUnless_function signature).mpr
        (Signature.keyed_of_checkHashable signature copies checked)
  | named name => exact List.forall_mem_singleton.mpr Bool.noConfusion
  | template declared =>
      intro inner inside isIllKeyed
      rcases List.mem_cons.mp inside with rfl | inside
      · contradiction
      · exact copies declared List.mem_cons_self inner inside
  termination_by structural type

theorem Signature.keyed_of_checkHashable {excused : Ty → Prop} (signature : Signature)
    (copies : ∀ copy, .template copy ∈ signature.mentions → ∀ inner ∈ copy.nested, excused inner)
    (checked : signature.checkHashable = .ok ()) : signature.KeyedUnless excused := by
  rcases signature with ⟨result, params⟩
  rw [Signature.checkHashable] at checked
  rcases ok_of_then checked with ⟨checkedResult, checkedParams⟩
  refine (Signature.keyedUnless_iff _).mpr ⟨?_, ?_⟩
  · exact Ty.keyed_of_checkHashable result
      (fun copy member => copies copy (List.mem_append_left _ member)) checkedResult
  · exact keyed_of_checkHashableParams params
      (fun copy member => copies copy (List.mem_append_right _ member)) checkedParams
  termination_by structural signature

theorem keyed_of_checkHashableParams {excused : Ty → Prop} (params : List (String × Ty))
    (copies : ∀ copy, .template copy ∈ mentionsIn params → ∀ inner ∈ copy.nested, excused inner)
    (checked : checkHashableParams params = .ok ()) :
    ∀ param ∈ params, param.2.KeyedUnless excused := by
  cases params with
  | nil => simp
  | cons param rest =>
      rcases param with ⟨name, type⟩
      rw [checkHashableParams] at checked
      rcases ok_of_then checked with ⟨checkedFirst, checkedRest⟩
      refine List.forall_mem_cons.mpr ⟨?_, ?_⟩
      · exact Ty.keyed_of_checkHashable type
          (fun copy member => copies copy (List.mem_append_left _ member)) checkedFirst
      · exact keyed_of_checkHashableParams rest
          (fun copy member => copies copy (List.mem_append_right _ member)) checkedRest
  termination_by structural params

end

section Written

variable {state after : CheckState}

/-- The written type of a variable is checked, also where the variable has the type that a written
name stands for. -/
theorem checkHashable_of_declareVariable {id : Nat} {name : String} {declared actual : Ty}
    (ran : declareVariable id name declared actual state = .ok () after) :
    declared.checkHashable = .ok () := by
  rcases ok_of_bind_eq_ok ran with ⟨_, before, _, ran⟩
  rcases ok_of_bind_eq_ok ran with ⟨type, typed, ranType, ran⟩
  rcases ok_of_bind_eq_ok ran with ⟨_, initialized, _, ran⟩
  rcases ok_of_bind_eq_ok ran with ⟨_, hashable, followed, _⟩
  have checked := (ok_of_follow followed).1
  unfold variableType at ranType
  split at ranType
  · rename_i isOpen
    rw [Ty.eq_infer_of_isInfer isOpen]
    rfl
  · rcases ok_of_bind_eq_ok ranType with ⟨_, valid, _, resolved⟩
    cases declared with
    | named name => rfl
    | _ =>
        rcases EStateM.Result.ok.inj resolved with ⟨rfl, _⟩
        exact checked

theorem checkHashable_of_checkFnDecl {declaration : FnDecl}
    (ran : checkFnDecl declaration state = .ok () after) :
    declaration.signature.checkHashable = .ok () := by
  rcases declaration with ⟨position, id, name, signature, body⟩
  rw [checkFnDecl] at ran
  rcases ok_of_bind_eq_ok ran with ⟨stack, looked, _, ran⟩
  rcases ok_of_bind_eq_ok ran with ⟨_, free, _, ran⟩
  rcases ok_of_bind_eq_ok ran with ⟨_, valid, _, ran⟩
  rcases ok_of_bind_eq_ok ran with ⟨_, hashable, followed, _⟩
  exact (ok_of_follow followed).1

theorem checkHashable_of_declareTemplate {template : Template}
    (ran : declareTemplate template state = .ok () after) :
    ∀ entry ∈ template.attributes, entry.2.checkHashable = .ok () := by
  rcases ok_of_bind_eq_ok ran with ⟨found, looked, _, ran⟩
  rcases ok_of_bind_eq_ok ran with ⟨_, free, _, ran⟩
  rcases ok_of_bind_eq_ok ran with ⟨_, declared, -, ranTypes⟩
  generalize template.attributes = entries at ranTypes
  induction entries generalizing declared with
  | nil => simp
  | cons first rest ih =>
      rcases ok_of_forM_cons ranTypes with ⟨between, ranFirst, ranRest⟩
      rcases ok_of_bind_eq_ok ranFirst with ⟨_, valid, _, followed⟩
      exact List.forall_mem_cons.mpr ⟨(ok_of_follow followed).1, ih _ ranRest⟩

end Written

namespace Program

/-- A type in a copy of a template that is written out as a type. -/
inductive Copied (program : Program) (written : Ty) : Prop where
  | intro {type : Ty} {template : Template} (contains : program.Contains (.type type))
      (mentioned : .template template ∈ type.mentions) (inside : written ∈ template.nested)

/-- A type that is written where elements and keys are not checked: in the signature of a method, in
the parameters of a function literal, or in a copy of a template. -/
inductive Unchecked (program : Program) : Ty → Prop where
  | method {position : Position} {name : String} {attributes : List (String × Ty)}
      {methods : List FnDecl} {method : FnDecl} {written : Ty}
      (contains : program.Contains (.stmt (.templateDecl position name attributes methods)))
      (among : method ∈ methods) (inside : written ∈ method.signature.nested) :
      Unchecked program written
  | literal {params : List (String × Ty)} {body : Block} {param : String × Ty} {written : Ty}
      (contains : program.Contains (.expr (.function params body)))
      (among : param ∈ params) (inside : written ∈ param.2.nested) :
      Unchecked program written
  | copy {written : Ty} (copied : program.Copied written) : Unchecked program written

/-- The attributes of a template have hashable elements and keys. -/
def KeysAttributes (program : Program) : Mention → Prop
  | .name _ => True
  | .template copy => ∀ entry ∈ copy.attributes, entry.2.KeyedUnless program.Copied

/-- What is recorded for a function has hashable elements and keys as it is declared. A result that
has been found may hold what is written unchecked elsewhere, and so may the signature of a
method. -/
inductive KeysSignature (program : Program) (id : Nat) (signature : Signature) : Prop where
  | function {declaration : FnDecl} (contains : program.Contains (.stmt (.fnDecl declaration)))
      (same : declaration.id = id)
      (params : ∀ param ∈ signature.params, param.2.KeyedUnless program.Copied)
      (declared : declaration.signature.result.isInfer = false →
        signature.result.KeyedUnless program.Copied)
      (found : signature.result.KeyedUnless program.Unchecked)
  | method {position : Position} {name : String} {attributes : List (String × Ty)}
      {methods : List FnDecl} {method : FnDecl}
      (contains : program.Contains (.stmt (.templateDecl position name attributes methods)))
      (among : method ∈ methods) (same : method.id = id)
      (keyed : signature.KeyedUnless program.Unchecked)

/-- All that is recorded has hashable elements and keys, apart from what is written unchecked. The
types of variables are checked even so, and so are the attributes of the templates in them, but not
the methods. -/
structure RecordsKeyed (program : Program) (analysis : Analysis) : Prop where
  types : ∀ id type, analysis.types.get? id = some type →
    type.checkHashable = .ok () ∧ type.Within program.KeysAttributes ∧
      type.KeyedUnless program.Unchecked
  signatures : ∀ id signature, analysis.signatures.get? id = some signature →
    program.KeysSignature id signature

/-- The law for the check of a program. -/
def keyLaw (program : Program) : Law where
  toTypeLaw :=
    (ScriptCheck.keyLaw program.Unchecked).both (mentionLaw program.KeysAttributes)
  Records := program.RecordsKeyed

variable {program : Program} {analysis : Analysis}

theorem copied_of_mentioned {written : Ty} (contains : program.Contains (.type written))
    (copy : Template) (mentioned : .template copy ∈ written.mentions) (inner : Ty)
    (inside : inner ∈ copy.nested) : program.Copied inner :=
  ⟨contains, mentioned, inside⟩

/-- A written type that has passed the check is as it should be. -/
theorem keyed_of_checked {written : Ty} (contains : program.Contains (.type written))
    (checked : written.checkHashable = .ok ()) : written.KeyedUnless program.Copied :=
  Ty.keyed_of_checkHashable written (copied_of_mentioned contains) checked

/-- In a program that is parsed, no template is written out. -/
theorem not_copied_of_parse {tokens : List Token} {file : String} {after : ParserState}
    (parsed : Parser.parse tokens file = .ok program after) (written : Ty) :
    ¬program.Copied written := by
  rintro ⟨contains, mentioned, -⟩
  exact Parser.noCopies_of_parse parsed contains _ mentioned

theorem within_of_written {written : Ty} (contains : program.Contains (.type written)) :
    written.Within program.KeysAttributes := by
  intro mention mentioned
  cases mention with
  | name name => trivial
  | template copy =>
      intro entry among inner inside _
      refine copied_of_mentioned contains copy mentioned inner ?_
      rcases copy with ⟨name, attributes, methods⟩
      exact List.mem_append_left _ (mem_nestedIn.mpr ⟨entry, among, inside⟩)

section Recording

theorem recordsVariable (id : Nat) : program.keyLaw.RecordsVariable id := by
  intro analysis type records holds hashable
  refine ⟨fun other recorded found => ?_, records.signatures⟩
  rw [Analysis.addVariable, Table.get?_insert] at found
  split at found
  · rw [← Option.some.inj found]
    exact ⟨hashable, holds.2, holds.1⟩
  · exact records.types other recorded found

theorem RecordsKeyed.addFunction {id : Nat} {signature : Signature}
    (records : program.RecordsKeyed analysis) (keys : program.KeysSignature id signature) :
    program.RecordsKeyed (analysis.addFunction id signature) := by
  refine ⟨records.types, fun other recorded found => ?_⟩
  rw [Analysis.addFunction, Table.get?_insert] at found
  split at found
  · rename_i same
    rw [← Option.some.inj found, same]
    exact keys
  · exact records.signatures other recorded found

theorem recordsFunction {declaration : FnDecl}
    (contains : program.Contains (.stmt (.fnDecl declaration))) :
    program.keyLaw.RecordsFunction declaration := by
  intro analysis signature records holds hashable settles
  have written : program.Contains (.type (.function declaration.signature)) :=
    contains_of_holds contains (.functionType declaration)
  have declared := (Signature.keyedUnless_iff _).mp
    ((Ty.keyedUnless_function _).mp (keyed_of_checked written hashable))
  have found := (Signature.keyedUnless_iff _).mp ((Ty.keyedUnless_function _).mp holds.1)
  refine records.addFunction (.function contains rfl ?_ (fun known => ?_) found.1)
  · rw [settles.params]
    exact declared.2
  · rcases settles with rfl | ⟨isOpen, _, _⟩
    · exact declared.1
    · rw [known] at isOpen
      contradiction

theorem recordsMethod {position : Position} {name : String} {attributes : List (String × Ty)}
    {methods : List FnDecl} {method : FnDecl}
    (contains : program.Contains (.stmt (.templateDecl position name attributes methods)))
    (among : method ∈ methods) : program.keyLaw.RecordsMethod method.id :=
  fun _ _ records holds =>
    records.addFunction (.method contains among rfl ((Ty.keyedUnless_function _).mp holds.1))

end Recording

section Written

variable (accepted : program.check = .ok analysis)

include accepted

theorem accepted_of_contains {part : Part} (contains : program.Contains part) :
    ∃ state after, part.check state = .ok () after := by
  rcases visits_of_contains accepted contains with ⟨visit, visits, rfl⟩
  exact ⟨visit.state, Visit.Reaches.accepted visits (start_accepted accepted)⟩

/-- The attributes of a declared template have hashable elements and keys. -/
theorem keyed_of_attribute {position : Position} {name : String}
    {attributes : List (String × Ty)} {methods : List FnDecl}
    (contains : program.Contains (.stmt (.templateDecl position name attributes methods)))
    {entry : String × Ty} (member : entry ∈ attributes) :
    entry.2.KeyedUnless program.Copied := by
  rcases accepted_of_contains accepted contains with ⟨state, after, ran⟩
  rcases ok_of_checkStmt_templateDecl ran with ⟨_, _, _, _, ranDeclare, _⟩
  exact keyed_of_checked (contains_of_holds contains (.attributeType position name methods member))
    (checkHashable_of_declareTemplate ranDeclare entry member)

/-- A written type has hashable elements and keys in an accepted program, unless it is written where
they are not checked. -/
theorem keyed_of_written {holder : Part} {written : Ty} (contains : program.Contains holder)
    (holds : holder.Holds (.type written)) : written.KeyedUnless program.Unchecked := by
  have passed (checked : written.checkHashable = .ok ()) :
      written.KeyedUnless program.Unchecked :=
    (keyed_of_checked (contains_of_holds contains holds) checked).mono fun _ => .copy
  rcases accepted_of_contains accepted contains with ⟨state, after, ran⟩
  cases holds with
  | literalType params body =>
      refine (Ty.keyedUnless_function _).mpr ((Signature.keyedUnless_iff _).mpr ⟨?_, ?_⟩)
      · exact (ScriptCheck.keyLaw _).primitive .infer
      · exact fun param among inner inside _ => .literal contains among inside
  | declaredType position id name declared initializer =>
      rcases ok_of_checkStmt_varDecl ran with ⟨actual, between, last, _, ranDeclare, _⟩
      exact passed (checkHashable_of_declareVariable ranDeclare)
  | functionType declaration =>
      rcases ok_of_checkStmt_fnDecl ran with ⟨last, ranDecl, _⟩
      exact passed (checkHashable_of_checkFnDecl ranDecl)
  | attributeType position name methods member =>
      exact (keyed_of_attribute accepted contains member).mono fun _ => .copy
  | methodType position name attributes among =>
      refine (Ty.keyedUnless_function _).mpr fun inner inside _ => ?_
      exact .method contains among inside

/-- A declared template keeps to the law with whatever is found for its methods. -/
theorem mayDeclare_of_contains {position : Position} {name : String}
    {attributes : List (String × Ty)} {methods : List FnDecl}
    (contains : program.Contains (.stmt (.templateDecl position name attributes methods))) :
    program.keyLaw.MayDeclare name attributes := by
  rintro template - rfl members
  have methodsHold (method : String × Signature) (member : method ∈ template.methods) :=
    members.2 method member
  refine ⟨(Ty.keyedUnless_template template).mpr ⟨?_, ?_⟩,
    (Ty.within_template template).mpr ⟨?_, (mentionLaw_members template).mp ⟨?_, ?_⟩⟩⟩
  · exact fun entry member => (members.1 entry member).1
  · exact fun method member => (Ty.keyedUnless_function _).mp (methodsHold method member).1
  · exact fun entry member => keyed_of_attribute accepted contains member
  · exact fun entry member => (members.1 entry member).2
  · exact fun method member => (methodsHold method member).2

/-- The law holds for everything in an accepted program. -/
theorem admits_of_contains {part : Part} (contains : program.Contains part) :
    program.keyLaw.Admits part := by
  cases part with
  | type written =>
      refine ⟨?_, within_of_written contains⟩
      rcases contains with ⟨stmt, member, inside⟩
      rcases inside.cases_tail with impossible | ⟨holder, reaches, holds⟩
      · contradiction
      · exact keyed_of_written accepted ⟨stmt, member, reaches⟩ holds
  | stmt written =>
      cases written with
      | varDecl position id name declared initializer => exact recordsVariable id
      | fnDecl declaration => exact recordsFunction contains
      | templateDecl position name attributes methods =>
          exact ⟨mayDeclare_of_contains accepted contains, fun _ => recordsMethod contains⟩
      | _ => trivial
  | _ => trivial

end Written

end Program

/-- Everything that is recorded for an accepted program has hashable elements and keys at every
depth, but for what is written where it is not checked. That is found in three places: in the
methods of a template in the type of a variable, in the result that has been found for a function,
and in the signature of a method. -/
theorem recorded_types_are_keyed {program : Program} {analysis : Analysis}
    (accepted : program.check = .ok analysis) : program.RecordsKeyed analysis := by
  have admitted (stmt : Stmt) (member : stmt ∈ program.body) :
      program.keyLaw.Admitted (.stmt stmt) := fun inner inside =>
    Program.admits_of_contains accepted ⟨stmt, member, inside⟩
  have begun : program.keyLaw.Obeyed false CheckState.initial := by
    refine ⟨(fun _ impossible => nomatch impossible), (fun impossible => nomatch impossible), ?_⟩
    exact ⟨(fun _ _ impossible => nomatch impossible), fun _ _ impossible => nomatch impossible⟩
  unfold Program.check at accepted
  cases ran : checkStmts program.body CheckState.initial with
  | error diagnostic after =>
      rw [ran] at accepted
      contradiction
  | ok value after =>
      rw [ran] at accepted
      rw [← Except.ok.inj accepted]
      exact ((Law.upholds_checkStmts program.body admitted).of_ok begun ran).2.records

/-- Takes a set of arrays, and returns nothing. -/
def unhashedSet : Signature := { result := .void, params := [("s", .set (.array .int))] }

/-- A template whose method takes a set of arrays, a variable of the template, and a function that
returns a literal with such a parameter. -/
def unhashedSets : Program :=
  ⟨[.templateDecl Position.unknown "T" [("a", .int)]
      [⟨Position.unknown, 0, "m", unhashedSet, ⟨Position.unknown, []⟩⟩],
    .varDecl Position.unknown 1 "t" (.named "T") (.entity "T" [("a", .integer 1)]),
    .fnDecl ⟨Position.unknown, 2, "f", { result := .infer, params := [] },
      ⟨Position.unknown, [.returning Position.unknown
        (some (.function unhashedSet.params ⟨Position.unknown, []⟩))]⟩⟩]⟩

/-- What is recorded for the declarations. -/
def unhashedSetsRecorded : Analysis where
  types := [(1, .template ⟨"T", [("a", .int)], [("m", unhashedSet)]⟩)]
  signatures := [(0, unhashedSet), (2, { result := .function unhashedSet, params := [] })]

theorem unhashedSets_check : unhashedSets.check = .ok unhashedSetsRecorded := by
  cbv

theorem unhashedSets_keyed :
    unhashedSets.check = .ok unhashedSetsRecorded ∧
      unhashedSets.RecordsKeyed unhashedSetsRecorded :=
  ⟨unhashedSets_check, recorded_types_are_keyed unhashedSets_check⟩

/-- A set of arrays is recorded in the signature of the method, in the template that the variable
has for a type, and in the result of the function. -/
theorem unhashedSets_recorded :
    unhashedSets.check = .ok unhashedSetsRecorded ∧ (Ty.set (.array .int)).isIllKeyed = true ∧
      (∃ signature, unhashedSetsRecorded.signatures.get? 0 = some signature ∧
        .set (.array .int) ∈ signature.nested) ∧
      (∃ type, unhashedSetsRecorded.types.get? 1 = some type ∧
        .set (.array .int) ∈ type.nested) ∧
      ∃ signature, unhashedSetsRecorded.signatures.get? 2 = some signature ∧
        .set (.array .int) ∈ signature.nested := by
  refine ⟨unhashedSets_check, rfl, ⟨_, rfl, ?_⟩, ⟨_, rfl, ?_⟩, ⟨_, rfl, ?_⟩⟩
  · simp [unhashedSet, Signature.nested, nestedIn, Ty.nested]
  · simp [unhashedSet, Ty.nested, Template.nested, nestedInMethods, Signature.nested, nestedIn]
  · simp [unhashedSet, Signature.nested, nestedIn, Ty.nested]

end ScriptCheck
