import Mathlib
import ScriptCheck.Proofs.Grammar.MarkedForms
import ScriptCheck.Proofs.Typing.Binding
import ScriptCheck.Proofs.Typing.Course
import ScriptCheck.Proofs.Typing.Provenance

/-!
# Copies of a template in its own type

A method that returns a value of its own template has a copy of the template in its signature, taken
when its result was found. The results of other methods may be found later, and the copy is not
told. So a copy has the recorded signatures of the methods whose results were known by then, and the
written ones, with open results, of the others.

While the methods are prepared and checked, the template is bound to its current version, and no
other copy of it is in scope than those that this version has in it already. So what is found for a
method has no other copies, which is all that `Course.Copied` asks for. A method can be called on a
copy exactly where its result was known when the copy was taken.
-/

namespace ScriptCheck

open Checker

/-- The numbers of the functions that a statement declares. -/
def Part.functionIds : Part → List Nat
  | .stmt (.fnDecl declaration) => [declaration.id]
  | .stmt (.templateDecl _ _ _ declarations) => declarations.map (·.id)
  | _ => []

/-- A part writes no copies of templates, declares no template of the given name, and has functions
with other numbers. -/
structure Part.Foreign (name : String) (ids : List Nat) (part : Part) : Prop where
  types : ∀ type, part = .type type → ∀ copy, .template copy ∉ type.mentions
  templates : ∀ position other attributes methods,
    part = .stmt (.templateDecl position other attributes methods) → other ≠ name
  functions : ∀ id ∈ part.functionIds, id ∉ ids

/-- The copies of a template are its current version and those that this version has in it. -/
def copyLimits (current : Template) (records : Analysis → Prop) : Limits where
  mentions
    | .name _ => True
    | .template copy => copy.name = current.name →
      .template copy ∈ (Ty.template current).mentions
  records := records

theorem within_copyLimits (current : Template) (records : Analysis → Prop) :
    current.Within (copyLimits current records).mentions := by
  intro mention member
  cases mention with
  | name other => trivial
  | template copy => exact fun _ => List.mem_cons_of_mem _ member

theorem copiesIn_of_within {current : Template} {records : Analysis → Prop} {signature : Signature}
    (within : signature.Within (copyLimits current records).mentions) :
    signature.CopiesIn current :=
  fun _ mentioned sameName => within _ mentioned sameName

/-- The first of the methods that are left stands at the index where they begin. -/
theorem first_of_eq_drop {methods rest : List FnDecl} {method : FnDecl} {index : Nat}
    (suffix : method :: rest = methods.drop index) :
    methods[index]? = some method ∧ rest = methods.drop (index + 1) := by
  constructor
  · rw [← Nat.add_zero index, ← List.getElem?_drop, ← suffix]
    rfl
  · rw [← List.tail_drop, ← suffix]
    rfl

/-- The signatures of the first methods have been recorded. -/
def Recorded (methods : List FnDecl) (count : Nat) (current : Template) (analysis : Analysis) :
    Prop :=
  ∀ index < count, ∀ method ∈ methods[index]?, ∀ found ∈ current.methods[index]?,
    analysis.signatures.get? method.id = some found.2

section Processing

variable {written current : Template} {index : Nat} {signature : Signature}
variable {state after : CheckState} {base : ScopeStack} {methods : List FnDecl}

/-- The signatures of the methods stay recorded while functions with other numbers are recorded. -/
theorem Recorded.addFunction {count id : Nat} {analysis : Analysis}
    (recorded : Recorded methods count current analysis) (other : id ∉ methods.map (·.id)) :
    Recorded methods count current (analysis.addFunction id signature) := by
  intro place before method member found isFound
  have different : method.id ≠ id := fun same =>
    other (same ▸ List.mem_map_of_mem (List.mem_of_getElem? member))
  rw [Analysis.addFunction, Table.get?_insert, if_neg different]
  exact recorded place before method member found isFound

/-- The records of the methods are kept by a part whose functions have other numbers, whatever the
types that it writes and the templates that it declares may mention. -/
theorem admits_of_otherIds {mentions : Mention → Prop} {count : Nat} {part : Part}
    (other : ∀ id ∈ part.functionIds, id ∉ methods.map (·.id))
    (types : ∀ type, part = .type type → type.Within mentions)
    (templates : ∀ position name attributes inner,
      part = .stmt (.templateDecl position name attributes inner) →
        ∀ copy : Template, copy.name = name → mentions (.template copy)) :
    Limits.Admits ⟨mentions, Recorded methods count current⟩ part := by
  cases part with
  | type type => exact types type rfl
  | stmt stmt =>
      cases stmt with
      | varDecl position id name declared initializer => exact fun _ _ recorded _ => recorded
      | fnDecl declaration =>
          exact fun _ _ recorded _ => recorded.addFunction (other _ (List.mem_singleton.mpr rfl))
      | templateDecl position name attributes inner =>
          refine ⟨fun copy sameName _ => templates _ _ _ _ rfl copy sameName, ?_⟩
          intro method member _ _ recorded _
          exact recorded.addFunction (other _ (List.mem_map_of_mem member))
      | _ => trivial
  | _ => trivial

/-- A part that has nothing to do with the template keeps to its limits. -/
theorem admits_of_foreign {count : Nat} {part : Part}
    (foreign : part.Foreign current.name (methods.map (·.id))) :
    (copyLimits current (Recorded methods count current)).Admits part := by
  refine admits_of_otherIds foreign.functions (fun type written mention member => ?_) ?_
  · cases mention with
    | name other => trivial
    | template copy => exact absurd member (foreign.types type written copy)
  · intro position name attributes inner declares copy sameName same
    exact absurd (sameName.symm.trans same) (foreign.templates _ _ _ _ declares)

/-- The signature of one more method is recorded, and the others stay recorded. -/
theorem recorded_of_addFunction {method : FnDecl} {analysis : Analysis}
    (distinct : (methods.map (·.id)).Nodup) (here : methods[index]? = some method)
    (recorded : Recorded methods index current analysis) :
    Recorded methods (index + 1) (current.setMethod index signature)
      (analysis.addFunction method.id signature) := by
  intro place inside other member found isFound
  rw [Analysis.addFunction, Table.get?_insert]
  rw [getElem?_setMethod] at isFound
  by_cases same : index = place
  · subst same
    rw [here] at member
    rw [if_pos (by rw [Option.some.inj member]), Option.some.injEq]
    rw [if_pos rfl] at isFound
    rcases Option.map_eq_some_iff.mp isFound with ⟨before, _, rfl⟩
    rfl
  · have different : other.id ≠ method.id := by
      intro sameId
      have first : (methods.map (·.id))[index]? = some method.id := by
        rw [List.getElem?_map, here]
        rfl
      have second : (methods.map (·.id))[place]? = some method.id := by
        rw [List.getElem?_map, member, ← sameId]
        rfl
      rcases List.getElem?_eq_some_iff.mp first with ⟨bound, atIndex⟩
      rcases List.getElem?_eq_some_iff.mp second with ⟨boundPlace, atPlace⟩
      exact same ((List.Nodup.getElem_inj_iff distinct).mp (atIndex.trans atPlace.symm))
    rw [if_neg different]
    rw [if_neg same] at isFound
    exact recorded place (by omega) other member found isFound

/-- A template is bound last while its methods are processed, in its current version. -/
structure Holding (base : ScopeStack) (written current : Template) (records : Analysis → Prop)
    (state : CheckState) : Prop where
  scopes : state.scopes = base.bound written.name (.template current)
  version : written.Version current
  records : records state.analysis

/-- No other copy is in scope than those in the current version. -/
theorem Holding.obeyed {records : Analysis → Prop}
    (holding : Holding base written current records state)
    (fresh : ∀ symbol ∈ base.symbols, ∀ copy, .template copy ∈ symbol.2.mentions →
      copy.name ≠ written.name) :
    (copyLimits current records).Obeyed false state := by
  refine ⟨fun symbol member => ?_, (fun impossible => nomatch impossible), holding.records⟩
  rw [holding.scopes, ScopeStack.symbols_bound] at member
  rcases List.mem_cons.mp member with rfl | old
  · exact (Ty.within_template current).mpr
      ⟨fun _ => List.mem_cons_self, within_copyLimits current records⟩
  · intro mention mentioned
    cases mention with
    | name other => trivial
    | template copy =>
        intro same
        rw [holding.version.name] at same
        exact absurd same (fresh symbol old copy mentioned)

/-- A method gets another signature. -/
theorem Holding.setMethod {records later : Analysis → Prop}
    (holding : Holding base written current records state)
    (unbound : base.inner.binds written.name = false)
    (settles : ∀ method ∈ current.methods[index]?, method.2.Settles signature)
    (sameScopes : after.scopes = state.scopes.update written.name
      (.template (current.setMethod index signature))) (recorded : later after.analysis) :
    Holding base written (current.setMethod index signature) later after where
  scopes := by rw [sameScopes, holding.scopes, ScopeStack.update_bound unbound]
  version := holding.version.setMethod settles
  records := recorded

/-- The methods of a template, with signatures and bodies that have nothing to do with copies of
it. -/
structure ForeignBodies (name : String) (methods : List FnDecl) : Prop where
  distinct : (methods.map (·.id)).Nodup
  signatures : ∀ method ∈ methods, ∀ copy, .template copy ∉ method.signature.mentions
  bodies : ∀ method ∈ methods, ∀ stmt ∈ method.body.body, ∀ inner,
    Relation.ReflTransGen Part.Holds (.stmt stmt) inner → inner.Foreign name (methods.map (·.id))

theorem ForeignBodies.within (foreign : ForeignBodies written.name methods) {method : FnDecl}
    (among : method ∈ methods) (records : Analysis → Prop) :
    method.signature.Within (copyLimits current records).mentions := by
  intro mention member
  cases mention with
  | name other => trivial
  | template copy => exact absurd member (foreign.signatures method among copy)

theorem ForeignBodies.admitted (foreign : ForeignBodies current.name methods) {method : FnDecl}
    (among : method ∈ methods) (count : Nat) (stmt : Stmt) (member : stmt ∈ method.body.body) :
    (copyLimits current (Recorded methods count current)).Admitted (.stmt stmt) :=
  fun inner within => admits_of_foreign (foreign.bodies method among stmt member inner within)

/-- What a pass over the methods from an index on has made of a template: those in front of the
index have kept their signatures, and what was found for the others has the copies of the version of
that moment. -/
structure Passed (current final : Template) (index count : Nat) : Prop where
  before : final.methods.take index = current.methods.take index
  copies : ∀ offset < count, ∀ method, final.methods[index + offset]? = some method →
    method.2.CopiesIn (current.between final (index + offset))

theorem Passed.refl (current : Template) (index : Nat) : Passed current current index 0 :=
  ⟨rfl, fun _ impossible => absurd impossible (Nat.not_lt_zero _)⟩

/-- One method gets its signature, and then those behind it get theirs. -/
theorem Passed.cons {final : Template} {count : Nat} (copiesIn : signature.CopiesIn current)
    (passed : Passed (current.setMethod index signature) final (index + 1) count) :
    Passed current final index (count + 1) := by
  have before : final.methods.take index = current.methods.take index := by
    have kept := congrArg (List.take index) passed.before
    rwa [List.take_take, List.take_take, Nat.min_eq_left (Nat.le_succ _),
      Template.take_setMethod (Nat.le_refl _)] at kept
  refine ⟨before, fun offset inside method found => ?_⟩
  cases offset with
  | zero =>
      have own : final.methods[index]? = (current.setMethod index signature).methods[index]? := by
        rw [← List.getElem?_take_of_lt (Nat.lt_succ_self index), passed.before,
          List.getElem?_take_of_lt (Nat.lt_succ_self index)]
      rw [Nat.add_zero] at found ⊢
      rw [Template.between_of_take_eq before]
      rw [own, getElem?_setMethod, if_pos rfl] at found
      rcases Option.map_eq_some_iff.mp found with ⟨_, _, rfl⟩
      exact copiesIn
  | succ offset =>
      have place : index + (offset + 1) = index + 1 + offset := by omega
      have copies := passed.copies offset (by omega) method (place ▸ found)
      rwa [Template.between_setMethod (by omega), ← place] at copies

/-- The methods from an index on are prepared: each of them is still as it is written. -/
theorem holding_of_prepareMethods {prepared : Template} {rest : List FnDecl}
    (foreign : ForeignBodies written.name methods) (among : ∀ method ∈ rest, method ∈ methods)
    (unbound : base.inner.binds written.name = false)
    (fresh : ∀ symbol ∈ base.symbols, ∀ copy, .template copy ∈ symbol.2.mentions →
      copy.name ≠ written.name)
    (declares : current.Declares index rest)
    (holding : Holding base written current (Recorded methods 0 current) state)
    (ran : prepareMethods current index rest state = .ok prepared after) :
    Holding base written prepared (Recorded methods 0 prepared) after ∧
      Passed current prepared index rest.length := by
  induction rest generalizing current index state with
  | nil =>
      rw [prepareMethods, pure_apply, EStateM.Result.ok.injEq] at ran
      rcases ran with ⟨rfl, rfl⟩
      exact ⟨holding, .refl _ _⟩
  | cons method rest ih =>
      rcases ok_of_prepareMethods_cons ran with ⟨signature, _, prepares, ranRest⟩
      have memberFirst := among method List.mem_cons_self
      have foreignCurrent : ForeignBodies current.name methods := holding.version.name ▸ foreign
      have settles :=
        Template.settles_of_declared declares.head (settles_of_prepareSignature prepares)
      have within : method.signature.Within
          (copyLimits current (Recorded methods 0 current)).mentions :=
        foreign.within memberFirst (Recorded methods 0 current)
      have withinSome (declared : Template) (same : declared ∈ some current) :
          declared.Within (copyLimits current (Recorded methods 0 current)).mentions :=
        Option.some.inj same ▸ within_copyLimits current _
      have search : (copyLimits current (Recorded methods 0 current)).Upholds false
          (copyLimits current (Recorded methods 0 current)).WithinOption
          (searchBody method.body) :=
        Limits.upholds_searchBody method.body (foreignCurrent.admitted memberFirst 0)
      have withinSignature := ((Limits.upholds_inferResult method.body.firstReturn? within
        withinSome search).of_ok (holding.obeyed fresh) prepares).1
      have next : Holding base written (current.setMethod index signature)
          (Recorded methods 0 (current.setMethod index signature))
          (state.updated current.name (.template (current.setMethod index signature))) :=
        holding.setMethod unbound settles (by rw [← holding.version.name]; rfl)
          fun place impossible => absurd impossible (Nat.not_lt_zero place)
      rcases ih (fun later member => among later (List.mem_cons_of_mem _ member))
        declares.tail.setMethod next ranRest with ⟨last, passed⟩
      exact ⟨last, passed.cons (copiesIn_of_within withinSignature)⟩

/-- The methods from an index on are checked: those before it have been recorded, and their results
are known. -/
theorem holding_of_checkMethods {rest : List FnDecl}
    (foreign : ForeignBodies written.name methods) (suffix : rest = methods.drop index)
    (unbound : base.inner.binds written.name = false)
    (fresh : ∀ symbol ∈ base.symbols, ∀ copy, .template copy ∈ symbol.2.mentions →
      copy.name ≠ written.name)
    (known : ∀ earlier < index, current.Knows earlier)
    (holding : Holding base written current (Recorded methods index current) state)
    (ran : checkMethods current index rest state = .ok () after) :
    ∃ final, Holding base written final (Recorded methods methods.length final) after ∧
      Passed current final index rest.length ∧ ∀ place < methods.length, final.Knows place := by
  induction rest generalizing current index state with
  | nil =>
      rw [checkMethods, pure_apply, EStateM.Result.ok.injEq] at ran
      rcases ran with ⟨_, rfl⟩
      have complete : methods.length ≤ index := List.drop_eq_nil_iff.mp suffix.symm
      refine ⟨current, ⟨holding.scopes, holding.version, fun place inside => ?_⟩, .refl _ _,
        fun place inside => known place (by omega)⟩
      exact holding.records place (by omega)
  | cons method rest ih =>
      rcases ok_of_checkMethods_cons ran with ⟨resolved, checked, ranBody, ranRest⟩
      rcases first_of_eq_drop suffix with ⟨here, suffixRest⟩
      have memberFirst : method ∈ methods := List.mem_of_getElem? here
      have foreignCurrent : ForeignBodies current.name methods := holding.version.name ▸ foreign
      have settles := Template.settles_of_prepared (settles_of_checkFunction ranBody)
      have withinSome (declared : Template) (same : declared ∈ some current) :
          declared.Within (copyLimits current (Recorded methods index current)).mentions :=
        Option.some.inj same ▸ within_copyLimits current _
      have withinPrepared := Limits.within_preparedMethod index
        (within_copyLimits current (Recorded methods index current))
        (foreign.within memberFirst (Recorded methods index current))
      have checks : (copyLimits current (Recorded methods index current)).Upholds true
          (fun _ => True) (checkBody method.body) :=
        Limits.upholds_checkBody method.body (foreignCurrent.admitted memberFirst index)
      rcases (Limits.upholds_inFunction withinPrepared withinSome (keeps_checkBody method.body)
        checks).of_ok (holding.obeyed fresh) ranBody with ⟨withinResolved, obeyed⟩
      have sameScopes := ((keeps_inFunction _ (some current)
        (keeps_checkBody method.body)).of_ok ranBody).2
      have next : Holding base written (current.setMethod index resolved)
          (Recorded methods (index + 1) (current.setMethod index resolved))
          ((checked.updated current.name (.template (current.setMethod index resolved))).recorded
            method.id resolved) :=
        holding.setMethod unbound settles (by rw [sameScopes, ← holding.version.name]; rfl)
          (recorded_of_addFunction foreign.distinct here obeyed.records)
      have knownNext (earlier : Nat) (inside : earlier < index + 1) :
          (current.setMethod index resolved).Knows earlier := by
        intro found isFound
        rw [Option.mem_def, getElem?_setMethod] at isFound
        split at isFound
        · rcases Option.map_eq_some_iff.mp isFound with ⟨_, _, rfl⟩
          exact isInfer_of_checkFunction ranBody
        · exact known earlier (by omega) found isFound
      rcases ih suffixRest knownNext next ranRest with ⟨final, last, passed, knownAll⟩
      exact ⟨final, last, passed.cons (copiesIn_of_within withinResolved), knownAll⟩

end Processing

section Declaration

variable {position : Position} {name : String} {attributes : List (String × Ty)}
variable {methods : List FnDecl} {state after : CheckState}

/-- No type that is written in a part holds a copy of a template. -/
def Part.WritesNoCopies (part : Part) : Prop :=
  ∀ type, Relation.ReflTransGen Part.Holds part (.type type) →
    ∀ copy, .template copy ∉ type.mentions

theorem Part.writesNoCopies_of_parse {program : Program} {tokens : List Token} {file : String}
    {final : ParserState} {part : Part} (parsed : Parser.parse tokens file = .ok program final)
    (contains : program.Contains part) : part.WritesNoCopies :=
  fun _ within => Parser.noCopies_of_parse parsed (Program.contains_of_inside contains within)

/-- The methods of a template have numbers of their own: no two of them have the same one, and no
function in their bodies has one of them. -/
structure DistinctMethods (methods : List FnDecl) : Prop where
  nodup : (methods.map (·.id)).Nodup
  inside : ∀ method ∈ methods, ∀ stmt ∈ method.body.body, ∀ inner,
    Relation.ReflTransGen Part.Holds (.stmt stmt) inner →
      ∀ id ∈ inner.functionIds, id ∉ methods.map (·.id)

/-- No template of the same name is declared inside of an accepted template. -/
theorem ne_of_templateDecl_inside {method : FnDecl} {stmt : Stmt}
    (ran : checkStmt (.templateDecl position name attributes methods) state = .ok () after)
    (among : method ∈ methods) (member : stmt ∈ method.body.body) {place : Position}
    {other : String} {innerAttributes : List (String × Ty)} {innerMethods : List FnDecl}
    (inside : Relation.ReflTransGen Part.Holds (.stmt stmt)
      (.stmt (.templateDecl place other innerAttributes innerMethods))) : other ≠ name := by
  -- Any binders will do for the names that are in scope already.
  let begun : Visit := ⟨.stmt (.templateDecl position name attributes methods), state,
    state.scopes.symbols.map fun symbol => (symbol.1, .variable)⟩
  have linked : begun.Linked := by
    refine ⟨?_, fun template owned => nomatch owned⟩
    exact List.forall₂_map_left_iff.mpr (List.forall₂_same.mpr fun symbol _ => ⟨rfl, trivial⟩)
  rcases ok_of_checkStmt_templateDecl ran with
    ⟨declared, prepared, ready, last, ranDeclare, ranPrepare, _⟩
  have leads : begun.Leads _ := .methods begun.binders ranDeclare ranPrepare
  have accepted := leads.accepted ⟨after, ran⟩
  rcases Visit.covers_of_methods among member accepted with ⟨outer, reaches, same⟩
  rcases Visit.covers_of_inside (same ▸ inside) (reaches.accepted accepted) with
    ⟨inner, reachesInner, sameInner⟩
  have reached : Visit.Reaches _ inner := reaches.trans reachesInner
  rcases reached.binders_grow with ⟨added, grown⟩
  have bound : (name, Binder.template) ∈ inner.binders := by simp [grown]
  have linkedInner := Visit.Reaches.linked (reached.head leads) linked
  rcases reached.accepted accepted with ⟨innerEnd, ranInner⟩
  rw [sameInner] at ranInner
  rcases ok_of_checkStmt_templateDecl ranInner with ⟨_, _, _, _, ranDeclareInner, _⟩
  rintro rfl
  exact linkedInner.bound_of_mem bound (ok_of_declareTemplate ranDeclareInner).1

theorem foreignBodies_of_plain
    (ran : checkStmt (.templateDecl position name attributes methods) state = .ok () after)
    (plain : (Part.stmt (.templateDecl position name attributes methods)).WritesNoCopies)
    (distinct : DistinctMethods methods) : ForeignBodies name methods where
  distinct := distinct.nodup
  signatures method among copy mentioned :=
    plain _ (.single (.methodType position name attributes among)) copy mentioned
  bodies method among stmt member inner inside := by
    refine ⟨?_, ?_, distinct.inside method among stmt member inner inside⟩
    · rintro type rfl
      exact plain type (inside.head (.methodBody position name attributes among member))
    · rintro place other innerAttributes innerMethods rfl
      exact ne_of_templateDecl_inside ran among member inside

/-- What the check of a declaration makes of a template, whose last version is bound and
recorded. -/
structure Course.Describes (course : Course) (name : String) (attributes : List (String × Ty))
    (methods : List FnDecl) (before after : CheckState) : Prop where
  written : course.written = declaredTemplate name attributes methods
  passes : ∃ position declared ready last,
    declareTemplate course.written (before.movedTo position) = .ok () declared ∧
      prepareMethods course.written 0 methods declared = .ok course.prepared ready ∧
      checkMethods course.prepared 0 methods ready = .ok () last
  bound : after.scopes = before.scopes.bound name (.template course.final)
  recorded : ∀ (index : Nat) (method : FnDecl), methods[index]? = some method →
    ∃ signature, after.analysis.signatures.get? method.id = some signature ∧
      course.final.methods[index]? = some (method.name, signature)
  lawful : course.Lawful
  copied : course.Copied

theorem getElem?_declaredTemplate {index : Nat} {method : FnDecl}
    (found : methods[index]? = some method) :
    (declaredTemplate name attributes methods).methods[index]? = some method.asMethod := by
  rw [declaredTemplate, List.getElem?_map, found]
  rfl

/-- A template that has been declared is bound to a version of what is written, and the signatures
of its methods are recorded. -/
theorem course_of_templateDecl
    (ran : checkStmt (.templateDecl position name attributes methods) state = .ok () after)
    (fresh : ∀ symbol ∈ state.scopes.symbols, ∀ copy, .template copy ∈ symbol.2.mentions →
      copy.name ≠ name)
    (plain : (Part.stmt (.templateDecl position name attributes methods)).WritesNoCopies)
    (distinct : DistinctMethods methods) :
    ∃ course : Course, course.Describes name attributes methods state after := by
  have foreign := foreignBodies_of_plain ran plain distinct
  rcases ok_of_checkStmt_templateDecl ran with
    ⟨declared, prepared, ready, last, ranDeclare, ranPrepare, ranMethods, rfl⟩
  rcases ok_of_declareTemplate ranDeclare with ⟨_, defined, _⟩
  rcases scopes_of_define defined with ⟨unbound, bound⟩
  let written := declaredTemplate name attributes methods
  have begun : Holding state.scopes written written (Recorded methods 0 written) declared :=
    ⟨bound, .refl written, fun place impossible => absurd impossible (Nat.not_lt_zero place)⟩
  rcases holding_of_prepareMethods foreign (fun _ => id) unbound fresh
    (declares_declaredTemplate name attributes methods) begun ranPrepare with ⟨ready', prepares⟩
  -- The second pass starts with the versions that the first one has left.
  have sameName : prepared.name = name := ready'.version.name
  have restart : Holding state.scopes prepared prepared (Recorded methods 0 prepared) ready :=
    ⟨by rw [ready'.scopes, sameName]; rfl, .refl prepared,
      fun place impossible => absurd impossible (Nat.not_lt_zero place)⟩
  rcases holding_of_checkMethods (sameName ▸ foreign) rfl (sameName ▸ unbound) (sameName ▸ fresh)
    (fun earlier impossible => absurd impossible (Nat.not_lt_zero earlier)) restart ranMethods with
    ⟨final, holding, checks, known⟩
  have lengthPrepared : prepared.methods.length = methods.length :=
    ready'.version.length_eq.trans (List.length_map _)
  have lengthFinal := holding.version.length_eq.trans lengthPrepared
  have within {template : Template} {index : Nat} {method : String × Signature}
      (length : template.methods.length = methods.length)
      (found : template.methods[index]? = some method) : index < methods.length :=
    length ▸ (List.getElem?_eq_some_iff.mp found).1
  have lawful : Course.Lawful ⟨written, prepared, final⟩ := by
    refine ⟨ready'.version, holding.version, fun index method found => ?_⟩
    exact known index (within lengthFinal found) method found
  have copied : Course.Copied ⟨written, prepared, final⟩ := by
    constructor
    · intro copy mentioned
      rcases Template.mem_mentions.mp mentioned with
        ⟨entry, among, member⟩ | ⟨index, method, found, member⟩
      · have held := Part.Holds.attributeType position name methods among
        exact absurd member (plain entry.2 (.single held) copy)
      · have among := List.mem_of_getElem? found
        rcases List.mem_map.mp among with ⟨declaration, amongMethods, rfl⟩
        exact absurd member (foreign.signatures declaration amongMethods copy)
    · intro index method found
      have copies := prepares.copies index (within lengthPrepared found) method
      rw [Nat.zero_add] at copies
      exact copies found
    · intro index method found
      have copies := checks.copies index (within lengthFinal found) method
      rw [Nat.zero_add] at copies
      exact copies found
  refine ⟨⟨written, prepared, final⟩, rfl,
    ⟨position, declared, ready, last, ranDeclare, ranPrepare, ranMethods⟩,
    sameName ▸ holding.scopes, fun index method found => ?_, lawful, copied⟩
  have version := (ready'.version.trans holding.version).methods index
  rw [getElem?_declaredTemplate found] at version
  generalize current : final.methods[index]? = entry at version
  cases version with
  | @some _ entry related =>
      rcases entry with ⟨other, signature⟩
      have record := holding.records index (within lengthFinal current) method found
        (other, signature) current
      exact ⟨signature, record, by rw [show method.name = other from related.1]⟩

/-- What has been found out so far makes no difference to what an action finds. -/
theorem ok_of_same_scopes {α : Type} {action : Checker α} {first second last : CheckState}
    {value : α} (mirrors : Likeness.tracking.Mirrors [] [] action)
    (sameScopes : first.scopes = second.scopes) (samePosition : first.position = second.position)
    (ran : action first = .ok value last) : ∃ ended, action second = .ok value ended := by
  have alike : Likeness.tracking.States [] first second := by
    refine ⟨samePosition, trivial, [], .refl [], .base (by simp [ScopeStack.scopes]) ?_⟩
    rw [sameScopes]
    exact List.forall₂_same.mpr fun scope _ => Likeness.Scopes.refl scope
  have outcomes := mirrors first second alike
  rw [ran] at outcomes
  generalize action second = other at outcomes
  cases outcomes with
  | @ok _ _ ended _ => exact ⟨ended, rfl⟩

theorem method_of_method?_eq {first second : Template} {method : String} {count : Nat}
    {signature : Signature} (same : first.method? method = second.method? method)
    (found : Rule.method (.template second) method count = .ok signature) :
    Rule.method (.template first) method count = .ok signature := by
  simp only [Rule.method, Ty.hasMembers, Ty.method?, if_true] at found ⊢
  rw [same]
  cases here : second.method? method with
  | none =>
      rw [here] at found
      contradiction
  | some other =>
      rw [here] at found
      exact found

theorem known_of_method {template : Template} {method : String} {count : Nat}
    {signature : Signature}
    (found : Rule.method (.template template) method count = .ok signature) :
    template.method? method = some signature ∧ signature.result.isInfer = false := by
  simp only [Rule.method, Ty.hasMembers, Ty.method?, if_true] at found
  cases here : template.method? method with
  | none =>
      rw [here] at found
      contradiction
  | some other =>
      simp only [here, Rule.called] at found
      split at found
      · contradiction
      · split at found
        · contradiction
        · rename_i known
          rw [← Except.ok.inj found]
          exact ⟨rfl, by simpa using known⟩

/-- A method is called on one template like on another one that gives it the same signature. -/
theorem checkExpr_methodCall_of_same_method {first second : Template} {method : String}
    (same : first.method? method = second.method? method)
    {later between last : CheckState} {object holder : Expr} {arguments : List Expr} {type : Ty}
    (ranObject : checkExpr object later = .ok (.template first) between)
    (ranHolder : checkExpr holder later = .ok (.template second) later)
    (ran : checkExpr (.methodCall holder method arguments) later = .ok type last) :
    ∃ ended, checkExpr (.methodCall object method arguments) later = .ok type ended := by
  rw [checkExpr] at ran
  rcases ok_of_bind_eq_ok ran with ⟨result, called, ranCall, ranResolve⟩
  rw [bind_of_ok ranHolder] at ranCall
  rcases ok_of_bind_eq_ok ranCall with ⟨signature, followed, ranMethod, ranArguments⟩
  rcases ok_of_follow ranMethod with ⟨found, rfl⟩
  -- The rest of the call depends on the signature only, and not on what was found out before.
  let rest : Checker Ty := resolve =<< (do
    checkArguments signature.params arguments
    pure signature.result)
  have unveiled (impossible : Likeness.tracking.veiled) : true ∈ ([] : List Bool) :=
    False.elim impossible
  have mirrors : Likeness.tracking.Mirrors [] [] rest :=
    ((mirrors_checkArguments unveiled signature.params arguments).then
      fun _ => Likeness.mirrors_pure _).then Likeness.mirrors_resolve
  have ranRest : rest followed = .ok type last := (bind_of_ok ranArguments resolve).trans ranResolve
  rcases (keeps_checkExpr object).of_ok ranObject with ⟨samePosition, sameScopes⟩
  rcases ok_of_same_scopes mirrors sameScopes samePosition.symm ranRest with ⟨ended, ranAgain⟩
  refine ⟨ended, ?_⟩
  rw [checkExpr, ← ranAgain]
  show (_ >>= resolve) followed = (_ >>= resolve) between
  rw [bind_apply, bind_of_ok ranObject, method_of_method?_eq same found]
  rfl

/-- A call of a method is accepted only where the result of the method is known. -/
theorem known_of_checkExpr_methodCall {template : Template} {later between ended : CheckState}
    {object : Expr} {method : String} {arguments : List Expr} {type : Ty}
    (ranObject : checkExpr object later = .ok (.template template) between)
    (ran : checkExpr (.methodCall object method arguments) later = .ok type ended) :
    ∃ signature, template.method? method = some signature ∧ signature.result.isInfer = false := by
  rw [checkExpr] at ran
  rcases ok_of_bind_eq_ok ran with ⟨result, called, ranCall, _⟩
  rw [bind_of_ok ranObject] at ranCall
  rcases ok_of_bind_eq_ok ranCall with ⟨signature, followed, ranMethod, _⟩
  exact ⟨signature, known_of_method (ok_of_follow ranMethod).1⟩

variable {course : Course}

/-- A method that is not hidden by one in front of it is called on a version of a template like on
the template as it is left, exactly where its result was known at that stage. -/
theorem Course.Describes.call_iff (describes : course.Describes name attributes methods state after)
    {index : Nat} {method : FnDecl} (found : methods[index]? = some method)
    (first : ∀ earlier < index, ∀ other ∈ methods[earlier]?, other.name ≠ method.name)
    (stage : Stage) {later between last : CheckState} {object holder : Expr}
    {arguments : List Expr} {type : Ty}
    (ranObject : checkExpr object later = .ok (.template (course.version stage)) between)
    (ranHolder : checkExpr holder later = .ok (.template course.final) later)
    (ran : checkExpr (.methodCall holder method.name arguments) later = .ok type last) :
    (∃ ended, checkExpr (.methodCall object method.name arguments) later = .ok type ended) ↔
      course.Knows index stage := by
  have lawful := describes.lawful
  have foundWritten : course.written.methods[index]? = some method.asMethod := by
    rw [describes.written]
    exact getElem?_declaredTemplate found
  have firstWritten (earlier : Nat) (before : earlier < index) :
      ∀ other ∈ course.written.methods[earlier]?, other.1 ≠ method.asMethod.1 := by
    intro other isOther
    rw [describes.written, declaredTemplate, List.getElem?_map] at isOther
    rcases Option.map_eq_some_iff.mp isOther with ⟨declaration, isDeclaration, rfl⟩
    exact first earlier before declaration isDeclaration
  have inVersion := (lawful.version stage).method?_eq foundWritten firstWritten
  have inFinal := (lawful.prepared.trans lawful.final).method?_eq foundWritten firstWritten
  constructor
  · rintro ⟨ended, ranCopy⟩
    rcases known_of_checkExpr_methodCall ranObject ranCopy with ⟨signature, isMethod, known⟩
    rw [← lawful.knows_iff]
    intro entry isEntry
    rw [show (course.version stage).method? method.name = _ from inVersion,
      Option.mem_def.mp isEntry] at isMethod
    rw [Option.map_some, Option.some.injEq] at isMethod
    rw [isMethod]
    exact known
  · intro known
    refine checkExpr_methodCall_of_same_method ?_ ranObject ranHolder ran
    exact (inVersion.trans (by rw [(lawful.getElem?_eq_iff index stage).mpr known])).trans
      inFinal.symm

/-- The template goes through a row of versions while a declaration is checked, the last of which is
bound and recorded. Every copy of the template in its type is one of them. A copy in the signature
of a method is no later one than the version for which the result of the method was found: if the
result was found in advance, it has no results of methods behind this one but those that are
declared. A version has the recorded signature of each method whose result was known at its stage,
and the written one, with an open result, of the others. So on a copy, as the value of any
expression, just the methods with known results can be called like on a variable of the template,
with a result of the same type. -/
theorem template_copies_are_versions
    (ran : checkStmt (.templateDecl position name attributes methods) state = .ok () after)
    (fresh : ∀ symbol ∈ state.scopes.symbols, ∀ copy, .template copy ∈ symbol.2.mentions →
      copy.name ≠ name)
    (plain : (Part.stmt (.templateDecl position name attributes methods)).WritesNoCopies)
    (distinct : DistinctMethods methods) :
    ∃ course : Course, course.Describes name attributes methods state after ∧
      (∀ copy, .template copy ∈ (Ty.template course.final).mentions → copy.name = name →
        ∃ stage, copy = course.version stage) ∧
      (∀ (index : Nat) (method : String × Signature), course.final.methods[index]? = some method →
        ∀ copy, .template copy ∈ method.2.mentions → copy.name = name →
          ∃ stage : Stage, stage.NotBehind (.checking index) ∧
            (course.prepared.Knows index → stage.NotBehind (.preparing index)) ∧
            copy = course.version stage) ∧
      ∀ stage : Stage, (course.version stage).name = name ∧
        (course.version stage).attributes = attributes ∧
        ∀ (index : Nat) (method : FnDecl), methods[index]? = some method →
          ((∃ signature, after.analysis.signatures.get? method.id = some signature ∧
              (course.version stage).methods[index]? = some (method.name, signature)) ↔
            course.Knows index stage) ∧
          (¬ course.Knows index stage →
            (course.version stage).methods[index]? = some (method.name, method.signature) ∧
              method.signature.result.isInfer = true) ∧
          ((∀ earlier < index, ∀ other ∈ methods[earlier]?, other.name ≠ method.name) →
            ∀ (later between last : CheckState) (object holder : Expr) (arguments : List Expr)
              (type : Ty),
              checkExpr object later = .ok (.template (course.version stage)) between →
              checkExpr holder later = .ok (.template course.final) later →
              checkExpr (.methodCall holder method.name arguments) later = .ok type last →
              ((∃ ended,
                checkExpr (.methodCall object method.name arguments) later = .ok type ended) ↔
                course.Knows index stage)) := by
  rcases course_of_templateDecl ran fresh plain distinct with ⟨course, describes⟩
  have lawful := describes.lawful
  have sameName : course.written.name = name := by rw [describes.written]; rfl
  refine ⟨course, describes, ?_, ?_, fun stage => ⟨?_, ?_, ?_⟩⟩
  · intro copy mentioned same
    rw [← lawful.version_last] at mentioned
    rcases describes.copied.earlier lawful mentioned (same.trans sameName.symm) with
      ⟨stage, -, isVersion⟩
    exact ⟨stage, isVersion⟩
  · intro index method found copy mentioned same
    exact describes.copied.earlier_of_method lawful found mentioned (same.trans sameName.symm)
  · exact (lawful.name_version stage).trans sameName
  · rw [lawful.attributes_version, describes.written]
    rfl
  · intro index method found
    refine ⟨?_, ?_, ?_⟩
    · rcases describes.recorded index method found with ⟨recorded, isRecorded, inFinal⟩
      rw [← lawful.getElem?_eq_iff, inFinal]
      constructor
      · rintro ⟨signature, same, inVersion⟩
        rw [inVersion, Option.some.inj (same.symm.trans isRecorded)]
      · exact fun same => ⟨recorded, isRecorded, same⟩
    · intro unknown
      rw [← lawful.knows_iff] at unknown
      have same := (lawful.version stage).eq_of_not_knows unknown
      rw [describes.written, getElem?_declaredTemplate found] at same
      refine ⟨same, ?_⟩
      rw [Template.Knows, same] at unknown
      simpa [FnDecl.asMethod] using unknown
    · intro first later between last object holder arguments type ranObject ranHolder ranCall
      exact describes.call_iff found first stage ranObject ranHolder ranCall

end Declaration

/-- A template with a method that returns a value of the template and one that returns a number,
both with results that are still to be found. -/
def chainedMethods : List FnDecl :=
  [⟨Position.unknown, 0, "a", { result := .infer, params := [] },
      ⟨Position.unknown, [.returning Position.unknown (some (.entity "N" []))]⟩⟩,
    ⟨Position.unknown, 1, "b", { result := .infer, params := [] },
      ⟨Position.unknown, [.returning Position.unknown (some (.integer 2))]⟩⟩]

def chainedTemplate : Stmt :=
  .templateDecl Position.unknown "N" [("v", .int)] chainedMethods

/-- The copy of this template that is taken when the first method is prepared. -/
def chainedCopy : Template :=
  { name := "N", attributes := [("v", .int)],
    methods := [("a", { result := .infer, params := [] }),
      ("b", { result := .infer, params := [] })] }

def chainedFinal : Template :=
  { name := "N", attributes := [("v", .int)],
    methods := [("a", { result := .template chainedCopy, params := [] }),
      ("b", { result := .int, params := [] })] }

def chainedState : CheckState :=
  { scopes := ScopeStack.initial.bound "N" (.template chainedFinal)
    analysis :=
      { types := [],
        signatures := [(0, { result := .template chainedCopy, params := [] }),
          (1, { result := .int, params := [] })] }
    position := Position.unknown }

theorem chained_template_declared :
    checkStmt chainedTemplate CheckState.initial = .ok () chainedState := by
  cbv

/-- The parts that stand in this template. -/
def chainedParts : List Part :=
  [.type .int, .type (.function { result := .infer, params := [] }),
    .stmt (.returning Position.unknown (some (.entity "N" []))),
    .stmt (.returning Position.unknown (some (.integer 2))), .expr (.entity "N" []),
    .expr (.integer 2)]

theorem mem_chainedParts_of_holds {part inner : Part}
    (among : part = .stmt chainedTemplate ∨ part ∈ chainedParts) (holds : part.Holds inner) :
    inner ∈ chainedParts := by
  rcases among with rfl | among
  · cases holds with
    | attributeType position name methods member =>
        cases List.mem_singleton.mp member
        simp [chainedParts]
    | methodType position name attributes among =>
        simp only [chainedMethods, List.mem_cons, List.not_mem_nil, or_false] at among
        rcases among with rfl | rfl <;> simp [chainedParts]
    | methodBody position name attributes among member =>
        simp only [chainedMethods, List.mem_cons, List.not_mem_nil, or_false] at among
        rcases among with rfl | rfl <;> cases List.mem_singleton.mp member <;> simp [chainedParts]
    | nested among member => contradiction
    | stmtOperand member => contradiction
  · simp only [chainedParts, List.mem_cons, List.not_mem_nil, or_false] at among
    rcases among with rfl | rfl | rfl | rfl | rfl | rfl
    · contradiction
    · contradiction
    · cases holds with
      | stmtOperand member =>
          cases List.mem_singleton.mp member
          simp [chainedParts]
      | nested among member => contradiction
    · cases holds with
      | stmtOperand member =>
          cases List.mem_singleton.mp member
          simp [chainedParts]
      | nested among member => contradiction
    · cases holds with
      | operand member => contradiction
    · cases holds with
      | operand member => contradiction

theorem mem_chainedParts {part inner : Part} (among : part ∈ chainedParts)
    (inside : Relation.ReflTransGen Part.Holds part inner) : inner ∈ chainedParts := by
  induction inside with
  | refl => exact among
  | tail _ holds ih => exact mem_chainedParts_of_holds (.inr ih) holds

theorem chained_template_writesNoCopies : (Part.stmt chainedTemplate).WritesNoCopies := by
  intro type inside copy
  rcases inside.cases_head with impossible | ⟨part, holds, rest⟩
  · cases impossible
  · have among := mem_chainedParts (mem_chainedParts_of_holds (.inl rfl) holds) rest
    simp only [chainedParts, List.mem_cons, List.not_mem_nil, Part.type.injEq, reduceCtorEq,
      or_false] at among
    rcases among with rfl | rfl <;> simp [Ty.mentions, Signature.mentions, mentionsIn]

theorem chainedMethods_distinct : DistinctMethods chainedMethods := by
  refine ⟨by simp [chainedMethods], ?_⟩
  intro method among stmt member inner inside id
  have held : (Part.stmt chainedTemplate).Holds (.stmt stmt) := .methodBody _ _ _ among member
  have known := mem_chainedParts (mem_chainedParts_of_holds (.inl rfl) held) inside
  simp only [chainedParts, List.mem_cons, List.not_mem_nil, or_false] at known
  rcases known with rfl | rfl | rfl | rfl | rfl | rfl <;>
    exact fun impossible => (List.not_mem_nil impossible).elim

theorem chained_template_copies :
    checkStmt chainedTemplate CheckState.initial = .ok () chainedState ∧
      ∃ course : Course,
        course.Describes "N" [("v", .int)] chainedMethods CheckState.initial chainedState ∧
        course.final = chainedFinal ∧
        ∃ stage : Stage, stage.NotBehind (.checking 0) ∧ chainedCopy = course.version stage ∧
          ¬course.Knows 1 stage := by
  refine ⟨chained_template_declared, ?_⟩
  rcases template_copies_are_versions chained_template_declared
    (fun _ held => (List.not_mem_nil held).elim) chained_template_writesNoCopies
    chainedMethods_distinct with ⟨course, describes, -, copies, versions⟩
  have sameFinal : course.final = chainedFinal := by
    have bound : some (Ty.template chainedFinal) = some (Ty.template course.final) :=
      congrArg (ScopeStack.lookup? · .everywhere "N") describes.bound
    exact (Ty.template.inj (Option.some.inj bound)).symm
  have inFirst : Mention.template chainedCopy ∈
      Signature.mentions { result := .template chainedCopy, params := [] } := List.mem_cons_self
  rcases copies 0 ("a", { result := .template chainedCopy, params := [] }) (by rw [sameFinal]; rfl)
    chainedCopy inFirst rfl with ⟨stage, before, -, isVersion⟩
  refine ⟨course, describes, sameFinal, stage, before, isVersion, fun known => ?_⟩
  rcases ((versions stage).2.2 1 _ rfl).1.mpr known with ⟨signature, recorded, inVersion⟩
  have asInt : some ({ result := .int, params := [] } : Signature) = some signature := recorded
  have asOpen : some ("b", ({ result := .infer, params := [] } : Signature)) =
      some ("b", signature) := by
    rw [← isVersion] at inVersion
    exact inVersion
  cases asInt
  cases asOpen

/-- A variable of the template, and what follows it. -/
def chainedProgram (rest : List Stmt) : Program :=
  ⟨chainedTemplate ::
    .varDecl Position.unknown 2 "x" (.named "N") (.entity "N" [("v", .integer 1)]) :: rest⟩

/-- The copy of the template in the result of its first method does not have the recorded signature
of the second one. So a call on the value of the first method is refused, though it is accepted on a
variable that holds the value. -/
theorem copy_of_template_is_stale :
    (checkStmt chainedTemplate CheckState.initial = .ok () chainedState ∧
      chainedState.scopes.lookup? .everywhere "N" = some (.template chainedFinal) ∧
      chainedFinal.mentions = [.template chainedCopy] ∧ chainedCopy.name = "N" ∧
      chainedCopy.method? "b" = some { result := .infer, params := [] } ∧
      chainedState.analysis.signatures.get? 1 = some { result := .int, params := [] }) ∧
    (chainedProgram
      [.varDecl Position.unknown 3 "z" (.named "N") (.methodCall (.identifier "x") "a" []),
        .varDecl Position.unknown 4 "y" .int (.methodCall (.identifier "z") "b" [])]).check.isOk =
          true ∧
    (chainedProgram
      [.varDecl Position.unknown 3 "y" .int
        (.methodCall (.methodCall (.identifier "x") "a" []) "b" [])]).check =
      .error { cause := .typing (.returnTypeNotInferred "b"), position := Position.unknown } := by
  refine ⟨⟨chained_template_declared, rfl, rfl, rfl, rfl, rfl⟩, ?_, ?_⟩
  · cbv
  · cbv

end ScriptCheck
