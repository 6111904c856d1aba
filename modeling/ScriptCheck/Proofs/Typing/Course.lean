import ScriptCheck.Proofs.Typing.Mention
import ScriptCheck.Proofs.Typing.Settling

/-!
# The versions of a template

The methods of a template are prepared one after the other, and then checked one after the other.
Each of them gets the signature that was found for it at once, so the template goes through a row of
versions: in each, the first methods have come one step further than the others. A copy that is
taken on the way is the version of that moment, and is not told about the later ones.

`Course` is this row, given by its first version, the one between the two passes, and the last one.
A version has the last signature of a method exactly where the result of the method was known at
that stage (`Course.Lawful.getElem?_eq_iff`), and a copy of the template in one of its versions is
the version of an earlier stage (`Course.Copied.earlier`).
-/

namespace ScriptCheck

/-- The template whose first methods have gone over to later signatures. -/
def Template.between (before after : Template) (count : Nat) : Template :=
  { before with methods := after.methods.take count ++ before.methods.drop count }

/-- The result of the method at an index is not open, if there is one. -/
def Template.Knows (template : Template) (index : Nat) : Prop :=
  ∀ method ∈ template.methods[index]?, method.2.result.isInfer = false

/-- The copies of a template in a signature are the template itself, or are in it already. -/
def Signature.CopiesIn (signature : Signature) (template : Template) : Prop :=
  ∀ copy, .template copy ∈ signature.mentions → copy.name = template.name →
    .template copy ∈ (Ty.template template).mentions

/-- A template as it is declared, after its methods have been prepared, and after they have been
checked. -/
structure Course where
  written : Template
  prepared : Template
  final : Template

/-- How far the methods of a template have come: the first ones have been prepared, or all of them
have been prepared and the first ones have been checked. -/
inductive Stage where
  | preparing (count : Nat)
  | checking (count : Nat)

/-- A stage is not behind another one. -/
def Stage.NotBehind : Stage → Stage → Prop
  | .preparing count, .preparing limit => count ≤ limit
  | .preparing _, .checking _ => True
  | .checking _, .preparing _ => False
  | .checking count, .checking limit => count ≤ limit

namespace Course

/-- The template as it is bound at a stage. -/
def version (course : Course) : Stage → Template
  | .preparing count => course.written.between course.prepared count
  | .checking count => course.prepared.between course.final count

/-- The result of a method is known at a stage: it is declared, or it has been found by then. -/
def Knows (course : Course) (index : Nat) : Stage → Prop
  | .preparing count => course.written.Knows index ∨ index < count ∧ course.prepared.Knows index
  | .checking count => course.prepared.Knows index ∨ index < count

/-- Signatures only change by the results that are found for them, and in the end all results have
been found. -/
structure Lawful (course : Course) : Prop where
  prepared : course.written.Version course.prepared
  final : course.prepared.Version course.final
  known : ∀ index, course.final.Knows index

/-- Where the copies of the template in its methods come from. No copy is written, and what is found
for a method has the copies that the version of that moment gives it. -/
structure Copied (course : Course) : Prop where
  written : ∀ copy, .template copy ∈ course.written.mentions → copy.name ≠ course.written.name
  prepared : ∀ (index : Nat) method, course.prepared.methods[index]? = some method →
    method.2.CopiesIn (course.version (.preparing index))
  final : ∀ (index : Nat) method, course.final.methods[index]? = some method →
    method.2.CopiesIn (course.version (.checking index))

end Course

theorem Stage.NotBehind.trans {first second third : Stage} (before : first.NotBehind second)
    (after : second.NotBehind third) : first.NotBehind third := by
  cases first <;> cases second <;> cases third <;> simp_all only [Stage.NotBehind]
  · exact Nat.le_trans before after
  · exact Nat.le_trans before after

theorem Stage.NotBehind.refl (stage : Stage) : stage.NotBehind stage := by
  cases stage <;> exact Nat.le_refl _

namespace Template

variable {before after template : Template} {count index : Nat} {signature : Signature}

theorem getElem?_between (sameLength : after.methods.length = before.methods.length)
    (count index : Nat) :
    (before.between after count).methods[index]? =
      if index < count then after.methods[index]? else before.methods[index]? := by
  show (after.methods.take count ++ before.methods.drop count)[index]? = _
  rw [List.getElem?_append, List.length_take, List.getElem?_take, List.getElem?_drop]
  by_cases inside : index < count
  · rw [if_pos inside, if_pos inside]
    split
    · rfl
    · rw [List.getElem?_eq_none (by omega), List.getElem?_eq_none (by omega)]
  · rw [if_neg (by omega), if_neg inside]
    by_cases enough : count ≤ after.methods.length
    · rw [Nat.min_eq_left enough, Nat.add_sub_cancel' (by omega)]
    · rw [List.getElem?_eq_none (by omega), List.getElem?_eq_none (by omega)]

/-- Before any later signature is taken over, nothing has changed. -/
theorem between_of_take_eq (same : after.methods.take count = before.methods.take count) :
    before.between after count = before := by
  rcases before with ⟨name, attributes, methods⟩
  rw [between, same, List.take_append_drop]

theorem between_length (sameName : after.name = before.name)
    (sameAttributes : after.attributes = before.attributes)
    (sameLength : after.methods.length = before.methods.length) :
    before.between after before.methods.length = after := by
  rcases after with ⟨name, attributes, methods⟩
  rw [between, ← sameName, ← sameAttributes, ← sameLength, List.take_length, sameLength,
    List.drop_length, List.append_nil]

/-- A method that has gone over already may have had any signature. -/
theorem between_setMethod (passed : index < count) :
    (before.setMethod index signature).between after count = before.between after count := by
  have others : (before.setMethod index signature).methods.drop count =
      before.methods.drop count := by
    apply List.ext_getElem?
    intro place
    rw [List.getElem?_drop, List.getElem?_drop, getElem?_setMethod, if_neg (by omega)]
  rw [between, others]
  rfl

/-- The methods in front of the one that is set stay. -/
theorem take_setMethod (passed : count ≤ index) :
    (before.setMethod index signature).methods.take count = before.methods.take count := by
  apply List.ext_getElem?
  intro place
  rw [List.getElem?_take, List.getElem?_take]
  split
  · rw [getElem?_setMethod, if_neg (by omega)]
  · rfl

theorem Version.between (version : before.Version after) (count : Nat) :
    before.Version (before.between after count) := by
  refine ⟨rfl, rfl, fun index => ?_⟩
  rw [getElem?_between version.length_eq]
  split
  · exact version.methods index
  · exact (Version.refl before).methods index

theorem Version.of_between (version : before.Version after) (count : Nat) :
    (before.between after count).Version after := by
  refine ⟨version.name, version.attributes, fun index => ?_⟩
  rw [getElem?_between version.length_eq]
  split
  · exact (Version.refl after).methods index
  · exact version.methods index

theorem Version.trans {final : Template} (first : before.Version after)
    (second : after.Version final) : before.Version final := by
  refine ⟨second.name.trans first.name, second.attributes.trans first.attributes, fun index => ?_⟩
  have earlier := first.methods index
  have later := second.methods index
  generalize before.methods[index]? = one, after.methods[index]? = two,
    final.methods[index]? = three at earlier later
  cases earlier with
  | none =>
      cases later
      exact .none
  | some related =>
      cases later with
      | some relatedLater =>
          exact .some ⟨related.1.trans relatedLater.1, related.2.trans relatedLater.2⟩

/-- A known result stays as it is. -/
theorem Version.eq_of_knows (version : before.Version after) (known : before.Knows index) :
    after.methods[index]? = before.methods[index]? := by
  have related := version.methods index
  unfold Template.Knows at known
  generalize before.methods[index]? = first, after.methods[index]? = second at related known
  cases related with
  | none => rfl
  | @some first second related =>
      rcases related with ⟨sameName, same | ⟨isOpen, _, _⟩⟩
      · rw [Prod.ext sameName.symm same]
      · rw [known first rfl] at isOpen
        contradiction

/-- A result that is still open has been open from the beginning. -/
theorem Version.eq_of_not_knows (version : before.Version after) (unknown : ¬after.Knows index) :
    after.methods[index]? = before.methods[index]? := by
  have related := version.methods index
  unfold Template.Knows at unknown
  generalize before.methods[index]? = first, after.methods[index]? = second at related unknown
  cases related with
  | none => rfl
  | @some first second related =>
      rcases related with ⟨sameName, same | ⟨-, known, -⟩⟩
      · rw [Prod.ext sameName.symm same]
      · exact absurd (fun found isFound => Option.some.inj isFound ▸ known) unknown

/-- A method is looked up where no method in front of it has the same name. -/
theorem Version.method?_eq (version : before.Version after) {method : String × Signature}
    (found : before.methods[index]? = some method)
    (first : ∀ earlier < index, ∀ other ∈ before.methods[earlier]?, other.1 ≠ method.1) :
    after.method? method.1 = (after.methods[index]?).map (·.2) := by
  have through (index : Nat) (befores afters : List (String × Signature))
      (related : ∀ place : Nat, Option.Rel
        (fun before after : String × Signature => before.1 = after.1 ∧ before.2.Settles after.2)
        befores[place]? afters[place]?)
      (found : befores[index]? = some method)
      (first : ∀ earlier < index, ∀ other ∈ befores[earlier]?, other.1 ≠ method.1) :
      afters.lookup method.1 = (afters[index]?).map (·.2) := by
    induction index generalizing befores afters with
    | zero =>
        have head := related 0
        rw [found] at head
        cases afters with
        | nil => nomatch head
        | cons next rest =>
            rcases next with ⟨name, signature⟩
            rw [List.getElem?_cons_zero] at head
            cases head with
            | some settled => simp [settled.1]
    | succ index ih =>
        cases befores with
        | nil => nomatch found
        | cons next rest =>
            have head := related 0
            have different := first 0 (Nat.succ_pos index) next rfl
            cases afters with
            | nil => nomatch head
            | cons nextAfter restAfter =>
                rw [List.getElem?_cons_zero, List.getElem?_cons_zero] at head
                cases head with
                | some settled =>
                    have apart : (method.1 == nextAfter.1) = false :=
                      beq_false_of_ne fun same => different (settled.1.trans same.symm)
                    rw [List.lookup_cons, apart, List.getElem?_cons_succ]
                    exact ih rest restAfter (fun place => related (place + 1)) found
                      fun earlier inside => first (earlier + 1) (Nat.succ_lt_succ inside)
  exact through index before.methods after.methods version.methods found first

/-- What a template mentions stands in an attribute or in a method. -/
theorem mem_mentions {mention : Mention} :
    mention ∈ template.mentions ↔
      (∃ entry ∈ template.attributes, mention ∈ entry.2.mentions) ∨
        ∃ index : Nat, ∃ method, template.methods[index]? = some method ∧
          mention ∈ method.2.mentions := by
  rcases template with ⟨name, attributes, methods⟩
  rw [Template.mentions, List.mem_append, mem_mentionsIn, mem_mentionsInMethods]
  refine or_congr_right ⟨?_, ?_⟩
  · rintro ⟨method, among, member⟩
    rcases List.getElem?_of_mem among with ⟨index, found⟩
    exact ⟨index, method, found, member⟩
  · rintro ⟨index, method, found, member⟩
    exact ⟨method, List.mem_of_getElem? found, member⟩

end Template

namespace Course

variable {course : Course} {index : Nat} {stage : Stage}

theorem Lawful.name_version (lawful : course.Lawful) (stage : Stage) :
    (course.version stage).name = course.written.name := by
  cases stage with
  | preparing count => rfl
  | checking count => exact lawful.prepared.name

theorem Lawful.attributes_version (lawful : course.Lawful) (stage : Stage) :
    (course.version stage).attributes = course.written.attributes := by
  cases stage with
  | preparing count => rfl
  | checking count => exact lawful.prepared.attributes

theorem Lawful.version (lawful : course.Lawful) (stage : Stage) :
    course.written.Version (course.version stage) := by
  cases stage with
  | preparing count => exact lawful.prepared.between count
  | checking count => exact lawful.prepared.trans (lawful.final.between count)

/-- At the last stage, the template is as it is left. -/
theorem Lawful.version_last (lawful : course.Lawful) :
    course.version (.checking course.prepared.methods.length) = course.final :=
  Template.between_length lawful.final.name lawful.final.attributes lawful.final.length_eq

/-- A method whose result is known at a stage has its last signature then, and no other one has. -/
theorem Lawful.knows_iff (lawful : course.Lawful) (index : Nat) (stage : Stage) :
    (course.version stage).Knows index ↔ course.Knows index stage := by
  cases stage with
  | preparing count =>
      rw [Course.version, Course.Knows, Template.Knows,
        Template.getElem?_between lawful.prepared.length_eq]
      split
      · rename_i inside
        constructor
        · exact fun known => .inr ⟨inside, known⟩
        · rintro (declared | ⟨-, known⟩)
          · rw [lawful.prepared.eq_of_knows declared]
            exact declared
          · exact known
      · rename_i outside
        exact ⟨.inl, fun known => known.resolve_right fun found => outside found.1⟩
  | checking count =>
      rw [Course.version, Course.Knows, Template.Knows,
        Template.getElem?_between lawful.final.length_eq]
      split
      · rename_i inside
        exact ⟨fun _ => .inr inside, fun _ => lawful.known index⟩
      · rename_i outside
        exact ⟨.inl, fun known => known.resolve_right outside⟩

theorem Lawful.version_final (lawful : course.Lawful) (stage : Stage) :
    (course.version stage).Version course.final := by
  cases stage with
  | preparing count => exact (lawful.prepared.of_between count).trans lawful.final
  | checking count => exact lawful.final.of_between count

theorem Lawful.getElem?_eq_iff (lawful : course.Lawful) (index : Nat) (stage : Stage) :
    (course.version stage).methods[index]? = course.final.methods[index]? ↔
      course.Knows index stage := by
  rw [← lawful.knows_iff]
  constructor
  · intro same
    rw [Template.Knows, same]
    exact lawful.known index
  · exact fun known => ((lawful.version_final stage).eq_of_knows known).symm

/-- A copy of the template in one of its versions is the version of a stage that is not behind. -/
theorem Copied.earlier (copied : course.Copied) (lawful : course.Lawful) {stage : Stage}
    {copy : Template} (mentioned : .template copy ∈ (Ty.template (course.version stage)).mentions)
    (sameName : copy.name = course.written.name) :
    ∃ earlier : Stage, earlier.NotBehind stage ∧ copy = course.version earlier := by
  have inMethod {stage : Stage}
      (mentioned : .template copy ∈ (Ty.template (course.version stage)).mentions)
      (other : copy ≠ course.version stage) :
      ∃ index : Nat, ∃ method, (course.version stage).methods[index]? = some method ∧
        .template copy ∈ method.2.mentions := by
    rcases List.mem_cons.mp mentioned with same | inside
    · exact absurd (Mention.template.inj same) other
    · refine (Template.mem_mentions.mp inside).resolve_left ?_
      rintro ⟨entry, among, member⟩
      rw [lawful.attributes_version] at among
      exact copied.written copy (Template.mem_mentions.mpr (.inl ⟨entry, among, member⟩)) sameName
  have preparing (count : Nat) (mentioned :
      .template copy ∈ (Ty.template (course.version (.preparing count))).mentions) :
      ∃ earlier : Stage, earlier.NotBehind (.preparing count) ∧ copy = course.version earlier := by
    induction count using Nat.strongRecOn with
    | ind count ih =>
        by_cases same : copy = course.version (.preparing count)
        · exact ⟨_, .refl _, same⟩
        · rcases inMethod mentioned same with ⟨index, method, found, member⟩
          rw [Course.version, Template.getElem?_between lawful.prepared.length_eq] at found
          split at found
          · rename_i inside
            rcases ih index inside (copied.prepared index method found copy member sameName) with
              ⟨earlier, before, isVersion⟩
            exact ⟨earlier, before.trans (Nat.le_of_lt inside), isVersion⟩
          · have inWritten := Template.mem_mentions.mpr (.inr ⟨index, method, found, member⟩)
            exact absurd sameName (copied.written copy inWritten)
  cases stage with
  | preparing count => exact preparing count mentioned
  | checking count =>
      induction count using Nat.strongRecOn with
      | ind count ih =>
          by_cases same : copy = course.version (.checking count)
          · exact ⟨_, .refl _, same⟩
          · rcases inMethod mentioned same with ⟨index, method, found, member⟩
            rw [Course.version, Template.getElem?_between lawful.final.length_eq] at found
            split at found
            · rename_i inside
              have sameFinal := sameName.trans (lawful.name_version (.checking index)).symm
              rcases ih index inside (copied.final index method found copy member sameFinal) with
                ⟨earlier, before, isVersion⟩
              exact ⟨earlier, before.trans (Nat.le_of_lt inside), isVersion⟩
            · rcases preparing index (copied.prepared index method found copy member sameName) with
                ⟨earlier, before, isVersion⟩
              exact ⟨earlier, before.trans trivial, isVersion⟩

/-- A copy in the signature of a method was taken before the method got this signature. -/
theorem Copied.earlier_of_method (copied : course.Copied) (lawful : course.Lawful) {index : Nat}
    {method : String × Signature} (found : course.final.methods[index]? = some method)
    {copy : Template} (mentioned : .template copy ∈ method.2.mentions)
    (sameName : copy.name = course.written.name) :
    ∃ earlier : Stage, earlier.NotBehind (.checking index) ∧
      (course.prepared.Knows index → earlier.NotBehind (.preparing index)) ∧
      copy = course.version earlier := by
  by_cases known : course.prepared.Knows index
  · rw [lawful.final.eq_of_knows known] at found
    rcases copied.earlier lawful (copied.prepared index method found copy mentioned sameName)
      sameName with ⟨earlier, before, isVersion⟩
    exact ⟨earlier, before.trans trivial, fun _ => before, isVersion⟩
  · have sameFinal := sameName.trans (lawful.name_version (.checking index)).symm
    rcases copied.earlier lawful (copied.final index method found copy mentioned sameFinal)
      sameName with ⟨earlier, before, isVersion⟩
    exact ⟨earlier, before, fun impossible => absurd impossible known, isVersion⟩

end Course

end ScriptCheck
