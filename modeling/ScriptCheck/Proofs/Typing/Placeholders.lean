import Mathlib
import ScriptCheck.Proofs.Typing.FoundForms

/-!
# No placeholders

The type `infer` is written where a type is still to be found. Where it is written as the whole type
of a variable or the whole result of a function only, every type that is recorded for an accepted
program has been found, unless a function is read while its own result is open. A call of such a
function is refused, by its name and as a method alike, but its value can be taken: a method can be
read from a value of its template, or by its bare name in the body of another method, before its own
body has been checked. What is recorded then keeps the placeholder.

A function is only open under a name that the program gives to a function or a method which it
writes with `infer` as the result. So no function is read while it is open where none of these names
is read, other than in a call.
-/

namespace ScriptCheck

open Checker

namespace Program

/-- A function or a method with this name is written with an open result. So it may also be in a
template that is written out as a type, though no source text writes one. -/
inductive Opens (program : Program) : String → Prop where
  | function {declaration : FnDecl} (contains : program.Contains (.stmt (.fnDecl declaration)))
      (isOpen : declaration.signature.result.isInfer = true) : Opens program declaration.name
  | method {position : Position} {name : String} {attributes : List (String × Ty)}
      {methods : List FnDecl} {method : FnDecl}
      (contains : program.Contains (.stmt (.templateDecl position name attributes methods)))
      (among : method ∈ methods) (isOpen : method.signature.result.isInfer = true) :
      Opens program method.name
  | copy {type : Ty} {template : Template} {method : String × Signature}
      (contains : program.Contains (.type type)) (mentioned : .template template ∈ type.mentions)
      (among : method ∈ template.methods) (isOpen : method.2.result.isInfer = true) :
      Opens program method.1

variable {program : Program}

theorem renames_of_written {written : Ty} (contains : program.Contains (.type written)) :
    written.Within (Mention.Renames anyName program.Opens) := by
  intro mention mentioned
  cases mention with
  | name name => trivial
  | template copy => exact fun method among isOpen _ => .copy contains mentioned among isOpen

theorem promised_of_written {signature : Signature} (promised : signature.Promised anyName)
    (contains : program.Contains (.type (.function signature))) :
    signature.Promised program.Opens :=
  Signature.Promised.under signature promised (renames_of_written contains)

/-- Whatever is written whole is so with the names that the program declares. -/
theorem writesWhole_of_contains {part : Part} (contains : program.Contains part)
    (whole : part.WritesWhole anyName) : part.WritesWhole program.Opens := by
  cases part with
  | expr written =>
      cases written with
      | function params body =>
          have holds := contains_of_holds contains (.literalType params body)
          exact foundIn_under params whole (renames_of_written holds)
      | _ => trivial
  | stmt written =>
      cases written with
      | varDecl position id name declared initializer =>
          have holds := contains_of_holds contains
            (.declaredType position id name declared initializer)
          exact whole.imp_right fun found =>
            Ty.Found.under declared found (renames_of_written holds)
      | fnDecl declaration =>
          have holds := contains_of_holds contains (.functionType declaration)
          exact ⟨promised_of_written whole.promised holds, fun isOpen => .function contains isOpen⟩
      | templateDecl position name attributes methods =>
          refine ⟨foundIn_iff.mpr fun entry member => ?_, fun method among => ?_⟩
          · have holds := contains_of_holds contains (.attributeType position name methods member)
            exact Ty.Found.under entry.2 (foundIn_iff.mp whole.1 entry member)
              (renames_of_written holds)
          · have holds := contains_of_holds contains (.methodType position name attributes among)
            exact ⟨promised_of_written (whole.2 method among).promised holds,
              fun isOpen => .method contains among isOpen⟩
      | _ => trivial
  | _ => trivial

end Program

theorem promising_initial (opens : String → Prop) :
    (promising opens).Obeyed false CheckState.initial where
  symbols _ impossible := nomatch impossible
  nearest impossible := nomatch impossible
  records := ⟨(fun _ impossible => nomatch impossible), fun _ impossible => nomatch impossible⟩

/-- No placeholder is left in what is recorded for an accepted program, where `infer` is written
where it may be, and no function is read while it is open. -/
theorem recorded_types_are_found {program : Program} {analysis : Analysis}
    (accepted : program.check = .ok analysis)
    (whole : ∀ part, program.Contains part → part.WritesWhole anyName)
    (closed : ∀ moment, program.Comes moment → ¬moment.ReadsOpen program.Opens) :
    analysis.Found anyName := by
  have wholeStmt (stmt : Stmt) (member : stmt ∈ program.body) :
      (Part.stmt stmt).InfersWhole program.Opens := fun inner inside =>
    Program.writesWhole_of_contains ⟨stmt, member, inside⟩ (whole inner ⟨stmt, member, inside⟩)
  unfold Program.check at accepted
  cases ran : checkStmts program.body CheckState.initial with
  | error diagnostic after =>
      rw [ran] at accepted
      contradiction
  | ok value after =>
      rw [ran] at accepted
      rw [← Except.ok.inj accepted]
      have ends := Promising.ends_checkStmts program.body wholeStmt closed
        (promising_initial program.Opens)
      exact (ends.of_ok ran).2.records.anyName

/-- A program that reads no name of an open function or method, as a variable or as a member, reads
no function while it is open. Calls by such a name do not count. -/
theorem Program.not_readsOpen {program : Program} {moment : Moment}
    (unnamed : ∀ name, program.Opens name → ¬program.Contains (.expr (.identifier name)))
    (unread : ∀ object name, program.Opens name → ¬program.Contains (.expr (.member object name)))
    (comes : program.Comes moment) : ¬moment.ReadsOpen program.Opens := by
  rintro (⟨opened, bound, isOpen⟩ | ⟨opened, ran, declared, isOpen⟩)
  · exact unnamed _ opened (contains_of_comes comes ⟨_, List.mem_cons_self, .refl⟩)
  · exact unread _ _ opened (contains_of_comes comes ⟨_, List.mem_cons_self, .refl⟩)

/-- A template with an open method that reads an attribute, a variable that reads the attribute as
well, and one for the result of a call. -/
def calledInTime : Program :=
  ⟨[.templateDecl Position.unknown "T" [("a", .int)]
      [⟨Position.unknown, 0, "m", { result := .infer, params := [] }, ⟨Position.unknown,
        [.returning Position.unknown (some (.array [.identifier "a"]))]⟩⟩],
    .varDecl Position.unknown 1 "t" (.named "T") (.entity "T" [("a", .integer 1)]),
    .varDecl Position.unknown 2 "x" .infer (.member (.identifier "t") "a"),
    .varDecl Position.unknown 3 "y" .infer (.methodCall (.identifier "t") "m" [])]⟩

def calledInTimeParts : List Part :=
  calledInTime.body.map .stmt ++
    [.type .int, .type (.function { result := .infer, params := [] }),
      .stmt (.returning Position.unknown (some (.array [.identifier "a"]))),
      .expr (.array [.identifier "a"]), .expr (.identifier "a"), .type (.named "T"),
      .expr (.entity "T" [("a", .integer 1)]), .expr (.integer 1), .type .infer,
      .expr (.member (.identifier "t") "a"), .expr (.identifier "t"),
      .expr (.methodCall (.identifier "t") "m" [])]

def calledInTimeRecorded : Analysis where
  types := [(1, .template ⟨"T", [("a", .int)], [("m", { result := .array .int, params := [] })]⟩),
    (2, .int), (3, .array .int)]
  signatures := [(0, { result := .array .int, params := [] })]

theorem mem_calledInTimeParts {part : Part} (contains : calledInTime.Contains part) :
    part ∈ calledInTimeParts := by
  rcases contains with ⟨stmt, member, inside⟩
  refine Part.mem_of_inside ?_ (List.mem_append_left _ (List.mem_map_of_mem member)) inside
  simp [calledInTimeParts, calledInTime, Part.inner, Expr.operands, Stmt.operands, Stmt.blocks]

/-- Nothing but the method is open. -/
theorem name_of_calledInTime_opens {name : String} (opened : calledInTime.Opens name) :
    name = "m" := by
  cases opened with
  | function contains isOpen =>
      have among := mem_calledInTimeParts contains
      simp [calledInTimeParts, calledInTime] at among
  | method contains among isOpen =>
      have written := mem_calledInTimeParts contains
      simp only [calledInTimeParts, calledInTime, List.map_cons, List.map_nil, List.cons_append,
        List.nil_append, List.mem_cons, List.not_mem_nil, Part.stmt.injEq, Stmt.templateDecl.injEq,
        reduceCtorEq, or_false] at written
      rcases written with ⟨rfl, rfl, rfl, rfl⟩
      rw [List.mem_singleton.mp among]
  | copy contains mentioned among isOpen =>
      have written := mem_calledInTimeParts contains
      simp only [calledInTimeParts, calledInTime, List.map_cons, List.map_nil, List.cons_append,
        List.nil_append, List.mem_cons, List.not_mem_nil, Part.type.injEq, reduceCtorEq, false_or,
        or_false] at written
      rcases written with rfl | rfl | rfl | rfl <;>
        simp [Ty.mentions, Signature.mentions, mentionsIn] at mentioned

theorem calledInTime_found :
    calledInTime.check = .ok calledInTimeRecorded ∧ calledInTimeRecorded.Found anyName := by
  have accepted : calledInTime.check = .ok calledInTimeRecorded := by cbv
  refine ⟨accepted, recorded_types_are_found accepted (fun part contains => ?_) fun moment comes =>
    Program.not_readsOpen (fun name opened contains => ?_)
      (fun object name opened contains => ?_) comes⟩
  · have among := mem_calledInTimeParts contains
    simp only [calledInTimeParts, calledInTime, List.map_cons, List.map_nil, List.cons_append,
      List.nil_append, List.mem_cons, List.not_mem_nil, or_false] at among
    rcases among with rfl | rfl | rfl | rfl | rfl | rfl | rfl | rfl | rfl | rfl | rfl | rfl | rfl |
      rfl | rfl | rfl <;>
      simp [Part.WritesWhole, Ty.isInfer, Signature.promisedAs_iff, Signature.promised_iff, foundIn,
        Ty.Found, anyName]
  · cases name_of_calledInTime_opens opened
    simpa [calledInTimeParts, calledInTime] using mem_calledInTimeParts contains
  · cases name_of_calledInTime_opens opened
    simpa [calledInTimeParts, calledInTime] using mem_calledInTimeParts contains

/-- A template whose first method takes the second one from a value of the template, and calls
it. -/
def openRead : Program :=
  ⟨[.templateDecl Position.unknown "T" [("v", .int)]
      [⟨Position.unknown, 1, "m", { result := .infer, params := [("t", .named "T")] },
        ⟨Position.unknown,
          [.varDecl Position.unknown 0 "x" .infer (.call (.member (.identifier "t") "n") []),
            .returning Position.unknown (some (.integer 1))]⟩⟩,
        ⟨Position.unknown, 2, "n", { result := .infer, params := [] },
          ⟨Position.unknown,
            [.returning Position.unknown (some (.call (.identifier "k") []))]⟩⟩,
        ⟨Position.unknown, 3, "k", { result := .infer, params := [] },
          ⟨Position.unknown, [.returning Position.unknown (some (.integer 2))]⟩⟩]]⟩

def openReadParts : List Part :=
  openRead.body.map .stmt ++
    [.type .int, .type (.function { result := .infer, params := [("t", .named "T")] }),
      .type (.function { result := .infer, params := [] }),
      .stmt (.varDecl Position.unknown 0 "x" .infer (.call (.member (.identifier "t") "n") [])),
      .type .infer, .expr (.call (.member (.identifier "t") "n") []),
      .expr (.member (.identifier "t") "n"), .expr (.identifier "t"),
      .stmt (.returning Position.unknown (some (.integer 1))), .expr (.integer 1),
      .stmt (.returning Position.unknown (some (.call (.identifier "k") []))),
      .expr (.call (.identifier "k") []),
      .stmt (.returning Position.unknown (some (.integer 2))), .expr (.integer 2)]

/-- The variable keeps the placeholder, though the results of all three methods are found. -/
def openReadRecorded : Analysis where
  types := [(0, .infer)]
  signatures := [(1, { result := .int, params := [("t", .named "T")] }),
    (2, { result := .int, params := [] }), (3, { result := .int, params := [] })]

theorem writesWhole_of_openRead {part : Part} (contains : openRead.Contains part) :
    part.WritesWhole anyName := by
  have among : part ∈ openReadParts := by
    rcases contains with ⟨stmt, member, inside⟩
    refine Part.mem_of_inside ?_ (List.mem_append_left _ (List.mem_map_of_mem member)) inside
    simp [openReadParts, openRead, Part.inner, Expr.operands, Stmt.operands, Stmt.blocks,
      Expr.name?]
  simp only [openReadParts, openRead, List.map_cons, List.map_nil, List.cons_append,
    List.nil_append, List.mem_cons, List.not_mem_nil, or_false] at among
  rcases among with rfl | rfl | rfl | rfl | rfl | rfl | rfl | rfl | rfl | rfl | rfl | rfl | rfl |
    rfl | rfl <;>
    simp [Part.WritesWhole, Ty.isInfer, Signature.promisedAs_iff, Signature.promised_iff, foundIn,
      Ty.Found, anyName]

/-- A placeholder is recorded for an accepted program that writes `infer` only where it may. -/
theorem openRead_left_open :
    openRead.check = .ok openReadRecorded ∧
      (∀ part, openRead.Contains part → part.WritesWhole anyName) ∧
      openReadRecorded.types.get? 0 = some .infer ∧ ¬openReadRecorded.Found anyName := by
  have accepted : openRead.check = .ok openReadRecorded := by cbv
  refine ⟨accepted, fun _ contains => writesWhole_of_openRead contains, rfl, fun found => ?_⟩
  exact found.types (0, .infer) List.mem_cons_self rfl

end ScriptCheck
