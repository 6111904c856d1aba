import ScriptCheck.Proofs.Typing.Placement

/-!
# Statements that never complete

A statement that leaves a function or a round of a loop never completes, and neither does a block
with such a statement in it, nor a choice with one in each of its blocks. What comes behind such a
statement is never reached.

The check finds these statements out as long as no block statement is among them: the scope of a
block forgets, when it is left, that its end cannot be reached. So the statements that never
complete are those that the check knows (`Stmt.isExiting`) and those that end in a block statement,
and only the latter have statements behind them in an accepted program.
-/

namespace ScriptCheck

mutual

/-- Whether a statement always leaves what lies around it, whichever way it goes. -/
def Stmt.neverCompletes : Stmt → Bool
  | .returning .. | .halt _ | .skip _ => true
  | .block content => content.neverCompletes
  | .ifElse _ _ thenBlock elseBlock => thenBlock.neverCompletes && elseNeverCompletes elseBlock
  | .varDecl .. | .expression .. | .whileLoop .. | .range .. | .each .. | .fnDecl _ | .echo ..
  | .templateDecl .. => false
  termination_by structural stmt => stmt

/-- Whether some statement of a block never completes. -/
def Block.neverCompletes : Block → Bool
  | ⟨_, body⟩ => neverCompletesIn body
  termination_by structural block => block

/-- Whether there is a block behind `else`, and some statement of it never completes. -/
def elseNeverCompletes : Option Block → Bool
  | none => false
  | some block => block.neverCompletes
  termination_by structural block => block

/-- Whether some statement of a list never completes. -/
def neverCompletesIn : List Stmt → Bool
  | [] => false
  | stmt :: rest => stmt.neverCompletes || neverCompletesIn rest
  termination_by structural body => body

end

/-- The statement never completes because of a block statement: it is one, or a choice that never
completes with one in a block of it, inside of nothing but other such choices. -/
inductive Stmt.EndsInBlock : Stmt → Prop
  | block {content : Block} (ends : content.neverCompletes = true) : EndsInBlock (.block content)
  | thenBlock {position : Position} {condition : Expr} {thenBlock : Block}
      {elseBlock : Option Block} {inner : Stmt} (member : inner ∈ thenBlock.body)
      (ends : inner.EndsInBlock) (otherwise : elseNeverCompletes elseBlock = true) :
      EndsInBlock (.ifElse position condition thenBlock elseBlock)
  | elseBlock {position : Position} {condition : Expr} {thenBlock elseBlock : Block} {inner : Stmt}
      (otherwise : thenBlock.neverCompletes = true) (member : inner ∈ elseBlock.body)
      (ends : inner.EndsInBlock) :
      EndsInBlock (.ifElse position condition thenBlock (some elseBlock))

theorem neverCompletesIn_iff {body : List Stmt} :
    neverCompletesIn body = true ↔ ∃ stmt ∈ body, stmt.neverCompletes = true := by
  induction body with
  | nil => simp [neverCompletesIn]
  | cons stmt rest ih => simp [neverCompletesIn, ih]

theorem exitsIn_iff {body : List Stmt} :
    exitsIn body = true ↔ ∃ stmt ∈ body, stmt.isExiting = true := by
  induction body with
  | nil => simp [exitsIn]
  | cons stmt rest ih => simp [exitsIn, ih]

theorem Block.neverCompletes_iff {block : Block} :
    block.neverCompletes = true ↔ ∃ stmt ∈ block.body, stmt.neverCompletes = true := by
  rcases block with ⟨position, body⟩
  rw [Block.neverCompletes, neverCompletesIn_iff]

theorem Block.exits_iff {block : Block} :
    block.exits = true ↔ ∃ stmt ∈ block.body, stmt.isExiting = true := by
  rw [Block.exits_eq, exitsIn_iff]

/-- The statements that never complete, divided by what the check makes of them. -/
def Stmt.Divided (stmt : Stmt) : Prop :=
  stmt.neverCompletes = true ↔ stmt.isExiting = true ∨ stmt.EndsInBlock

/-- A block never completes because of a statement that the check knows, or because of one that
ends in a block statement. -/
theorem Block.neverCompletes_cases {block : Block}
    (divided : ∀ inner ∈ block.body, inner.Divided) :
    block.neverCompletes = true ↔
      block.exits = true ∨ ∃ inner ∈ block.body, inner.EndsInBlock := by
  rw [Block.neverCompletes_iff, Block.exits_iff, ← exists_or]
  refine exists_congr fun inner => ?_
  rw [← and_or_left]
  exact and_congr_right (divided inner)

theorem Stmt.divided_choice {position : Position} {condition : Expr} {thenBlock : Block}
    {elseBlock : Option Block} (dividedThen : ∀ inner ∈ thenBlock.body, inner.Divided)
    (dividedElse : ∀ block ∈ elseBlock, ∀ inner ∈ block.body, inner.Divided) :
    (Stmt.ifElse position condition thenBlock elseBlock).Divided := by
  have casesThen := Block.neverCompletes_cases dividedThen
  rw [Stmt.Divided, Stmt.neverCompletes, Stmt.isExiting, Bool.and_eq_true, Bool.and_eq_true]
  cases elseBlock with
  | none =>
      -- Without a block behind `else` the choice may complete.
      simp only [elseNeverCompletes, elseExits, Bool.false_eq_true, and_false, false_or, false_iff]
      intro ends
      cases ends with
      | thenBlock member ends otherwise => contradiction
  | some block =>
      have casesElse := Block.neverCompletes_cases (dividedElse block rfl)
      rw [elseNeverCompletes, elseExits]
      constructor
      · rintro ⟨endsThen, endsElse⟩
        rcases casesThen.mp endsThen with exitsThen | ⟨inner, member, ends⟩
        · rcases casesElse.mp endsElse with exitsElse | ⟨inner, member, ends⟩
          · exact .inl ⟨exitsThen, exitsElse⟩
          · exact .inr (.elseBlock endsThen member ends)
        · exact .inr (.thenBlock member ends endsElse)
      · rintro (⟨exitsThen, exitsElse⟩ | ends)
        · exact ⟨casesThen.mpr (.inl exitsThen), casesElse.mpr (.inl exitsElse)⟩
        · cases ends with
          | thenBlock member ends otherwise =>
              exact ⟨casesThen.mpr (.inr ⟨_, member, ends⟩), otherwise⟩
          | elseBlock otherwise member ends =>
              exact ⟨otherwise, casesElse.mpr (.inr ⟨_, member, ends⟩)⟩

theorem Stmt.divided_block (content : Block) : (Stmt.block content).Divided := by
  rw [Stmt.Divided, Stmt.neverCompletes, Stmt.isExiting]
  constructor
  · exact fun ends => .inr (.block ends)
  · rintro (exits | ends)
    · contradiction
    · cases ends with
      | block ends => exact ends

mutual

/-- A statement never completes just where the check knows it or where it ends in a block
statement. -/
theorem Stmt.divided (stmt : Stmt) : stmt.Divided := by
  cases stmt with
  | block content => exact Stmt.divided_block content
  | ifElse position condition thenBlock elseBlock =>
      exact Stmt.divided_choice (Block.divided thenBlock) (divided_else elseBlock)
  | returning | halt | skip => simp [Stmt.Divided, Stmt.neverCompletes, Stmt.isExiting]
  | _ =>
      simp only [Stmt.Divided, Stmt.neverCompletes, Stmt.isExiting, Bool.false_eq_true, false_or,
        false_iff]
      nofun
  termination_by structural stmt

theorem Block.divided (block : Block) : ∀ inner ∈ block.body, inner.Divided := by
  rcases block with ⟨position, body⟩
  exact divided_list body
  termination_by structural block

theorem divided_else (elseBlock : Option Block) :
    ∀ block ∈ elseBlock, ∀ inner ∈ block.body, inner.Divided := by
  cases elseBlock with
  | none => nofun
  | some block =>
      intro other member
      cases Option.mem_some.mp member
      exact Block.divided block
  termination_by structural elseBlock

theorem divided_list (body : List Stmt) : ∀ inner ∈ body, inner.Divided := by
  cases body with
  | nil => nofun
  | cons stmt rest => exact List.forall_mem_cons.mpr ⟨Stmt.divided stmt, divided_list rest⟩
  termination_by structural body

end

/-- In an accepted program, a statement that never completes and has another one behind it ends in
a block statement. A program that is refused for unreachable code has a statement that never
completes directly before the one that is reported. -/
theorem only_blocks_end_unnoticed (program : Program) :
    (∀ analysis, program.check = .ok analysis → ∀ around before stmt next after,
      program.Places ⟨.stmts (before ++ stmt :: next :: after), around⟩ →
        stmt.neverCompletes = true → stmt.EndsInBlock ∧ stmt.isExiting = false) ∧
    ∀ diagnostic, program.check = .error diagnostic →
      diagnostic.cause = .flow .unreachableCode → ∃ around before stmt next after,
        program.Places ⟨.stmts (before ++ stmt :: next :: after), around⟩ ∧
          stmt.neverCompletes = true ∧ next.position = diagnostic.position := by
  constructor
  · intro analysis accepted around before stmt next after stands ends
    rcases (Stmt.divided stmt).mp ends with exiting | inBlock
    · exact absurd (.unreachable before next after around exiting)
        (Program.not_breaks_of_check accepted stands .unreachableCode next.position)
    · refine ⟨inBlock, Bool.eq_false_iff.mpr fun exiting => ?_⟩
      exact Program.not_breaks_of_check accepted stands .unreachableCode next.position
        (.unreachable before next after around exiting)
  · intro diagnostic refused cause
    obtain ⟨place, stands, breaks⟩ := Program.breaks_of_check refused rfl cause
    generalize diagnostic.position = position at breaks
    cases breaks with
    | unreachable before next after around exiting =>
        exact ⟨around, before, _, next, after, stands, (Stmt.divided _).mpr (.inl exiting), rfl⟩
    | misplaced outside =>
        rcases Stmt.misplacement?_eq_some outside with ⟨_, -, other, -⟩ | ⟨_, -, other, -⟩ |
          ⟨_, _, -, other, -⟩ <;> contradiction

/-- A function whose body is a statement with an output behind it. -/
def functionBefore (first : Stmt) : FnDecl where
  position := Position.unknown
  id := 1024
  name := "f"
  signature := { result := .void, params := [] }
  body := { position := Position.unknown, body := [first, .echo Position.unknown .null] }

def outputBehind (first : Stmt) : Program :=
  { body := [.fnDecl (functionBefore first)] }

/-- The statements of the function. -/
theorem outputBehind_places (first : Stmt) :
    (outputBehind first).Places ⟨.stmts [first, .echo Position.unknown .null], .ofFunction⟩ := by
  have inside : functionBefore first ∈ (Stmt.fnDecl (functionBefore first)).functions :=
    List.mem_singleton_self _
  refine .tail (.single (.stmt .outermost (List.mem_singleton_self _))) ?_
  exact .function .outermost inside

/-- A return in a block of its own. -/
def returnInBlock : Stmt :=
  .block { position := Position.unknown, body := [.returning Position.unknown none] }

theorem outputBehind_ends :
    (∃ analysis, (outputBehind returnInBlock).check = .ok analysis ∧
      returnInBlock.EndsInBlock ∧ returnInBlock.isExiting = false) ∧
    ∃ diagnostic,
      (outputBehind (.returning Position.unknown none)).check = .error diagnostic ∧
      ∃ around before stmt next after,
        (outputBehind (.returning Position.unknown none)).Places
          ⟨.stmts (before ++ stmt :: next :: after), around⟩ ∧
        stmt.neverCompletes = true ∧ next.position = diagnostic.position := by
  constructor
  · refine ⟨_, rfl, ?_⟩
    exact (only_blocks_end_unnoticed _).1 _ rfl _ [] returnInBlock _ []
      (outputBehind_places returnInBlock) rfl
  · refine ⟨_, rfl, ?_⟩
    exact (only_blocks_end_unnoticed _).2 _ rfl rfl

/-- A statement behind a block that returns is accepted. -/
theorem outputBehind_block_accepted :
    ¬ ∀ program analysis around before stmt next after,
      Program.check program = .ok analysis →
        program.Places ⟨.stmts (before ++ stmt :: next :: after), around⟩ →
          stmt.neverCompletes = false := by
  intro completes
  have := completes (outputBehind returnInBlock) _ _ [] returnInBlock _ [] rfl
    (outputBehind_places returnInBlock)
  contradiction

end ScriptCheck
