import ScriptCheck.Proofs.Typing.Accepted

/-!
# Where the first return statement stands

`firstReturn?` answers with the returned value. Two return statements can return the same value, so
the statement itself is known by its path: how far behind the beginning of a list of statements it
stands, and in which of the blocks on the way down. `locateReturn?` goes through the statements as
`firstReturn?` does and answers with the path as well.

Paths are ordered as their statements are in the source, and what is located is the first of all
return statements in this order.
-/

namespace ScriptCheck

/-- Where a statement stands in a list of statements: it is the first one, or stands behind the
first one, or in one of the blocks of the first one. -/
inductive StmtPath where
  | here
  | later (path : StmtPath)
  | inside (block : Nat) (path : StmtPath)

namespace StmtPath

/-- The order of the source, where a statement begins before the statements in its blocks. -/
inductive Before : StmtPath → StmtPath → Prop where
  | hereLater (path : StmtPath) : Before .here (.later path)
  | hereInside (block : Nat) (path : StmtPath) : Before .here (.inside block path)
  | insideLater (block : Nat) (path other : StmtPath) : Before (.inside block path) (.later other)
  | later {path other : StmtPath} (before : Before path other) : Before (.later path) (.later other)
  | blocks {block next : Nat} (path other : StmtPath) (lower : block < next) :
      Before (.inside block path) (.inside next other)
  | inside {path other : StmtPath} (block : Nat) (before : Before path other) :
      Before (.inside block path) (.inside block other)

end StmtPath

/-- The statement at a path. -/
def stmtAt? : List Stmt → StmtPath → Option Stmt
  | [], _ => none
  | stmt :: _, .here => some stmt
  | _ :: rest, .later path => stmtAt? rest path
  | stmt :: _, .inside block path =>
    stmt.blocks[block]?.bind fun content => stmtAt? content.body path
  termination_by structural _ path => path

/-- A return statement, with the path to it. -/
structure ReturnStmt where
  path : StmtPath
  position : Position
  value : Option Expr

mutual

/-- The first return statement in a statement. `place` leads from the paths in the statement on its
own to the paths around it. -/
def Stmt.locateReturn? (place : StmtPath → StmtPath) : Stmt → Option ReturnStmt
  | .returning position value => some { path := place .here, position, value }
  | .block content => content.locateReturn? (place ∘ .inside 0)
  | .ifElse _ _ thenBlock elseBlock =>
    (thenBlock.locateReturn? (place ∘ .inside 0)).or
      (locateReturnElse? (place ∘ .inside 1) elseBlock)
  | .whileLoop _ _ body => body.locateReturn? (place ∘ .inside 0)
  | .range _ _ _ _ _ body => body.locateReturn? (place ∘ .inside 0)
  | .each _ _ _ body => body.locateReturn? (place ∘ .inside 0)
  | .varDecl .. | .expression .. | .halt _ | .skip _ | .fnDecl _ | .echo .. | .templateDecl .. =>
    none
  termination_by structural stmt => stmt

/-- The first return statement in a block. -/
def Block.locateReturn? (place : StmtPath → StmtPath) : Block → Option ReturnStmt
  | ⟨_, body⟩ => locateReturnIn? place body
  termination_by structural block => block

/-- The first return statement in a block behind `else`. -/
def locateReturnElse? (place : StmtPath → StmtPath) : Option Block → Option ReturnStmt
  | none => none
  | some block => block.locateReturn? place
  termination_by structural block => block

/-- The first return statement in a list of statements. -/
def locateReturnIn? (place : StmtPath → StmtPath) : List Stmt → Option ReturnStmt
  | [] => none
  | stmt :: rest => (stmt.locateReturn? place).or (locateReturnIn? (place ∘ .later) rest)
  termination_by structural body => body

end

mutual

theorem Stmt.value_locateReturn? (place : StmtPath → StmtPath) (stmt : Stmt) :
    (stmt.locateReturn? place).map (·.value) = stmt.firstReturn? := by
  cases stmt with
  | returning position value => rw [Stmt.locateReturn?, Stmt.firstReturn?, Option.map_some]
  | ifElse position condition thenBlock elseBlock =>
      rw [Stmt.locateReturn?, Stmt.firstReturn?, Option.map_or,
        Block.value_locateReturn? _ thenBlock, value_locateReturnElse? _ elseBlock]
  | block content | whileLoop _ _ content | range _ _ _ _ _ content | each _ _ _ content =>
      rw [Stmt.locateReturn?, Stmt.firstReturn?]
      exact Block.value_locateReturn? _ content
  | _ => rw [Stmt.locateReturn?, Stmt.firstReturn?, Option.map_none]
  termination_by structural stmt

/-- What the located statement returns is what `firstReturn?` finds. -/
theorem Block.value_locateReturn? (place : StmtPath → StmtPath) (block : Block) :
    (block.locateReturn? place).map (·.value) = block.firstReturn? := by
  rcases block with ⟨position, body⟩
  rw [Block.locateReturn?, Block.firstReturn?, value_locateReturnIn? place body]
  termination_by structural block

theorem value_locateReturnElse? (place : StmtPath → StmtPath) (elseBlock : Option Block) :
    (locateReturnElse? place elseBlock).map (·.value) = firstReturnElse? elseBlock := by
  cases elseBlock with
  | none => rw [locateReturnElse?, firstReturnElse?, Option.map_none]
  | some block =>
      rw [locateReturnElse?, firstReturnElse?]
      exact Block.value_locateReturn? place block
  termination_by structural elseBlock

theorem value_locateReturnIn? (place : StmtPath → StmtPath) (body : List Stmt) :
    (locateReturnIn? place body).map (·.value) = firstReturnIn? body := by
  cases body with
  | nil => rw [locateReturnIn?, firstReturnIn?, Option.map_none]
  | cons stmt rest =>
      rw [locateReturnIn?, firstReturnIn?, Option.map_or, Stmt.value_locateReturn? place stmt,
        value_locateReturnIn? _ rest]
  termination_by structural body

end

/-- A return statement of a body, and all others come after it in the source. -/
structure IsFirstReturn (body : List Stmt) (found : ReturnStmt) : Prop where
  stands : stmtAt? body found.path = some (.returning found.position found.value)
  first : ∀ path position value, stmtAt? body path = some (.returning position value) →
    path = found.path ∨ found.path.Before path

theorem Stmt.firstReturn?_of_blocks {stmt : Stmt} {block : Block}
    (never : stmt.firstReturn? = none) (among : block ∈ stmt.blocks) :
    block.firstReturn? = none := by
  cases stmt with
  | block content | whileLoop _ _ content | range _ _ _ _ _ content | each _ _ _ content =>
      rw [Stmt.firstReturn?] at never
      cases List.mem_singleton.mp among
      exact never
  | ifElse position condition thenBlock elseBlock =>
      rw [Stmt.firstReturn?, Option.or_eq_none_iff] at never
      rcases List.mem_cons.mp among with rfl | among
      · exact never.1
      · cases Option.mem_toList.mp among
        rw [← never.2, firstReturnElse?]
  | _ => contradiction

/-- Where `firstReturn?` finds nothing, there is no return statement at any depth. -/
theorem stmtAt?_ne_returning {body : List Stmt} (never : firstReturnIn? body = none)
    (path : StmtPath) (position : Position) (value : Option Expr) :
    stmtAt? body path ≠ some (.returning position value) := by
  induction path generalizing body with
  | here =>
      cases body with
      | nil => nofun
      | cons stmt rest =>
          rw [firstReturnIn?, Option.or_eq_none_iff] at never
          intro stands
          cases Option.some.inj stands
          simp [Stmt.firstReturn?] at never
  | later path ih =>
      cases body with
      | nil => nofun
      | cons stmt rest =>
          rw [firstReturnIn?, Option.or_eq_none_iff] at never
          exact ih never.2
  | inside block path ih =>
      cases body with
      | nil => nofun
      | cons stmt rest =>
          rw [firstReturnIn?, Option.or_eq_none_iff] at never
          intro stands
          rcases Option.bind_eq_some_iff.mp stands with ⟨content, among, standsInside⟩
          have neverInside := Stmt.firstReturn?_of_blocks never.1 (List.mem_of_getElem? among)
          rw [Block.firstReturn?_eq] at neverInside
          exact ih neverInside standsInside

namespace IsFirstReturn

variable {stmt : Stmt} {rest : List Stmt} {found : ReturnStmt}

theorem here (position : Position) (value : Option Expr) (rest : List Stmt) :
    IsFirstReturn (.returning position value :: rest) { path := .here, position, value } where
  stands := rfl
  first path _ _ _ := by
    cases path with
    | here => exact .inl rfl
    | later path => exact .inr (.hereLater path)
    | inside block path => exact .inr (.hereInside block path)

theorem later (never : stmt.firstReturn? = none) (isFirst : IsFirstReturn rest found) :
    IsFirstReturn (stmt :: rest) { found with path := .later found.path } where
  stands := isFirst.stands
  first path position value stands := by
    have neverHere : firstReturnIn? [stmt] = none := by
      rw [firstReturnIn?, never, Option.none_or, firstReturnIn?]
    cases path with
    | here => exact absurd stands (stmtAt?_ne_returning neverHere .here position value)
    | inside block path =>
        exact absurd stands (stmtAt?_ne_returning neverHere (.inside block path) position value)
    | later path =>
        rcases isFirst.first path position value stands with rfl | before
        · exact .inl rfl
        · exact .inr before.later

theorem inside {block : Nat} {content : Block} (among : stmt.blocks[block]? = some content)
    (never : ∀ lower < block, ∀ other, stmt.blocks[lower]? = some other →
      other.firstReturn? = none)
    (isFirst : IsFirstReturn content.body found) :
    IsFirstReturn (stmt :: rest) { found with path := .inside block found.path } where
  stands := (congrArg (Option.bind · _) among).trans isFirst.stands
  first path position value stands := by
    cases path with
    | here =>
        cases Option.some.inj stands
        contradiction
    | later path => exact .inr (.insideLater block found.path path)
    | inside next path =>
        rcases Option.bind_eq_some_iff.mp stands with ⟨other, amongNext, standsInside⟩
        -- A return statement in a lower block would have been found by `never`, and one in a
        -- higher block comes later wherever it stands there.
        rcases Nat.lt_trichotomy next block with lower | rfl | higher
        · have neverInside := never next lower other amongNext
          rw [Block.firstReturn?_eq] at neverInside
          exact absurd standsInside (stmtAt?_ne_returning neverInside path position value)
        · cases Option.some.inj (among.symm.trans amongNext)
          rcases isFirst.first path position value standsInside with rfl | before
          · exact .inl rfl
          · exact .inr (before.inside next)
        · exact .inr (.blocks found.path path higher)

end IsFirstReturn

/-- A located statement is the first return statement of the body that `place` leads from. -/
def ReturnStmt.IsFirstBelow (found : ReturnStmt) (place : StmtPath → StmtPath)
    (body : List Stmt) : Prop :=
  ∃ path, found.path = place path ∧ IsFirstReturn body { found with path }

/-- The first block of a statement comes before all others. -/
theorem ReturnStmt.IsFirstBelow.around {place : StmtPath → StmtPath} {found : ReturnStmt}
    {stmt : Stmt} {content : Block} {rest : List Stmt}
    (isFirst : found.IsFirstBelow (place ∘ .inside 0) content.body)
    (among : stmt.blocks[0]? = some content) : found.IsFirstBelow place (stmt :: rest) := by
  rcases isFirst with ⟨path, same, isFirst⟩
  exact ⟨.inside 0 path, same, isFirst.inside among nofun⟩

mutual

theorem Stmt.isFirstBelow_of_locateReturn? {place : StmtPath → StmtPath} {found : ReturnStmt}
    (stmt : Stmt) (rest : List Stmt) (located : stmt.locateReturn? place = some found) :
    found.IsFirstBelow place (stmt :: rest) := by
  cases stmt with
  | returning position value =>
      rw [Stmt.locateReturn?, Option.some.injEq] at located
      rw [← located]
      exact ⟨.here, rfl, .here position value rest⟩
  | ifElse position condition thenBlock elseBlock =>
      rw [Stmt.locateReturn?, Option.or_eq_some_iff] at located
      rcases located with located | ⟨never, located⟩
      · exact (Block.isFirstBelow_of_locateReturn? thenBlock located).around rfl
      · cases elseBlock with
        | none =>
            rw [locateReturnElse?] at located
            contradiction
        | some block =>
            rw [locateReturnElse?] at located
            rcases Block.isFirstBelow_of_locateReturn? block located with ⟨path, same, isFirst⟩
            have neverThen : thenBlock.firstReturn? = none := by
              rw [← Block.value_locateReturn?, never, Option.map_none]
            refine ⟨.inside 1 path, same, isFirst.inside rfl fun lower below other among => ?_⟩
            cases Nat.lt_one_iff.mp below
            cases Option.some.inj among
            exact neverThen
  | block content | whileLoop _ _ content | range _ _ _ _ _ content | each _ _ _ content =>
      rw [Stmt.locateReturn?] at located
      exact (Block.isFirstBelow_of_locateReturn? content located).around rfl
  | _ =>
      rw [Stmt.locateReturn?] at located
      contradiction
  termination_by structural stmt

theorem Block.isFirstBelow_of_locateReturn? {place : StmtPath → StmtPath} {found : ReturnStmt}
    (block : Block) (located : block.locateReturn? place = some found) :
    found.IsFirstBelow place block.body := by
  rcases block with ⟨position, body⟩
  rw [Block.locateReturn?] at located
  exact isFirstBelow_of_locateReturnIn? body located
  termination_by structural block

theorem isFirstBelow_of_locateReturnIn? {place : StmtPath → StmtPath} {found : ReturnStmt}
    (body : List Stmt) (located : locateReturnIn? place body = some found) :
    found.IsFirstBelow place body := by
  cases body with
  | nil =>
      rw [locateReturnIn?] at located
      contradiction
  | cons stmt rest =>
      rw [locateReturnIn?, Option.or_eq_some_iff] at located
      rcases located with located | ⟨never, located⟩
      · exact Stmt.isFirstBelow_of_locateReturn? stmt rest located
      · rcases isFirstBelow_of_locateReturnIn? rest located with ⟨path, same, isFirst⟩
        have neverHere : stmt.firstReturn? = none := by
          rw [← Stmt.value_locateReturn?, never, Option.map_none]
        exact ⟨.later path, same, isFirst.later neverHere⟩
  termination_by structural body

end

/-- What is located in a block on its own is its first return statement. -/
theorem Block.isFirstReturn_of_locateReturn? {block : Block} {found : ReturnStmt}
    (located : block.locateReturn? id = some found) : IsFirstReturn block.body found := by
  rcases Block.isFirstBelow_of_locateReturn? block located with ⟨path, same, isFirst⟩
  rcases found with ⟨foundPath, position, value⟩
  cases same
  exact isFirst

end ScriptCheck
