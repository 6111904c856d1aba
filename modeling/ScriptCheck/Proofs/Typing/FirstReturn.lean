import ScriptCheck.Proofs.Typing.Tracing

/-!
# Three ways to the first return statement

The first return statement of a function body is looked for three times: `firstReturn?` looks for it
in the syntax alone, the search types its value in scopes of its own, and the check comes to it
among all other statements. They agree on the statement, at any depth of blocks, branches and loops
and from every state that the runs get through from.

Both runs are compared with `locateReturn?` by one induction over the statements each. What the
induction carries is how the written visits begin, and it is composed along the steps of a run by
the rules of `Traces`.
-/

namespace ScriptCheck

open Checker

/-- The first of the visits is one to the given statement. -/
def BeginsWith (first : Option ReturnStmt) (visits : List ReturnVisit) : Prop :=
  visits.head?.map (·.stmt) = first

section Check

variable {α β : Type} {one two : Option ReturnStmt}

theorem Traces.andThen {traced : Tracer α} {action : Checker α} {tracedRest : α → Tracer β}
    {rest : α → Checker β} (first : Traces traced action fun _ => BeginsWith one)
    (next : ∀ value, Traces (tracedRest value) (rest value) fun _ => BeginsWith two) :
    Traces (traced >>= tracedRest) (action >>= rest) fun _ => BeginsWith (one.or two) := by
  refine first.bind fun value visits begins => (next value).mono fun _ later beginsLater => ?_
  rw [BeginsWith, List.head?_append, Option.map_or, begins, beginsLater]

mutual

theorem traces_traceStmt (place : StmtPath → StmtPath) (stmt : Stmt) :
    Traces (traceStmt place stmt) (checkStmt stmt) fun _ =>
      BeginsWith (stmt.locateReturn? place) := by
  cases stmt with
  | block content =>
      rw [traceStmt, checkStmt, Stmt.locateReturn?]
      exact ((traces_traceBody _ content).within _).discard.atStmt _
  | ifElse position condition thenBlock elseBlock =>
      rw [traceStmt, checkStmt, Stmt.locateReturn?]
      refine Traces.atStmt _ (.after fun _ => .after fun _ => .after fun _ => ?_)
      refine ((traces_traceBody _ thenBlock).within _).andThen fun first => .after fun _ => ?_
      refine (traces_traceElse _ elseBlock).bind fun goesOn visits begins => ?_
      cases first.reachable || goesOn with
      | true => exact traces_pure () (by rwa [List.append_nil])
      | false => exact traces_silent fun _ _ _ _ => by rwa [List.append_nil]
  | whileLoop position condition body =>
      rw [traceStmt, checkStmt, Stmt.locateReturn?]
      refine Traces.atStmt _ (.after fun _ => .after fun _ => ?_)
      exact ((traces_traceBody _ body).within _).discard
  | range position name first last step body =>
      rw [traceStmt, checkStmt, Stmt.locateReturn?]
      refine Traces.atStmt _ (.after fun _ => .after fun _ => .after fun _ => .after fun _ =>
        .after fun _ => .after fun _ => ?_)
      exact (Traces.within _ (.after fun _ => traces_traceBody _ body)).discard
  | each position name iterable body =>
      rw [traceStmt, checkStmt, Stmt.locateReturn?]
      refine Traces.atStmt _ (.after fun _ => .after fun _ => ?_)
      exact (Traces.within _ (.after fun _ => traces_traceBody _ body)).discard
  | returning position value =>
      rw [traceStmt, checkStmt, Stmt.locateReturn?]
      refine Traces.atStmt _ (.after fun _ => .visiting _ fun _ _ _ _ => ?_)
      exact traces_silent fun _ _ _ _ => rfl
  | _ =>
      rw [traceStmt, Stmt.locateReturn?]
      exact traces_silent fun _ _ _ _ => rfl
  termination_by structural stmt

theorem traces_traceElse (place : StmtPath → StmtPath) (elseBlock : Option Block) :
    Traces (traceElse place elseBlock) (checkElse elseBlock) fun _ =>
      BeginsWith (locateReturnElse? place elseBlock) := by
  cases elseBlock with
  | none =>
      rw [traceElse, checkElse, locateReturnElse?]
      exact traces_pure true rfl
  | some block =>
      rw [traceElse, checkElse, locateReturnElse?]
      exact ((traces_traceBody place block).within _).bind fun _ visits begins =>
        traces_pure _ (by rwa [List.append_nil])
  termination_by structural elseBlock

theorem traces_traceBody (place : StmtPath → StmtPath) (block : Block) :
    Traces (traceBody place block) (checkBody block) fun _ =>
      BeginsWith (block.locateReturn? place) := by
  rcases block with ⟨position, body⟩
  rw [traceBody, checkBody, Block.locateReturn?]
  exact traces_traceStmts place body
  termination_by structural block

theorem traces_traceStmts (place : StmtPath → StmtPath) (body : List Stmt) :
    Traces (traceStmts place body) (checkStmts body) fun _ =>
      BeginsWith (locateReturnIn? place body) := by
  cases body with
  | nil =>
      rw [traceStmts, checkStmts, locateReturnIn?]
      exact traces_pure () rfl
  | cons stmt rest =>
      rw [traceStmts, checkStmts, locateReturnIn?]
      exact (traces_traceStmt place stmt).andThen fun _ => traces_traceStmts _ rest
  termination_by structural body

end

end Check

/-- What a search finds: nothing where there is no return statement, and otherwise the type of the
value of the first one, which is the only one that it comes to. -/
structure FindsFirst (first : Option ReturnStmt) (found : Option Ty) (visits : List ReturnVisit) :
    Prop where
  isSome_eq : found.isSome = first.isSome
  visited : visits.map (·.stmt) = first.toList
  typed : ∀ type ∈ found, ∀ visit ∈ visits, ∃ valued,
    checkReturned visit.stmt.value visit.state = .ok type valued

section Search

variable {one two : Option ReturnStmt}

theorem findsFirst_nothing : FindsFirst none none [] :=
  ⟨rfl, rfl, nofun⟩

theorem FindsFirst.eq_none {found : Option Ty} {visits : List ReturnVisit}
    (finds : FindsFirst none found visits) : found = none ∧ visits = [] :=
  ⟨Option.isNone_iff_eq_none.mp (Option.isSome_eq_false_iff.mp finds.isSome_eq),
    List.map_eq_nil_iff.mp finds.visited⟩

theorem Traces.orElse {traced other : Tracer (Option Ty)} {action rest : Checker (Option Ty)}
    (first : Traces traced action (FindsFirst one)) (next : Traces other rest (FindsFirst two)) :
    Traces
      (do match ← traced with
          | some type => return some type
          | none => other)
      (do match ← action with
          | some type => return some type
          | none => rest)
      (FindsFirst (one.or two)) := by
  refine first.bind fun found visits finds => ?_
  cases one with
  | none =>
      rcases finds.eq_none with ⟨rfl, rfl⟩
      exact next
  | some stmt =>
      cases found with
      | none => exact absurd finds.isSome_eq Bool.false_ne_true
      | some type => exact traces_pure (some type) (by rwa [List.append_nil])

/-- A declaration of a variable or a function is passed by. -/
theorem eq_none_of_searchStmt {stmt : Stmt} {state after : CheckState} {found : Option Ty}
    (plain : stmt.blocks = []) (never : stmt.firstReturn? = none)
    (ran : searchStmt stmt state = .ok found after) : found = none := by
  cases stmt with
  | varDecl position id name declared initializer =>
      rw [searchStmt] at ran
      rcases ok_of_bind_eq_ok ran with ⟨_, _, _, ran⟩
      rcases ok_of_bind_eq_ok ran with ⟨_, _, _, ran⟩
      rcases ok_of_bind_eq_ok ran with ⟨_, _, _, ended⟩
      exact (EStateM.Result.ok.inj ended).1.symm
  | fnDecl declaration =>
      rcases declaration with ⟨position, id, name, signature, body⟩
      rw [searchStmt] at ran
      rcases ok_of_bind_eq_ok ran with ⟨_, _, _, ran⟩
      rcases ok_of_bind_eq_ok ran with ⟨_, _, _, ran⟩
      rcases ok_of_bind_eq_ok ran with ⟨_, _, _, ended⟩
      exact (EStateM.Result.ok.inj ended).1.symm
  | returning position value => simp [Stmt.firstReturn?] at never
  | block _ | ifElse _ _ _ _ | whileLoop _ _ _ | range _ _ _ _ _ _ | each _ _ _ _ =>
      contradiction
  | expression _ _ | halt _ | skip _ | echo _ _ | templateDecl _ _ _ _ =>
      rw [searchStmt] at ran
      exact (EStateM.Result.ok.inj ran).1.symm

theorem traces_passed {stmt : Stmt} (plain : stmt.blocks = []) (never : stmt.firstReturn? = none) :
    Traces (liftM (searchStmt stmt)) (searchStmt stmt) (FindsFirst none) := by
  refine traces_silent fun state found after ran => ?_
  rw [eq_none_of_searchStmt plain never ran]
  exact findsFirst_nothing

mutual

theorem traces_traceSearchStmt (place : StmtPath → StmtPath) (stmt : Stmt) :
    Traces (traceSearchStmt place stmt) (searchStmt stmt)
      (FindsFirst (stmt.locateReturn? place)) := by
  cases stmt with
  | returning position value =>
      rw [traceSearchStmt, searchStmt, Stmt.locateReturn?]
      refine .after fun _ => .visiting _ fun state type valued typed => traces_pure _ ?_
      refine ⟨rfl, rfl, fun other same visit among => ?_⟩
      cases Option.some.inj same
      cases List.mem_singleton.mp among
      exact ⟨valued, typed⟩
  | block content =>
      rw [traceSearchStmt, searchStmt, Stmt.locateReturn?]
      exact .after fun _ => (traces_traceSearch _ content).searchBlock none
  | ifElse position condition thenBlock elseBlock =>
      rw [traceSearchStmt, searchStmt, Stmt.locateReturn?]
      exact .after fun _ =>
        ((traces_traceSearch _ thenBlock).searchBlock none).orElse
          (traces_traceSearchElse _ elseBlock)
  | whileLoop position condition body =>
      rw [traceSearchStmt, searchStmt, Stmt.locateReturn?]
      exact .after fun _ => (traces_traceSearch _ body).searchBlock none
  | range position name first last step body =>
      rw [traceSearchStmt, searchStmt, Stmt.locateReturn?]
      exact .after fun _ => (traces_traceSearch _ body).searchBlock (some (name, .int))
  | each position name iterable body =>
      rw [traceSearchStmt, searchStmt, Stmt.locateReturn?]
      refine .after fun _ => .after fun _ => .after fun element => ?_
      exact (traces_traceSearch _ body).searchBlock (some (name, element))
  | _ =>
      rw [traceSearchStmt, Stmt.locateReturn?]
      exact traces_passed rfl rfl
  termination_by structural stmt

theorem traces_traceSearchElse (place : StmtPath → StmtPath) (elseBlock : Option Block) :
    Traces (traceSearchElse place elseBlock) (searchElse elseBlock)
      (FindsFirst (locateReturnElse? place elseBlock)) := by
  cases elseBlock with
  | none =>
      rw [traceSearchElse, searchElse, locateReturnElse?]
      exact traces_pure none findsFirst_nothing
  | some block =>
      rw [traceSearchElse, searchElse, locateReturnElse?]
      exact (traces_traceSearch place block).searchBlock none
  termination_by structural elseBlock

theorem traces_traceSearch (place : StmtPath → StmtPath) (block : Block) :
    Traces (traceSearch place block) (searchBody block)
      (FindsFirst (block.locateReturn? place)) := by
  rcases block with ⟨position, body⟩
  rw [traceSearch, searchBody, Block.locateReturn?]
  exact traces_traceSearchStmts place body
  termination_by structural block

theorem traces_traceSearchStmts (place : StmtPath → StmtPath) (body : List Stmt) :
    Traces (traceSearchStmts place body) (searchStmts body)
      (FindsFirst (locateReturnIn? place body)) := by
  cases body with
  | nil =>
      rw [traceSearchStmts, searchStmts, locateReturnIn?]
      exact traces_pure none findsFirst_nothing
  | cons stmt rest =>
      rw [traceSearchStmts, searchStmts, locateReturnIn?]
      exact (traces_traceSearchStmt place stmt).orElse (traces_traceSearchStmts _ rest)
  termination_by structural body

end

end Search

/-- A returned value has the type of its expression, and `void` where there is none. -/
theorem type_of_checkReturned {value : Option Expr} {state after : CheckState} {type : Ty}
    (typed : checkReturned value state = .ok type after) :
    (value = none → type = .void) ∧
      ∀ expr, value = some expr → checkExpr expr state = .ok type after := by
  cases value with
  | none =>
      rw [checkReturned] at typed
      exact ⟨fun _ => (EStateM.Result.ok.inj typed).1.symm, nofun⟩
  | some expr =>
      rw [checkReturned] at typed
      refine ⟨nofun, fun other same => ?_⟩
      cases Option.some.inj same
      exact typed

/-- What `firstReturn?` finds is the first return statement of the source. A search that gets
through answers with a type exactly where there is one, comes to no other return statement, and the
type is that of the expression of this one, `void` where it has none. A check that gets through
comes to it before all other return statements of the function. -/
theorem first_returns_agree (body : Block) (state : CheckState) :
    (body.locateReturn? id).map (·.value) = body.firstReturn? ∧
    (∀ stmt, body.locateReturn? id = some stmt → IsFirstReturn body.body stmt) ∧
    (∀ found after, searchBody body state = .ok found after →
      found.isSome = body.firstReturn?.isSome ∧
      ∀ type, found = some type → ∃ visit valued,
        traceSearch id body (state, []) = .ok (some type) (after, [visit]) ∧
        body.locateReturn? id = some visit.stmt ∧
        (visit.stmt.value = none → type = .void) ∧
        ∀ expr, visit.stmt.value = some expr → checkExpr expr visit.state = .ok type valued) ∧
    (∀ after, checkBody body state = .ok () after → ∃ visits,
      traceBody id body (state, []) = .ok () (after, visits) ∧
      visits.head?.map (·.stmt) = body.locateReturn? id) := by
  have sameValue := Block.value_locateReturn? id body
  refine ⟨sameValue, fun stmt => Block.isFirstReturn_of_locateReturn?, fun found after ran => ?_,
    fun after ran => (traces_traceBody id body).of_ok ran⟩
  rcases (traces_traceSearch id body).of_ok ran with ⟨visits, traced, finds⟩
  refine ⟨by rw [finds.isSome_eq, ← sameValue, Option.isSome_map], ?_⟩
  rintro type rfl
  rcases Option.isSome_iff_exists.mp finds.isSome_eq.symm with ⟨stmt, located⟩
  have visited := finds.visited
  rw [located, Option.toList_some] at visited
  rcases List.map_eq_singleton_iff.mp visited with ⟨visit, rfl, sameStmt⟩
  rcases finds.typed type rfl visit List.mem_cons_self with ⟨valued, typed⟩
  exact ⟨visit, valued, traced, by rw [located, sameStmt], type_of_checkReturned typed⟩

/-- The return statement in the loop comes first, and neither that of the function literal in front
of it nor the equal one at the end. -/
theorem loop_return_comes_first :
    let body : Block := ⟨Position.unknown,
      [.expression Position.unknown (.function []
          ⟨Position.unknown, [.returning Position.unknown (some (.string "a"))]⟩),
        .whileLoop Position.unknown (.identifier "b") ⟨Position.unknown,
          [.ifElse Position.unknown (.identifier "b") ⟨Position.unknown, []⟩
            (some ⟨Position.unknown, [.returning Position.unknown (some (.integer 1))]⟩)]⟩,
        .returning Position.unknown (some (.integer 1))]⟩
    let signature : Signature := { result := .int, params := [("b", .bool)] }
    let state : CheckState := { CheckState.initial with
      scopes := ⟨⟨.function signature, [("b", .bool)], true⟩, [Scope.empty .global]⟩ }
    let path : StmtPath := .later (.inside 0 (.inside 1 .here))
    (∃ after visit valued, searchBody body state = .ok (some .int) after ∧
      traceSearch id body (state, []) = .ok (some .int) (after, [visit]) ∧
      visit.stmt.path = path ∧ IsFirstReturn body.body visit.stmt ∧
      checkExpr (.integer 1) visit.state = .ok .int valued) ∧
    ∃ after visits, checkBody body state = .ok () after ∧
      traceBody id body (state, []) = .ok () (after, visits) ∧
      visits.head?.map (·.stmt.path) = some path := by
  intro body signature state path
  rcases first_returns_agree body state with ⟨_, isFirst, searches, checks⟩
  have located : body.locateReturn? id =
    some { path, position := Position.unknown, value := some (.integer 1) } := rfl
  have searched : searchBody body state = .ok (some .int) state := rfl
  have checked : checkBody body state =
    .ok () { state with scopes := state.scopes.setUnreachable } := rfl
  rcases (searches _ _ searched).2 .int rfl with
    ⟨visit, valued, traced, same, -, typed⟩
  rcases checks _ checked with ⟨visits, tracedCheck, begins⟩
  have sameStmt := Option.some.inj (located.symm.trans same)
  refine ⟨⟨_, visit, valued, searched, traced, by rw [← sameStmt], isFirst _ same,
    typed _ (by rw [← sameStmt])⟩, _, visits, checked, tracedCheck, ?_⟩
  have paths := congrArg (Option.map (·.path)) begins
  rw [located, Option.map_map] at paths
  exact paths

end ScriptCheck
