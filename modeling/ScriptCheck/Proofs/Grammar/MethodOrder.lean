import ScriptCheck.Proofs.Grammar.DeclarationIds

/-!
# Functions are numbered in turn

A function gets its number behind its body, and the methods of a template are read one behind the
other. So the number of a method is above those of the declarations in its body, and below those in
the methods behind it. This holds for every template, even if an assignment with an operator writes
some declarations twice.
-/

namespace ScriptCheck

/-- Every function is numbered behind what its body declares, and in front of what is declared in
the functions behind it. -/
structure InTurn (functions : List FnDecl) : Prop where
  behind : ∀ function ∈ functions, ∀ entry ∈ function.body.numbered, entry.id < function.id
  apart : functions.Pairwise fun first second => ∀ entry ∈ second.numbered, first.id < entry.id

variable {functions : List FnDecl} {function : FnDecl}

theorem FnDecl.numbered_self (function : FnDecl) :
    .function function.id ∈ function.numbered := by
  rw [FnDecl.numbered_eq]
  exact List.mem_append_right _ List.mem_cons_self

theorem inTurn_nil : InTurn [] :=
  ⟨nofun, .nil⟩

theorem InTurn.concat (inTurn : InTurn functions)
    (behind : ∀ entry ∈ function.body.numbered, entry.id < function.id)
    (later : ∀ earlier ∈ functions, ∀ entry ∈ function.numbered, earlier.id < entry.id) :
    InTurn (functions ++ [function]) := by
  constructor
  · exact List.forall_mem_append.mpr ⟨inTurn.behind, List.forall_mem_singleton.mpr behind⟩
  · rw [List.pairwise_append]
    refine ⟨inTurn.apart, List.pairwise_singleton _ _, ?_⟩
    intro earlier among last isLast
    rw [List.mem_singleton.mp isLast]
    exact later earlier among

namespace Parser

variable {inside : Inside} {state after : ParserState}

theorem yields_behind (counts : CountsInside inside) :
    Yields (fun function => ∀ entry ∈ function.body.numbered, entry.id < function.id)
      (fnDecl inside) := by
  refine yields_next fun start => yields_next fun _ => yields_next fun name => ?_
  refine yields_next fun _ => yields_next fun result => yields_next fun _ => ?_
  refine yields_next fun params => yields_next fun _ => ?_
  intro state function after ran
  rcases ok_of_bind_eq_ok ran with ⟨body, between, ranBody, ran⟩
  rcases ok_of_bind_eq_ok ran with ⟨id, last, ranId, ended⟩
  have spans := counts_block counts _ _ _ _ (Ledger.spans_empty _) ranBody
  rcases EStateM.Result.ok.inj ranId with ⟨rfl, _⟩
  rcases EStateM.Result.ok.inj ended with ⟨rfl, _⟩
  intro entry among
  exact ((spans.mem_iff entry.id).mp (List.mem_map_of_mem among)).2

/-- A function is numbered from where the counter stands. -/
theorem between_of_fnDecl (counts : CountsInside inside)
    (ran : fnDecl inside state = .ok function after) :
    (∀ entry ∈ function.numbered, state.nextId ≤ entry.id) ∧ function.id < after.nextId := by
  have spans := counts_fnDecl counts _ _ _ _ (Ledger.spans_empty _) ran
  refine ⟨fun entry among => ?_, ?_⟩
  · exact ((spans.mem_iff entry.id).mp (List.mem_map_of_mem among)).1
  · exact ((spans.mem_iff function.id).mp (List.mem_map_of_mem function.numbered_self)).2

/-- One more member is an attribute, or else a method that is numbered from where the counter
stands. -/
theorem methods_of_freshMember {template : String} {members longer : Members}
    (ran : freshMember inside template members state = .ok longer after) :
    (longer.methods = members.methods ∧ after.nextId = state.nextId) ∨
      ∃ method between, fnDecl inside between = .ok method after ∧
        between.nextId = state.nextId ∧ longer.methods = members.methods ++ [method] := by
  rcases ok_of_bind_eq_ok ran with ⟨start, begun, ranStart, ran⟩
  rcases ok_of_bind_eq_ok ran with ⟨⟨name, found⟩, last, ranMember, ran⟩
  dsimp only at ran
  split at ran
  · contradiction
  · rcases EStateM.Result.ok.inj ran with ⟨rfl, rfl⟩
    rcases ok_of_bind_eq_ok ranMember with ⟨kind, looked, ranKind, ranMember⟩
    have same : looked.nextId = state.nextId := by
      rw [steady_kind _ _ _ ranKind, steady_position _ _ _ ranStart]
    split at ranMember
    · rcases ok_of_bind_eq_ok ranMember with ⟨method, passed, ranMethod, ended⟩
      rcases EStateM.Result.ok.inj ended with ⟨longer_eq, rfl⟩
      refine .inr ⟨method, looked, ranMethod, same, ?_⟩
      rw [← (Prod.mk.inj longer_eq).2]
    · rcases ok_of_bind_eq_ok ranMember with ⟨type, typed, ranType, ranMember⟩
      rcases ok_of_bind_eq_ok ranMember with ⟨other, named, ranName, ranMember⟩
      rcases ok_of_bind_eq_ok ranMember with ⟨_, closed, ranClose, ended⟩
      rcases EStateM.Result.ok.inj ended with ⟨longer_eq, rfl⟩
      refine .inl ⟨?_, ?_⟩
      · rw [← (Prod.mk.inj longer_eq).2]
      · rw [steady_expect _ _ _ _ ranClose, steady_identifier _ _ _ ranName,
          steady_parseType _ _ _ _ ranType, same]

/-- The methods of a template are numbered in turn, below the counter. -/
theorem inTurn_of_members (counts : CountsInside inside) {template : String} {again : Kind → Bool}
    {members : Members} (ran : repeatWhile again (freshMember inside template)
      { attributes := [], methods := [] } state = .ok members after) :
    InTurn members.methods := by
  have kept := kept_of_repeatWhile
    (fun members next => InTurn members.methods ∧ ∀ method ∈ members.methods, method.id < next)
    ?_ ⟨inTurn_nil, nofun⟩ ran
  · exact kept.1
  · rintro members state longer after ⟨inTurn, below⟩ ran
    rcases methods_of_freshMember ran with ⟨same, steady⟩ | ⟨method, between, ranMethod, same, more⟩
    · rw [same, steady]
      exact ⟨inTurn, below⟩
    · rcases between_of_fnDecl counts ranMethod with ⟨above, last⟩
      have later (earlier : FnDecl) (among : earlier ∈ members.methods) :
          ∀ entry ∈ method.numbered, earlier.id < entry.id :=
        fun entry among' => Nat.lt_of_lt_of_le (below earlier among) (same ▸ above entry among')
      rw [more]
      refine ⟨inTurn.concat (yields_behind counts _ _ _ ranMethod) later, ?_⟩
      refine List.forall_mem_append.mpr ⟨fun earlier among => ?_, ?_⟩
      · exact (later earlier among _ method.numbered_self).trans last
      · exact List.forall_mem_singleton.mpr last

end Parser

end ScriptCheck
