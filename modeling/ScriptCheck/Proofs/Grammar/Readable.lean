import ScriptCheck.Proofs.Grammar.TypeReading

/-!
# Readable expressions and statements

An expression or a statement is readable if the parser reads what is written for it as the same
one again, up to positions and numbers of declarations. The parsers are nested as deep as there are
tokens to be read.
-/

namespace ScriptCheck

open ScriptCheck.Parser

variable {spell : Number.Binary64 → String}

/-- A kind of token that ends an expression which is not put between parentheses. -/
def Kind.endsExpr : Kind → Bool
  | .semicolon | .comma | .colon | .closeParen | .closeBracket | .closeCurly | .toWord | .byWord =>
    true
  | _ => false

/-- The same expression, up to the statements in it. -/
def Expr.Same (expr again : Expr) : Prop :=
  again.erased = expr.erased

def Stmt.Same (stmt again : Stmt) : Prop :=
  again.erased = stmt.erased

def Block.Same (block again : Block) : Prop :=
  again.erased = block.erased

def FnDecl.Same (declaration again : FnDecl) : Prop :=
  again.erased = declaration.erased

def SameAttribute (entry again : String × Expr) : Prop :=
  again.1 = entry.1 ∧ entry.2.Same again.2

def SamePair (pair again : Expr × Expr) : Prop :=
  pair.1.Same again.1 ∧ pair.2.Same again.2

theorem erasedExprs_eq {exprs again : List Expr} (same : List.Forall₂ Expr.Same exprs again) :
    erasedExprs again = erasedExprs exprs := by
  induction same with
  | nil => rfl
  | cons one _ ih => rw [erasedExprs, erasedExprs, one, ih]

theorem erasedPairs_eq {pairs again : List (Expr × Expr)}
    (same : List.Forall₂ SamePair pairs again) : erasedPairs again = erasedPairs pairs := by
  induction same with
  | nil => rfl
  | cons one _ ih => rw [erasedPairs, erasedPairs, one.1, one.2, ih]

theorem erasedAttributes_eq {attributes again : List (String × Expr)}
    (same : List.Forall₂ SameAttribute attributes again) :
    erasedAttributes again = erasedAttributes attributes := by
  induction same with
  | nil => rfl
  | cons one _ ih => rw [erasedAttributes, erasedAttributes, one.1, one.2, ih]

theorem erasedBody_eq {body again : List Stmt} (same : List.Forall₂ Stmt.Same body again) :
    erasedBody again = erasedBody body := by
  induction same with
  | nil => rfl
  | cons one _ ih => rw [erasedBody, erasedBody, one, ih]

theorem erasedMethods_eq {methods again : List FnDecl}
    (same : List.Forall₂ FnDecl.Same methods again) :
    erasedMethods again = erasedMethods methods := by
  induction same with
  | nil => rfl
  | cons one _ ih => rw [erasedMethods, erasedMethods, one, ih]

theorem wrappedPieces_eq_map (exprs : List Expr) :
    wrappedPieces exprs = exprs.map fun expr => wrapped expr.pieces := by
  induction exprs with
  | nil => rfl
  | cons expr rest ih => rw [wrappedPieces, ih, List.map_cons]

theorem pairPieces_eq_map (pairs : List (Expr × Expr)) :
    pairPieces pairs =
      pairs.map fun pair => wrapped pair.1.pieces ++ mark .colon :: wrapped pair.2.pieces := by
  induction pairs with
  | nil => rfl
  | cons pair rest ih => rw [pairPieces, ih, List.map_cons]

theorem attributePieces_eq_map (attributes : List (String × Expr)) :
    attributePieces attributes =
      attributes.map fun entry => word entry.1 :: mark .colon :: entry.2.pieces := by
  induction attributes with
  | nil => rfl
  | cons entry rest ih => rw [attributePieces, ih, List.map_cons]

theorem bodyPieces_eq_flatMap (body : List Stmt) : bodyPieces body = body.flatMap Stmt.pieces := by
  induction body with
  | nil => rfl
  | cons stmt rest ih => rw [bodyPieces, ih, List.flatMap_cons]

theorem methodPieces_eq_flatMap (methods : List FnDecl) :
    methodPieces methods = methods.flatMap FnDecl.pieces := by
  induction methods with
  | nil => rfl
  | cons method rest ih => rw [methodPieces, ih, List.flatMap_cons]

/-- The expression is read back wherever nothing binds tighter than a comma. -/
structure Expr.Readable (spell : Number.Binary64 → String) (expr : Expr) : Prop where
  starts : ∃ piece pieces, expr.pieces = piece :: pieces ∧ piece.kind.exprStart?.isSome = true
  reads : ∀ depth (power : Power), expr.pieces.length ≤ depth + 1 → power.rank ≤ Power.comma.rank →
    Reads spell Kind.endsExpr (exprForm (nested depth) power) expr.pieces expr.Same

/-- The statement is read back in front of everything that does not belong to a choice. -/
structure Stmt.Readable (spell : Number.Binary64 → String) (stmt : Stmt) : Prop where
  starts : ∃ piece pieces, stmt.pieces = piece :: pieces ∧ piece.kind ≠ .closeCurly ∧
    piece.kind ≠ .eof ∧ piece.kind ≠ .elseWord
  reads : ∀ depth, stmt.pieces.length ≤ depth + 1 →
    Reads spell (· != .elseWord) (stmtForm (nested depth)) stmt.pieces stmt.Same

def Block.Readable (spell : Number.Binary64 → String) (block : Block) : Prop :=
  ∀ stmt ∈ block.body, stmt.Readable spell

theorem Expr.Readable.nested {expr : Expr} (readable : expr.Readable spell) {depth : Nat}
    {power : Power} (enough : expr.pieces.length ≤ depth)
    (loose : power.rank ≤ Power.comma.rank) :
    Reads spell Kind.endsExpr ((nested depth).expr power) expr.pieces expr.Same := by
  cases depth with
  | zero =>
      rcases readable.starts with ⟨piece, pieces, same, _⟩
      rw [same, List.length_cons] at enough
      contradiction
  | succ depth => exact readable.reads depth power enough loose

theorem Expr.Readable.lowest {expr : Expr} (readable : expr.Readable spell) {depth : Nat}
    (enough : expr.pieces.length ≤ depth) :
    Reads spell Kind.endsExpr ((Parser.nested depth).expr .lowest) expr.pieces expr.Same :=
  readable.nested enough (by decide)

theorem Stmt.Readable.nested {stmt : Stmt} (readable : stmt.Readable spell) {depth : Nat}
    (enough : stmt.pieces.length ≤ depth) :
    Reads spell (· != .elseWord) (nested depth).stmt stmt.pieces stmt.Same := by
  cases depth with
  | zero =>
      rcases readable.starts with ⟨piece, pieces, same, _⟩
      rw [same, List.length_cons] at enough
      contradiction
  | succ depth => exact readable.reads depth enough

theorem Block.pieces_eq (block : Block) :
    block.pieces = mark .openCurly :: (block.body.flatMap Stmt.pieces ++ [mark .closeCurly]) := by
  rcases block with ⟨position, body⟩
  rw [Block.pieces, bodyPieces_eq_flatMap]

theorem Block.Readable.reads {content : Block} (readable : content.Readable spell) {depth : Nat}
    (enough : content.pieces.length ≤ depth + 2) :
    Reads spell anyKind (block (nested depth)) content.pieces content.Same := by
  rw [Block.pieces_eq] at enough ⊢
  simp only [List.length_cons, List.length_append, List.length_nil] at enough
  refine reads_position fun start => reads_expect fun _ => ?_
  have readsBody : Reads spell (· == .closeCurly)
      (collectWhile (fun kind => kind != .closeCurly && kind != .eof) (nested depth).stmt)
        (content.body.flatMap Stmt.pieces) (List.Forall₂ Stmt.Same content.body) := by
    refine reads_collectWhile (· != .elseWord) ?_ ?_ ?_
    · intro kind closes
      rw [beq_iff_eq] at closes
      subst closes
      exact ⟨rfl, rfl⟩
    · intro stmt mem
      rcases (readable stmt mem).starts with ⟨piece, pieces, same, open', notEnd, notElse⟩
      exact ⟨piece, pieces, same, by simp [open', notEnd], by simp [notElse]⟩
    · intro stmt mem
      have shorter := length_le_of_mem Stmt.pieces mem
      exact (readable stmt mem).nested (by omega)
  refine readsBody.bind (fun _ _ => rfl) fun body same => ?_
  apply reads_expect_pure
  rcases content with ⟨position, stmts⟩
  rw [Block.Same, Block.erased, Block.erased, erasedBody_eq same]

end ScriptCheck
