import ScriptCheck.Proofs.Grammar.TypeReading

/-!
# Types that open a declaration

A statement that starts with a name is a declaration if the tokens behind the name are suffixes of
a type and then another name. What these suffixes have to be like depends on the types of the keys
in them only, and not on what comes behind the type.
-/

namespace ScriptCheck

open ScriptCheck.Parser

/-- Whether a type may stand for keys where a name starts a declaration. -/
def Ty.isDeclaredKey : Ty → Bool
  | .primitive basic => basic.kind.isKeyTypePart
  | .array element => element.isDeclaredKey
  | .set element => element.isDeclaredKey
  | .map key value => value.isDeclaredKey && key.isDeclaredKey
  | .function _ => false
  | .named _ => true
  | .template _ => true
  termination_by structural type => type

/-- Whether a name and the suffixes behind it start a declaration. -/
def Ty.opensDeclaration : Ty → Bool
  | .primitive _ => true
  | .array element => element.opensDeclaration
  | .set element => element.opensDeclaration
  | .map key value => value.opensDeclaration && key.isDeclaredKey
  | .function _ => false
  | .named _ => true
  | .template _ => true
  termination_by structural type => type

theorem opensDeclaration_part {kind : Kind} (depth : Nat) (rest : List Kind)
    (notOpen : kind ≠ .openCurly) (notClose : kind ≠ .closeCurly) :
    ScriptCheck.opensDeclaration (depth + 1) (kind :: rest) =
      (kind.isKeyTypePart && ScriptCheck.opensDeclaration (depth + 1) rest) := by
  rw [ScriptCheck.opensDeclaration] <;> assumption

/-- Between brackets a type is passed if it may stand for keys. -/
theorem opensDeclaration_inside (depth : Nat) (rest : List Kind) :
    ∀ type : Ty, ScriptCheck.opensDeclaration (depth + 1) (kinds type.pieces ++ rest) =
      (type.isDeclaredKey && ScriptCheck.opensDeclaration (depth + 1) rest)
  | .primitive primitive => by
      have plain : primitive.kind ≠ .openCurly ∧ primitive.kind ≠ .closeCurly := by
        cases primitive <;> decide
      rw [Ty.isDeclaredKey]
      exact opensDeclaration_part depth rest plain.1 plain.2
  | .array element => by
      rw [Ty.pieces, kinds_append, List.append_assoc, opensDeclaration_inside depth _ element,
        Ty.isDeclaredKey]
      rfl
  | .set element => by
      rw [Ty.pieces, kinds_append, List.append_assoc, opensDeclaration_inside depth _ element,
        Ty.isDeclaredKey]
      rfl
  | .map key value => by
      -- The key stands between brackets of its own, one level deeper.
      have inner : ScriptCheck.opensDeclaration (depth + 1)
          (.openCurly :: (kinds key.pieces ++ .closeCurly :: rest)) =
          (key.isDeclaredKey && ScriptCheck.opensDeclaration (depth + 1) rest) :=
        opensDeclaration_inside (depth + 1) (.closeCurly :: rest) key
      have split : kinds (Ty.map key value).pieces ++ rest =
          kinds value.pieces ++ .openCurly :: (kinds key.pieces ++ .closeCurly :: rest) := by
        simp [Ty.pieces]
      rw [split, opensDeclaration_inside depth _ value, inner, Ty.isDeclaredKey, Bool.and_assoc]
  | .function ⟨result, params⟩ => by
      rw [Ty.isDeclaredKey]
      exact opensDeclaration_part depth _ (by simp) (by simp)
  | .named name => by
      rw [Ty.isDeclaredKey]
      exact opensDeclaration_part depth rest (by simp) (by simp)
  | .template template => by
      rw [Ty.pieces, Ty.isDeclaredKey]
      exact opensDeclaration_part depth rest (by simp) (by simp)

theorem exists_cons_pieces : ∀ type : Ty, ∃ piece pieces, type.pieces = piece :: pieces
  | .primitive primitive => ⟨_, _, rfl⟩
  | .array element => by
      rcases exists_cons_pieces element with ⟨piece, pieces, same⟩
      exact ⟨piece, _, by rw [Ty.pieces, same, List.cons_append]⟩
  | .set element => by
      rcases exists_cons_pieces element with ⟨piece, pieces, same⟩
      exact ⟨piece, _, by rw [Ty.pieces, same, List.cons_append]⟩
  | .map key value => by
      rcases exists_cons_pieces value with ⟨piece, pieces, same⟩
      exact ⟨piece, _, by rw [Ty.pieces, same, List.cons_append]⟩
  | .function ⟨result, params⟩ => ⟨_, _, rfl⟩
  | .named name => ⟨_, _, rfl⟩
  | .template template => ⟨_, _, by rw [Ty.pieces]⟩

theorem tail_kinds_append (type : Ty) (more : List Kind) :
    (kinds type.pieces ++ more).tail = (kinds type.pieces).tail ++ more := by
  rcases exists_cons_pieces type with ⟨piece, pieces, same⟩
  rw [same]
  rfl

/-- Behind its first token a type is passed if it opens a declaration. -/
theorem opensDeclaration_tail (rest : List Kind) :
    ∀ type : Ty, ScriptCheck.opensDeclaration 0 ((kinds type.pieces).tail ++ rest) =
      (type.opensDeclaration && ScriptCheck.opensDeclaration 0 rest)
  | .primitive primitive => rfl
  | .array element => by
      rw [Ty.pieces, kinds_append, tail_kinds_append, List.append_assoc,
        opensDeclaration_tail _ element, Ty.opensDeclaration]
      rfl
  | .set element => by
      rw [Ty.pieces, kinds_append, tail_kinds_append, List.append_assoc,
        opensDeclaration_tail _ element, Ty.opensDeclaration]
      rfl
  | .map key value => by
      have inner : ScriptCheck.opensDeclaration 0
          (.openCurly :: (kinds key.pieces ++ .closeCurly :: rest)) =
          (key.isDeclaredKey && ScriptCheck.opensDeclaration 0 rest) :=
        opensDeclaration_inside 0 (.closeCurly :: rest) key
      have split : (kinds (Ty.map key value).pieces).tail ++ rest =
          (kinds value.pieces).tail ++ .openCurly :: (kinds key.pieces ++ .closeCurly :: rest) := by
        rw [Ty.pieces, kinds_append, tail_kinds_append]
        simp
      rw [split, opensDeclaration_tail _ value, inner, Ty.opensDeclaration, Bool.and_assoc]
  | .function signature => by
      rcases signature with ⟨result, params⟩
      rfl
  | .named name => rfl
  | .template template => by
      rw [Ty.pieces, Ty.opensDeclaration]
      rfl

/-- The type of a variable is recognised at the start of a statement: by its first word, by the
mark behind it in the type of a function, or because a name and its suffixes open a declaration. -/
def Ty.Declares (type : Ty) : Prop :=
  ∃ first rest, kinds type.pieces = first :: rest ∧
    (first = .identifier ∧ type.opensDeclaration = true ∨ first.stmtForm? = some .varDecl ∨
      first = .funcWord ∧ rest.head? = some .less)

end ScriptCheck
