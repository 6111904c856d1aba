import ScriptCheck.Proofs.Grammar.Reading
import ScriptCheck.Ty.Display

/-!
# Types in writing and as they are shown

The tokens that are written for a type make up the text in which the type is shown, where blanks
are left out.
-/

namespace ScriptCheck

def letters (text : String) : List Char :=
  text.toList.filter (· != ' ')

@[simp]
theorem letters_append (text other : String) :
    letters (text ++ other) = letters text ++ letters other := by
  rw [letters, String.toList_append, List.filter_append]
  rfl

/-- The characters of pieces in a row without blanks, with floats in the given spelling. -/
def lettersOf (spell : Number.Binary64 → String) (pieces : List Piece) : List Char :=
  pieces.flatMap fun piece => letters (piece.token spell).value

variable {spell : Number.Binary64 → String}

@[simp]
theorem lettersOf_nil : lettersOf spell [] = [] := rfl

@[simp]
theorem lettersOf_mark (kind : Kind) (pieces : List Piece) :
    lettersOf spell (mark kind :: pieces) = letters kind.spelling ++ lettersOf spell pieces := rfl

@[simp]
theorem lettersOf_word (name : String) (pieces : List Piece) :
    lettersOf spell (word name :: pieces) = letters name ++ lettersOf spell pieces := rfl

@[simp]
theorem lettersOf_append (pieces others : List Piece) :
    lettersOf spell (pieces ++ others) = lettersOf spell pieces ++ lettersOf spell others :=
  List.flatMap_append

theorem Primitive.spelling_kind (primitive : Primitive) :
    primitive.kind.spelling = primitive.display := by
  cases primitive <;> decide +kernel

/-- The marks in types are spelled as they are shown. -/
theorem Kind.spelling_marks :
    Kind.spelling .openBracket = "[" ∧ Kind.spelling .closeBracket = "]" ∧
      Kind.spelling .openCurly = "\x7b" ∧ Kind.spelling .closeCurly = "\x7d" ∧
      Kind.spelling .funcWord = "func" ∧ Kind.spelling .less = "<" ∧
      Kind.spelling .greater = ">" ∧ Kind.spelling .comma = "," := by
  decide +kernel

theorem letters_commaSeparated_cons (text : String) (texts : List String) :
    letters (commaSeparated (text :: texts)) =
      letters text ++ texts.flatMap fun other => ',' :: letters other := by
  rw [commaSeparated]
  induction texts generalizing text with
  | nil => rw [String.intercalate_singleton, List.flatMap_nil, List.append_nil]
  | cons other texts ih =>
      rw [String.intercalate_cons_cons, letters_append, letters_append, ih, List.flatMap_cons]
      simp [letters]

theorem lettersOf_separated_cons (item : List Piece) (items : List (List Piece)) :
    lettersOf spell (separated (item :: items)) =
      lettersOf spell item ++ items.flatMap fun other => ',' :: lettersOf spell other := by
  have comma : letters (Kind.spelling .comma) = [','] := by
    rw [Kind.spelling_marks.2.2.2.2.2.2.2]
    rfl
  rw [separated, lettersOf_append]
  apply congrArg _
  induction items with
  | nil => rfl
  | cons other items ih =>
      rw [List.flatMap_cons, List.flatMap_cons, List.cons_append, lettersOf_mark,
        lettersOf_append, ih, comma]
      rfl

mutual

/-- The tokens that are written for a type make up the text in which it is shown. -/
theorem Ty.lettersOf_pieces : ∀ type : Ty, lettersOf spell type.pieces = letters type.display
  | .primitive primitive => by
      rw [Ty.pieces, lettersOf_mark, primitive.spelling_kind, Ty.display]
      exact List.append_nil _
  | .array element => by
      rw [Ty.pieces, Ty.display, lettersOf_append, element.lettersOf_pieces]
      simp [Kind.spelling_marks, letters]
  | .set element => by
      rw [Ty.pieces, Ty.display, lettersOf_append, element.lettersOf_pieces]
      simp [Kind.spelling_marks, letters]
  | .map key value => by
      rw [Ty.pieces, Ty.display, lettersOf_append, value.lettersOf_pieces, lettersOf_mark,
        lettersOf_append, key.lettersOf_pieces]
      simp [Kind.spelling_marks, letters]
  | .function signature => by
      rw [Ty.pieces, Ty.display, signature.lettersOf_pieces]
  | .named name => by
      rw [Ty.pieces, Ty.display]
      exact List.append_nil _
  | .template template => by
      rw [Ty.pieces, Ty.display]
      exact List.append_nil _
  termination_by structural type => type

theorem Signature.lettersOf_pieces :
    ∀ signature : Signature, lettersOf spell signature.pieces = letters signature.display
  | ⟨result, params⟩ => by
      have shown : lettersOf spell (separated (paramPieces params)) =
          letters (commaSeparated (displayParams params)) := by
        have each := map_lettersOf_paramPieces params
        cases params with
        | nil => rfl
        | cons param rest =>
            rw [paramPieces, displayParams, List.map_cons, List.map_cons, List.cons.injEq] at each
            rw [paramPieces, displayParams, lettersOf_separated_cons, letters_commaSeparated_cons,
              each.1, ← List.flatMap_map, each.2, List.flatMap_map]
      rw [Signature.pieces, Signature.display]
      simp only [lettersOf_mark, lettersOf_append, letters_append, lettersOf_nil, shown,
        result.lettersOf_pieces, Kind.spelling_marks]
      simp [letters]
  termination_by structural signature => signature

theorem map_lettersOf_paramPieces : ∀ params : List (String × Ty),
    (paramPieces params).map (lettersOf spell) = (displayParams params).map letters
  | [] => rfl
  | (name, type) :: rest => by
      rw [paramPieces, displayParams, List.map_cons, List.map_cons, map_lettersOf_paramPieces rest,
        lettersOf_append, type.lettersOf_pieces]
      simp [letters]
  termination_by structural params => params

end

end ScriptCheck
