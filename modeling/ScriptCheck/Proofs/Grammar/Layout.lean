import ScriptCheck.Proofs.Grammar.Wording
import ScriptCheck.Proofs.Token.Spelling

/-!
# Texts of pieces

A text may be laid out in many ways, and all of them are the same to the grammar as long as they are
divided into tokens with the same wording. There is a text for all pieces that can be read one by
one, since spaces between them keep them apart.
-/

namespace ScriptCheck

/-- The tokens are those of the pieces in some layout, and the end. -/
def IsWritten (pieces : List Piece) (tokens : List Token) : Prop :=
  tokens.map Token.wording = pieces.map Piece.wording ++ [(.eof, none)]

/-- The token of a piece, if it stands nowhere and holds no float. -/
def Piece.plainToken (piece : Piece) : Token :=
  piece.token fun _ => ""

/-- Where a piece stands alone, its token is read. -/
def Piece.isLegible (piece : Piece) : Bool :=
  let text := piece.plainToken.spelling.toList
  (Rule.first? text).any fun (rule, count) =>
    rule.outcome (text.take count) == .token piece.plainToken.kind piece.plainToken.value

theorem Piece.isReadBack_of_isLegible {piece : Piece} (legible : piece.isLegible = true) :
    piece.plainToken.IsReadBack := by
  obtain ⟨⟨rule, count⟩, found, makes⟩ := (Option.any_eq_true _ _).mp legible
  exact Token.isReadBack_of_rule found (beq_iff_eq.mp makes)

/-- What the grammar of types sees of a token does not go beyond its content. -/
theorem map_wording_of_content {tokens others : List Token}
    (same : tokens.map Token.content = others.map Token.content) :
    tokens.map Token.wording = others.map Token.wording := by
  let seen (content : Kind × String) : Kind × Option String :=
    (content.1, if content.1 = .identifier then some content.2 else none)
  have worded (list : List Token) :
      list.map Token.wording = (list.map Token.content).map seen := by
    rw [List.map_map]
    rfl
  rw [worded, worded, same]

theorem exists_text {pieces : List Piece} (legible : ∀ piece ∈ pieces, piece.isLegible = true)
    (file : String) :
    ∃ source tokens, tokenize source file = .ok tokens ∧ IsWritten pieces tokens := by
  have each : ∀ token ∈ pieces.map Piece.plainToken, token.IsReadBack := by
    intro token member
    obtain ⟨piece, inside, rfl⟩ := List.mem_map.mp member
    exact piece.isReadBack_of_isLegible (legible piece inside)
  obtain ⟨tokens, read, contents⟩ := exists_tokensFrom_spellings each (Position.start file)
  refine ⟨_, tokens, read, ?_⟩
  have closed : tokens.map Token.content =
      (pieces.map Piece.plainToken ++ [Token.eofAt Position.unknown]).map Token.content := by
    rw [contents, List.map_append]
    rfl
  have plain : Token.wording ∘ Piece.plainToken = Piece.wording :=
    funext (Piece.wording_token _)
  rw [IsWritten, map_wording_of_content closed, List.map_append, List.map_map, plain]
  rfl

end ScriptCheck
