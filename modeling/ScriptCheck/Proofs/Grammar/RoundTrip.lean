import ScriptCheck.Number.Shortest
import ScriptCheck.Proofs.Grammar.StmtFound

/-!
# Reading programs back

A program that was parsed is written as tokens and parsed again: the second program is the first
one up to positions and numbers of declarations. What the parser finds is readable, and what is
readable is read back, so nothing has to be known about the tokens that were parsed first.
-/

namespace ScriptCheck

open ScriptCheck.Parser

variable {spell : Number.Binary64 → String} {program : Program}

def Program.Readable (spell : Number.Binary64 → String) (program : Program) : Prop :=
  ∀ stmt ∈ program.body, stmt.Readable spell

theorem Program.mem_floats {value : Number.Binary64} :
    value ∈ program.floats ↔ .number value ∈ bodyPieces program.body := by
  rw [floats, List.mem_filterMap]
  refine ⟨?_, fun mem => ⟨_, mem, rfl⟩⟩
  rintro ⟨piece, mem, same⟩
  cases piece with
  | word kind text => contradiction
  | number other => rwa [← Option.some.inj same]

namespace Parser

theorem yields_parseProgram (spell : Number.Binary64 → String) :
    Yields (Program.Readable spell) parseProgram := by
  have yieldsStmt : Yields (Stmt.Readable spell) parseStmt :=
    yields_next fun state => yields_stmtForm (finds_nested spell state.remaining)
  exact (yields_collectWhile yieldsStmt).bind fun body readable => yields_pure readable

theorem reads_parseStmt {stmt : Stmt} (readable : stmt.Readable spell) :
    Reads spell (· != .elseWord) parseStmt stmt.pieces stmt.Same := by
  intro spelled state rest coming ended
  have enough : stmt.pieces.length ≤ state.remaining + 1 := by
    rw [ParserState.remaining, coming, List.length_append, List.length_map]
    omega
  exact readable.reads state.remaining enough spelled state rest coming ended

theorem reads_parseProgram (readable : program.Readable spell) :
    Reads spell (· == .eof) parseProgram (bodyPieces program.body)
      fun again => again.erased = program.erased := by
  rw [bodyPieces_eq_flatMap]
  have readsBody : Reads spell (· == .eof) (collectWhile (· != .eof) parseStmt)
      (program.body.flatMap Stmt.pieces) (List.Forall₂ Stmt.Same program.body) := by
    refine reads_collectWhile (· != .elseWord) ?_ ?_ ?_
    · intro kind isEnd
      rw [beq_iff_eq.mp isEnd]
      exact ⟨rfl, rfl⟩
    · intro stmt mem
      rcases (readable stmt mem).starts with ⟨piece, pieces, same, _, notEnd, notElse⟩
      exact ⟨piece, pieces, same, bne_iff_ne.mpr notEnd, bne_iff_ne.mpr notElse⟩
    · exact fun stmt mem => reads_parseStmt (readable stmt mem)
  refine readsBody.bind_pure fun body same => ?_
  rw [Program.erased, Program.erased, erasedBody_eq same]

/-- An end token closes a list of tokens and is not one of those that are read. -/
theorem upcoming_ofTokens (tokens : List Token) (position : Position) (file : String) :
    (ParserState.ofTokens (tokens ++ [Token.eofAt position]) file).upcoming = tokens := by
  rw [ParserState.ofTokens_concat tokens rfl]

/-- A parsed program that is written as tokens is parsed as the same program again, if the spelling
of its floats is read back. -/
theorem parse_tokens_of_parse {tokens : List Token} {file : String} {after : ParserState}
    (parsed : parse tokens file = .ok program after)
    (spelled : ∀ value ∈ program.floats, Number.Binary64.read? (spell value) = some value)
    (other : String) :
    ∃ again final, parse (program.tokens spell) other = .ok again final ∧
      again.erased = program.erased := by
  -- The tokens that were parsed first are forgotten here.
  have readable : program.Readable spell := yields_parseProgram spell _ program after parsed
  have spelledPieces value (mem : .number value ∈ bodyPieces program.body) :=
    spelled value (Program.mem_floats.mpr mem)
  have coming := upcoming_ofTokens ((bodyPieces program.body).map (Piece.token spell))
    Position.unknown other
  rw [← List.append_nil ((bodyPieces program.body).map _)] at coming
  rcases reads_parseProgram readable spelledPieces _ [] coming rfl with
    ⟨again, final, ran, _, same⟩
  rw [List.append_nil] at ran
  exact ⟨again, final, ran, same⟩

/-- The tokens of `x += 1.5;`, an assignment that is written with the operator before its value. -/
def addition : List Token :=
  [word "x", .word .plusEquals "+=", .word .floatLiteral "1.5", .word .semicolon ";"].map
    (Piece.token Number.Binary64.display)

theorem parse_tokens_of_addition :
    ∃ program after, parse addition "first" = .ok program after ∧ program.floats.length = 1 ∧
      (∀ value ∈ program.floats, Number.Binary64.read? value.display = some value) ∧
      ∃ again final, parse (program.tokens Number.Binary64.display) "second" = .ok again final ∧
        again.erased = program.erased := by
  have parsed : ∃ program after, parse addition "first" = .ok program after ∧
      program.floats.length = 1 ∧
        ∀ value ∈ program.floats, Number.Binary64.read? value.display = some value :=
    ⟨_, _, rfl, rfl, by decide +kernel⟩
  rcases parsed with ⟨program, after, ran, single, spelled⟩
  exact ⟨program, after, ran, single, spelled, parse_tokens_of_parse ran spelled "second"⟩

end Parser

end ScriptCheck
