import Mathlib
import ScriptCheck.Check
import ScriptCheck.Proofs.Grammar.MarkedForms
import ScriptCheck.Proofs.Token.Places
import ScriptCheck.Proofs.Typing.Blamed

/-!
# Where diagnostics point

Every diagnostic points into the source text. The scanner reports the place where it stands, and the
other two phases the start of a token: the parser that of the token in front of it, and the checker
the position of a statement, which is that of its first token.
-/

namespace ScriptCheck

open Checker
open Position (behind)

variable {source file : String} {tokens : List Token}

theorem Position.PointsInto.ne_unknown {position : Position} {text : List Char}
    (points : position.PointsInto file text)
    (short : (String.ofList text).utf8ByteSize < UInt32.size) : position ≠ unknown := by
  rcases points with ⟨before, after, rfl, rfl⟩
  have sum := utf8ByteSize_append before after
  have chars := length_le_utf8ByteSize before
  intro same
  have offset := congrArg (fun position => position.offset.toNat) same
  rw [toNat_offset_behind file (by omega)] at offset
  have first : before = [] := List.length_eq_zero_iff.mp (Nat.le_zero.mp (chars.trans offset.le))
  have line : (behind file before).line = 0 := congrArg Position.line same
  rw [first] at line
  exact absurd line (by decide : (1 : UInt32) ≠ 0)

section Tokens

/-- What is parsed from the tokens of a source stands where tokens start, and so do the faults of
the parser. -/
theorem starts_of_parse (found : tokenize source file = .ok tokens) :
    match Parser.parse tokens file with
    | .ok program _ => ∀ stmt, program.Contains (.stmt stmt) →
        ∃ token ∈ tokens, token.start = stmt.position
    | .error diagnostic _ => ∃ token ∈ tokens, token.start = diagnostic.position := by
  let marked : Marking :=
    { position := fun position => ∃ token ∈ tokens, token.start = position
      name := fun _ => True }
  have starts : (ParserState.ofTokens tokens file).Marked marked := by
    rcases (tiles_of_tokenize found).covers with ⟨others, rfl, -⟩
    apply ParserState.marked_ofTokens rfl
    exact fun token among => ⟨⟨token, among, rfl⟩, fun _ => trivial⟩
  have marks := Parser.marks_parse starts
  cases ran : Parser.parse tokens file with
  | error diagnostic after =>
      rw [ran] at marks
      exact marks.position
  | ok program after =>
      rw [ran] at marks
      exact fun stmt contains => (marks (.stmt stmt) contains).isMarked

end Tokens

/-- The check of a program reports the position of a statement that stands in it. -/
theorem Program.position_of_check {program : Program} {diagnostic : Diagnostic}
    (refused : program.check = .error diagnostic) :
    ∃ stmt, program.Contains (.stmt stmt) ∧ stmt.position = diagnostic.position := by
  let blame : Blame :=
    { position := fun position => ∃ stmt, program.Contains (.stmt stmt) ∧ stmt.position = position
      name := fun _ => True }
  have covers (stmt : Stmt) (member : stmt ∈ program.body) : blame.Covers (.stmt stmt) := by
    constructor
    · intro inner inside
      exact ⟨inner, ⟨stmt, member, inside⟩, rfl⟩
    · exact fun _ _ _ _ _ _ => trivial
  exact (Program.admits_of_check covers refused).position

/-- The diagnostic of a source comes from the scanner, from the parser, or from the check of the
program. -/
theorem phase_of_checkSource {diagnostic : Diagnostic}
    (failed : checkSource source file = .error diagnostic) :
    tokenize source file = .error diagnostic ∨ ∃ tokens, tokenize source file = .ok tokens ∧
      ((∃ after, Parser.parse tokens file = .error diagnostic after) ∨
        ∃ program after, Parser.parse tokens file = .ok program after ∧
          program.check = .error diagnostic) := by
  cases found : tokenize source file with
  | error other =>
      simp only [checkSource, found, bind, Except.bind] at failed
      cases failed
      exact .inl rfl
  | ok tokens =>
      simp only [checkSource, found, bind, Except.bind, Program.ofTokens] at failed
      refine .inr ⟨tokens, rfl, ?_⟩
      cases parsed : Parser.parse tokens file with
      | error other after =>
          simp only [parsed] at failed
          cases failed
          exact .inl ⟨after, rfl⟩
      | ok program after =>
          simp only [parsed] at failed
          refine .inr ⟨program, after, rfl, ?_⟩
          cases checked : program.check with
          | ok analysis =>
              simp only [checked] at failed
              contradiction
          | error other =>
              simp only [checked] at failed
              cases failed
              rfl

/-- A diagnostic names the file and stands behind some text with which the source starts: offset,
line and column are counted from this text, in the 32 bits of a position, and as numbers where these
bits count the bytes of the source, or one more for a line or a column. It is never the position
that belongs to no source. If the source has tokens, then the diagnostic stands where one of them
starts. -/
theorem diagnostics_point_into_source (source file : String) (diagnostic : Diagnostic)
    (failed : checkSource source file = .error diagnostic) :
    (∃ before after, source.toList = before ++ after ∧ diagnostic.position.file = file ∧
      diagnostic.position.offset = UInt32.ofNat (String.ofList before).utf8ByteSize ∧
      diagnostic.position.line = UInt32.ofNat (1 + before.count '\n') ∧
      diagnostic.position.column =
        UInt32.ofNat (1 + (before.reverse.takeWhile (· ≠ '\n')).length) ∧
      (source.utf8ByteSize < UInt32.size →
        diagnostic.position.offset.toNat = (String.ofList before).utf8ByteSize) ∧
      (source.utf8ByteSize + 1 < UInt32.size → diagnostic.position.Counts before)) ∧
    (source.utf8ByteSize < UInt32.size → diagnostic.position ≠ Position.unknown) ∧
    ∀ tokens, tokenize source file = .ok tokens →
      ∃ token ∈ tokens, token.start = diagnostic.position := by
  have starts (tokens : List Token) (found : tokenize source file = .ok tokens) :
      ∃ token ∈ tokens, token.start = diagnostic.position := by
    have parses := starts_of_parse found
    rcases phase_of_checkSource failed with none | ⟨others, foundAgain, phase⟩
    · exact nomatch none.symm.trans found
    · cases found.symm.trans foundAgain
      rcases phase with ⟨after, unparsed⟩ | ⟨program, after, parsed, refused⟩
      · rw [unparsed] at parses
        exact parses
      · rw [parsed] at parses
        rcases Program.position_of_check refused with ⟨stmt, contains, same⟩
        rw [← same]
        exact parses stmt contains
  have points : diagnostic.position.PointsInto file source.toList := by
    rcases phase_of_checkSource failed with none | ⟨tokens, found, -⟩
    · exact pointsInto_of_tokenize none
    · rcases starts tokens found with ⟨token, among, same⟩
      rw [← same]
      exact (pointsInto_of_mem found among).1
  refine ⟨?_, fun short => points.ne_unknown (by rwa [String.ofList_toList]), starts⟩
  rcases points with ⟨before, after, whole, same⟩
  have sum := Position.utf8ByteSize_append before after
  rw [← whole, String.ofList_toList] at sum
  rw [same]
  refine ⟨before, after, whole, rfl, rfl, ?_, ?_, ?_, ?_⟩
  · rw [Nat.add_comm, behind]
  · rw [Nat.add_comm, behind]
  · exact fun short => Position.toNat_offset_behind file (by omega)
  · exact fun short => Position.counts_behind file (by omega)

/-- A character of two bytes on the first line, and an undeclared variable on the second. -/
def undeclaredBelow : String := "'ü';\n j;"

def undeclaredBelowTokens : List Token :=
  let place (offset line column : Nat) : Position := { offset, line, column, file := "a" }
  [{ kind := .stringLiteral, value := "ü", start := place 0 1 1, stop := place 4 1 4 },
   { kind := .semicolon, value := ";", start := place 4 1 4, stop := place 5 1 5 },
   { kind := .identifier, value := "j", start := place 7 2 2, stop := place 8 2 3 },
   { kind := .semicolon, value := ";", start := place 8 2 3, stop := place 9 2 4 },
   Token.eofAt (place 9 2 4)]

def undeclaredBelowProgram : Program :=
  let place (offset line column : Nat) : Position := { offset, line, column, file := "a" }
  ⟨[.expression (place 0 1 1) (.string "ü"), .expression (place 7 2 2) (.identifier "j")]⟩

theorem undeclaredBelow_reported :
    ∃ diagnostic, checkSource undeclaredBelow "a" = .error diagnostic ∧
      diagnostic.position = { offset := 7, line := 2, column := 2, file := "a" } ∧
      (∃ before after, undeclaredBelow.toList = before ++ after ∧ diagnostic.position.file = "a" ∧
        diagnostic.position.Counts before) ∧
      ∃ token ∈ undeclaredBelowTokens, token.start = diagnostic.position := by
  have tokenized : tokenize undeclaredBelow "a" = .ok undeclaredBelowTokens := by
    apply Option.some.inj
    rw [← tokensWithin_ofText]
    rfl
  have parsed : Program.ofTokens undeclaredBelowTokens "a" = .ok undeclaredBelowProgram := by cbv
  have refused : ∃ diagnostic, undeclaredBelowProgram.check = .error diagnostic ∧
      diagnostic.position = { offset := 7, line := 2, column := 2, file := "a" } := ⟨_, rfl, rfl⟩
  rcases refused with ⟨diagnostic, refused, place⟩
  have failed : checkSource undeclaredBelow "a" = .error diagnostic := by
    simp only [checkSource, tokenized, parsed, refused, bind, Except.bind]
  rcases diagnostics_point_into_source _ _ diagnostic failed with
    ⟨⟨before, after, whole, file, -, -, -, -, counts⟩, -, starts⟩
  exact ⟨diagnostic, failed, place, ⟨before, after, whole, file, counts (by decide)⟩,
    starts _ tokenized⟩

end ScriptCheck
