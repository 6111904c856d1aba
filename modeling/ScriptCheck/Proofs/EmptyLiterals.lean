import ScriptCheck.Check
import ScriptCheck.Proofs.Grammar.Layout
import ScriptCheck.Proofs.Grammar.Lookahead
import ScriptCheck.Proofs.Typing.Hashing

/-!
# Empty literals as first values

A variable of any array or set type may start as an empty literal: the literal has the element type
`void`, which agrees with every element type. The empty pair of curly brackets is a set, and no set
agrees with a map, so no variable of a map type may start as an empty literal.
-/

namespace ScriptCheck

open ScriptCheck.Parser

/-- Types that are written with no names of templates and neither `null` nor `infer`. -/
inductive Ty.Plain : Ty → Prop
  | primitive {basic : Primitive} (known : basic ≠ .null ∧ basic ≠ .void ∧ basic ≠ .infer) :
      Plain (.primitive basic)
  | array {element : Ty} (plain : Plain element) : Plain (.array element)
  | set {element : Ty} (plain : Plain element) : Plain (.set element)
  | map {key value : Ty} (plainKey : Plain key) (plainValue : Plain value) : Plain (.map key value)
  | procedure {params : List (String × Ty)}
      (named : ∀ param ∈ params, (word param.1).isLegible = true)
      (plain : ∀ param ∈ params, Plain param.2) : Plain (.function ⟨.void, params⟩)
  | function {result : Ty} {params : List (String × Ty)} (plainResult : Plain result)
      (named : ∀ param ∈ params, (word param.1).isLegible = true)
      (plain : ∀ param ∈ params, Plain param.2) : Plain (.function ⟨result, params⟩)

/-- The first kinds of these tokens tell that a declaration starts with them. -/
def StartsDeclared (kinds : List Kind) : Prop :=
  ∃ first rest, kinds = first :: rest ∧
    (first.stmtForm? = some .varDecl ∨ first = .funcWord ∧ rest.head? = some .less)

theorem StartsDeclared.append {front : List Kind} (starts : StartsDeclared front)
    (behind : List Kind) : StartsDeclared (front ++ behind) := by
  obtain ⟨first, rest, rfl, known⟩ := starts
  refine ⟨first, rest ++ behind, rfl, known.imp_right ?_⟩
  rintro ⟨isFunction, angle⟩
  exact ⟨isFunction, by rw [List.head?_append, angle]; rfl⟩

namespace Ty.Plain

variable {spell : Number.Binary64 → String} {type : Ty}

theorem readable (plain : type.Plain) : type.Readable spell := by
  induction plain with
  | primitive known => exact readable_primitive known.2.1
  | array _ ih => exact ih.array
  | set _ ih => exact ih.set
  | map _ _ ihKey ihValue => exact ihKey.map ihValue
  | procedure _ _ ih => exact readable_function ⟨.inl rfl, ih⟩
  | function _ _ _ ihResult ih => exact readable_function ⟨.inr ihResult, ih⟩

/-- The first word, or the mark behind it, is the start of a declaration. -/
theorem startsDeclared (plain : type.Plain) : StartsDeclared (kinds type.pieces) := by
  induction plain with
  | @primitive basic known =>
      refine ⟨basic.kind, [], rfl, .inl ?_⟩
      revert known
      cases basic <;> decide
  | array _ ih | set _ ih | map _ _ _ ih =>
      rw [Ty.pieces, kinds_append]
      exact ih.append _
  | procedure | function => exact ⟨_, _, rfl, .inr ⟨rfl, rfl⟩⟩

theorem declares (plain : type.Plain) : type.Declares := by
  obtain ⟨first, rest, starts, known⟩ := plain.startsDeclared
  exact ⟨first, rest, starts, .inr known⟩

theorem referencedNames_eq (plain : type.Plain) : type.referencedNames = [] := by
  have paramNames_eq {params : List (String × Ty)}
      (each : ∀ param ∈ params, param.2.referencedNames = []) : paramNames params = [] := by
    induction params with
    | nil => rfl
    | cons param rest ih =>
        rw [List.forall_mem_cons] at each
        rw [paramNames, each.1, ih each.2]
        rfl
  induction plain with
  | primitive => rfl
  | array _ ih => exact ih
  | set _ ih => exact ih
  | map _ _ ihKey ihValue => rw [Ty.referencedNames, ihKey, ihValue]; rfl
  | procedure _ _ ih => exact paramNames_eq ih
  | function _ _ _ ihResult ih =>
      rw [Ty.referencedNames, Signature.referencedNames, ihResult, paramNames_eq ih]
      rfl

/-- A type whose elements and keys are hashable at every depth passes the check for this. -/
theorem checkHashable_eq (plain : type.Plain) (keyed : type.KeyedUnless fun _ => False) :
    type.checkHashable = .ok () := by
  have checkHashableParams_eq {params : List (String × Ty)}
      (each : ∀ param ∈ params, param.2.checkHashable = .ok ()) :
      checkHashableParams params = .ok () := by
    induction params with
    | nil => rfl
    | cons param rest ih =>
        rw [List.forall_mem_cons] at each
        rw [checkHashableParams, each.1]
        exact ih each.2
  induction plain with
  | primitive => rfl
  | array _ ih => exact ih ((Ty.keyedUnless_array _).mp keyed)
  | set _ ih =>
      obtain ⟨hashable, keyed⟩ := (Ty.keyedUnless_set _).mp keyed
      rw [Ty.checkHashable, if_pos (Bool.of_not_eq_false hashable), ih keyed]
  | map _ _ ihKey ihValue =>
      obtain ⟨hashable, keyedKey, keyedValue⟩ := (Ty.keyedUnless_map _ _).mp keyed
      rw [Ty.checkHashable, if_pos (Bool.of_not_eq_false hashable), ihKey keyedKey]
      exact ihValue keyedValue
  | procedure _ _ ih =>
      obtain ⟨-, keyed⟩ := (Signature.keyedUnless_iff _).mp ((Ty.keyedUnless_function _).mp keyed)
      exact checkHashableParams_eq fun param member => ih param member (keyed param member)
  | function _ _ _ ihResult ih =>
      obtain ⟨keyedResult, keyed⟩ :=
        (Signature.keyedUnless_iff _).mp ((Ty.keyedUnless_function _).mp keyed)
      rw [Ty.checkHashable, Signature.checkHashable, ihResult keyedResult]
      exact checkHashableParams_eq fun param member => ih param member (keyed param member)

end Ty.Plain

/-- The marks and words in a declaration with an empty literal, apart from the names. -/
def declarationMarks : List Kind :=
  [.intWord, .floatWord, .boolWord, .strWord, .voidWord, .funcWord, .openBracket, .closeBracket,
    .openCurly, .closeCurly, .less, .greater, .comma, .assignment, .semicolon]

theorem legible_mark {kind : Kind} (known : kind ∈ declarationMarks) :
    (mark kind).isLegible = true := by
  have each : ∀ kind ∈ declarationMarks, (mark kind).isLegible = true := by decide +kernel
  exact each kind known

theorem legible_separated {items : List (List Piece)}
    (each : ∀ item ∈ items, ∀ piece ∈ item, piece.isLegible = true) :
    ∀ piece ∈ separated items, piece.isLegible = true := by
  cases items with
  | nil => exact List.forall_mem_nil _
  | cons first rest =>
      rw [List.forall_mem_cons] at each
      rw [separated, List.forall_mem_append]
      refine ⟨each.1, ?_⟩
      intro piece member
      obtain ⟨item, inside, among⟩ := List.mem_flatMap.mp member
      rcases List.mem_cons.mp among with rfl | later
      · exact legible_mark (by decide)
      · exact each.2 item inside piece later

theorem legible_params {params : List (String × Ty)}
    (named : ∀ param ∈ params, (word param.1).isLegible = true)
    (each : ∀ param ∈ params, ∀ piece ∈ param.2.pieces, piece.isLegible = true) :
    ∀ piece ∈ separated (paramPieces params), piece.isLegible = true := by
  apply legible_separated
  rw [paramPieces_eq_map, List.forall_mem_map]
  intro param member
  rw [List.forall_mem_append, List.forall_mem_singleton]
  exact ⟨each param member, named param member⟩

theorem legible_signature {result : Ty} {params : List (String × Ty)}
    (ofResult : ∀ piece ∈ result.pieces, piece.isLegible = true)
    (ofParams : ∀ piece ∈ separated (paramPieces params), piece.isLegible = true) :
    ∀ piece ∈ (Ty.function ⟨result, params⟩).pieces, piece.isLegible = true := by
  simp only [Ty.pieces, Signature.pieces, List.forall_mem_append, List.forall_mem_cons]
  exact ⟨legible_mark (by decide), legible_mark (by decide), ofResult, legible_mark (by decide),
    legible_mark (by decide), ofParams, legible_mark (by decide), legible_mark (by decide),
    List.forall_mem_nil _⟩

/-- All that is written for a plain type can be read piece by piece. -/
theorem Ty.Plain.legible {type : Ty} (plain : type.Plain) :
    ∀ piece ∈ type.pieces, piece.isLegible = true := by
  induction plain with
  | @primitive basic known =>
      rw [Ty.pieces, List.forall_mem_singleton]
      apply legible_mark
      revert known
      cases basic <;> decide
  | array _ ih | set _ ih =>
      simp only [Ty.pieces, List.forall_mem_append, List.forall_mem_cons]
      exact ⟨ih, legible_mark (by decide), legible_mark (by decide), List.forall_mem_nil _⟩
  | map _ _ ihKey ihValue =>
      simp only [Ty.pieces, List.forall_mem_append, List.forall_mem_cons]
      exact ⟨ihValue, legible_mark (by decide), ihKey, legible_mark (by decide),
        List.forall_mem_nil _⟩
  | procedure named _ ih =>
      refine legible_signature ?_ (legible_params named ih)
      exact List.forall_mem_singleton.mpr (legible_mark (by decide))
  | function _ named _ ihResult ih => exact legible_signature ihResult (legible_params named ih)

/-- The literal without elements. The empty curly brackets are a set, for a map as well. -/
def Ty.emptyLiteral : Ty → Expr
  | .array _ => .array []
  | _ => .set []

theorem Ty.legible_emptyLiteral (type : Ty) :
    ∀ piece ∈ type.emptyLiteral.pieces, piece.isLegible = true := by
  unfold Ty.emptyLiteral
  split
  all_goals
    simp only [Expr.pieces, wrappedPieces, separated, List.nil_append, List.forall_mem_cons]
    exact ⟨legible_mark (by decide), legible_mark (by decide), List.forall_mem_nil _⟩

/-- The declaration of a variable that starts as the empty literal for its type. -/
def emptyDeclaration (position : Position) (name : String) (type : Ty) : Stmt :=
  .varDecl position ParserState.firstId name type type.emptyLiteral

namespace Parser

variable {state : ParserState} {first second stop : Token} {rest : List Token}

theorem kind_of_cons {expected : Kind} (same : first.kind = expected) :
    kind { state with upcoming := first :: rest } =
      .ok expected { state with upcoming := first :: rest } := by
  rw [kind_apply, ← same]
  rfl

/-- An expression ends in front of a semicolon, where nothing but its start has been read. -/
theorem parseExpr_of_start {value : Expr}
    (start : exprStart whole state = .ok value { state with upcoming := stop :: rest })
    (ends : stop.kind = .semicolon) :
    parseExpr .lowest state = .ok value { state with upcoming := stop :: rest } := by
  have ahead : Kind.ahead (stop :: rest) = .semicolon := ends
  rw [← exprForm_whole, exprForm, bind_of_ok start, (loopEnds_exprTail .lowest).unroll, ahead,
    if_neg (by decide)]

theorem parseExpr_emptyArray (opens : first.kind = .openBracket)
    (closes : second.kind = .closeBracket) (ends : stop.kind = .semicolon) :
    parseExpr .lowest { state with upcoming := first :: second :: stop :: rest } =
      .ok (.array []) { state with upcoming := stop :: rest } := by
  have opened : expect .openBracket { state with upcoming := first :: second :: stop :: rest } =
      .ok first { state with upcoming := second :: stop :: rest } := expect_of_cons rfl opens
  have none : itemsUntil .closeBracket (whole.expr .lowest)
      { state with upcoming := second :: stop :: rest } =
        .ok [] { state with upcoming := second :: stop :: rest } := by
    rw [itemsUntil, bind_of_ok (kind_of_cons closes), if_pos rfl]
    rfl
  have closed : expect .closeBracket { state with upcoming := second :: stop :: rest } =
      .ok second { state with upcoming := stop :: rest } := expect_of_cons rfl closes
  apply parseExpr_of_start _ ends
  rw [exprStart, bind_of_ok (kind_of_cons opens)]
  show arrayExpr whole _ = _
  rw [arrayExpr, bind_of_ok opened, bind_of_ok none, bind_of_ok closed,
    bind_of_ok (kind_of_cons ends), if_neg (by decide)]
  rfl

theorem parseExpr_emptySet (opens : first.kind = .openCurly)
    (closes : second.kind = .closeCurly) (ends : stop.kind = .semicolon) :
    parseExpr .lowest { state with upcoming := first :: second :: stop :: rest } =
      .ok (.set []) { state with upcoming := stop :: rest } := by
  have opened : expect .openCurly { state with upcoming := first :: second :: stop :: rest } =
      .ok first { state with upcoming := second :: stop :: rest } := expect_of_cons rfl opens
  apply parseExpr_of_start _ ends
  rw [exprStart, bind_of_ok (kind_of_cons opens)]
  show setOrMapExpr whole _ = _
  rw [setOrMapExpr, bind_of_ok opened, bind_of_ok (kind_of_cons closes), if_pos rfl]
  rfl

theorem parseExpr_emptyLiteral (type : Ty) {value : List Token}
    (spelled : value.map Token.wording = type.emptyLiteral.pieces.map Piece.wording)
    (ends : stop.kind = .semicolon) :
    parseExpr .lowest { state with upcoming := value ++ stop :: rest } =
      .ok type.emptyLiteral { state with upcoming := stop :: rest } := by
  have sameKinds := kinds_of_wording spelled
  unfold Ty.emptyLiteral at sameKinds ⊢
  split at sameKinds
  all_goals
    obtain ⟨first, rest, rfl, opens, sameRest⟩ := List.map_eq_cons_iff.mp sameKinds
    obtain ⟨second, rest, rfl, closes, none⟩ := List.map_eq_cons_iff.mp sameRest
    obtain rfl := List.map_eq_nil_iff.mp none
  · exact parseExpr_emptyArray opens closes ends
  · exact parseExpr_emptySet opens closes ends

end Parser

/-- The tokens of a declaration are those of its parts. -/
theorem exists_writtenDeclaration {tokens : List Token} {position : Position} {id : Nat}
    {name : String} {type : Ty} {initializer : Expr}
    (worded : tokens.map Token.wording =
      (Stmt.varDecl position id name type initializer).pieces.map Piece.wording) :
    ∃ declaration : WrittenDeclaration, tokens = declaration.tokens ∧ declaration.type = type ∧
      declaration.name.value = name ∧
      declaration.value.map Token.wording = initializer.pieces.map Piece.wording := by
  rw [Stmt.pieces, List.map_append] at worded
  obtain ⟨written, later, rfl, spelled, worded⟩ := List.map_eq_append_iff.mp worded
  obtain ⟨named, later, rfl, isName, worded⟩ := List.map_eq_cons_iff.mp worded
  obtain ⟨sign, later, rfl, isSign, worded⟩ := List.map_eq_cons_iff.mp worded
  rw [List.map_append] at worded
  obtain ⟨value, later, rfl, spelledValue, worded⟩ := List.map_eq_append_iff.mp worded
  obtain ⟨stop, later, rfl, isStop, none⟩ := List.map_eq_cons_iff.mp worded
  obtain rfl := List.map_eq_nil_iff.mp none
  have nameKind : named.kind = .identifier := congrArg Prod.fst isName
  have nameValue : named.value = name := by
    simpa [Token.wording, nameKind, Piece.wording, word] using isName
  exact ⟨⟨type, written, named, sign, value, stop, spelled, nameKind, congrArg Prod.fst isSign,
    congrArg Prod.fst isStop⟩, rfl, rfl, nameValue, spelledValue⟩

/-- A program may consist of a single statement. -/
theorem Parser.parseProgram_of_single {state after : ParserState} {stmt : Stmt}
    (begun : Kind.ahead state.upcoming ≠ .eof) (read : parseStmt state = .ok stmt after)
    (ended : after.upcoming = []) : parseProgram state = .ok { body := [stmt] } after := by
  have goesOn : (Kind.ahead state.upcoming != .eof) = true := bne_iff_ne.mpr begun
  have body : statements state = .ok [stmt] after := by
    rw [statements, collectWhile_again (fun _ _ _ _ ran => (parseStmt_passes ran).2) goesOn,
      bind_of_ok read, bind_of_ok (statements_of_nil ended)]
    rfl
  rw [parseProgram, bind_of_ok body]
  rfl

/-- The grammar reads the declaration from any tokens with its wording. -/
theorem Program.ofTokens_emptyDeclaration {tokens : List Token} {position : Position}
    {name : String} {type : Ty} (plain : type.Plain)
    (written : IsWritten (emptyDeclaration position name type).pieces tokens) (file : String) :
    ∃ first more, tokens = first :: more ∧
      Program.ofTokens tokens file = .ok { body := [emptyDeclaration first.start name type] } := by
  obtain ⟨front, closing, rfl, worded, closes⟩ := List.map_eq_append_iff.mp written
  obtain ⟨last, none, rfl, isEnd, ended⟩ := List.map_eq_cons_iff.mp closes
  obtain rfl := List.map_eq_nil_iff.mp ended
  obtain ⟨declaration, rfl, rfl, rfl, spelled⟩ := exists_writtenDeclaration worded
  let state : ParserState :=
    { upcoming := declaration.tokens, final := last, nextId := ParserState.firstId, file
      final_kind := congrArg Prod.fst isEnd }
  have coming : state.upcoming = declaration.tokens ++ [] := (List.append_nil _).symm
  have consumed : parseExpr .lowest
      { state with upcoming := declaration.value ++ [declaration.stop] } =
        .ok declaration.type.emptyLiteral { state with upcoming := [declaration.stop] } :=
    parseExpr_emptyLiteral _ spelled declaration.isStop
  have readable : declaration.type.Readable fun _ => "" := plain.readable
  have read := declaration.varDeclStmt_apply readable coming consumed rfl
  rw [← declaration.parseStmt_eq plain.declares coming] at read
  have begun : Kind.ahead state.upcoming ≠ .eof := by
    obtain ⟨kind, rest, starts, recognised⟩ := plain.declares
    obtain ⟨behind, kindsComing⟩ := declaration.kinds_upcoming coming
    rw [starts] at kindsComing
    rw [(ahead_of_kinds kindsComing).1]
    rintro rfl
    simp [Kind.stmtForm?] at recognised
  have all := parseProgram_of_single begun read rfl
  obtain ⟨first, more, split⟩ : ∃ first more, declaration.tokens = first :: more :=
    List.exists_cons_of_ne_nil (by simp [WrittenDeclaration.tokens])
  refine ⟨first, more ++ [last], by rw [split]; rfl, ?_⟩
  have starts : state.current = first := ParserState.current_of_cons split
  have parsed : parse (declaration.tokens ++ [last]) file = parseProgram state := by
    rw [parse, ParserState.ofTokens_concat _ (congrArg Prod.fst isEnd)]
    rfl
  rw [← starts, Program.ofTokens, parsed, all]
  rfl

/-- A type for a variable that holds several values. -/
def Ty.isCollection : Ty → Bool
  | .array _ | .set _ | .map .. => true
  | _ => false

def Ty.isMap : Ty → Bool
  | .map .. => true
  | _ => false

/-- The type of the empty literal. -/
def Ty.emptied : Ty → Ty
  | .array _ => .array .void
  | _ => .set .void

theorem Ty.agrees_emptied {type : Ty} (collection : type.isCollection = true) :
    type.agrees type.emptied = !type.isMap := by
  cases type <;> simp_all [Ty.agrees, Ty.emptied, Ty.isMap, Ty.isCollection, Ty.isVoid]

open Checker

theorem checkExpr_emptyLiteral (type : Ty) (state : CheckState) :
    checkExpr type.emptyLiteral state = .ok type.emptied state := by
  cases type <;> rfl

theorem variableType_of_plain {type : Ty} (plain : type.Plain)
    (collection : type.isCollection = true) (actual : Ty) (state : CheckState) :
    variableType type actual state = .ok type state := by
  have valid : validate type state = .ok () state := by
    rw [validate, plain.referencedNames_eq]
    rfl
  have opened : type.isInfer = false := by
    cases type <;> first | rfl | contradiction
  have resolved : resolve type state = .ok type state := by
    cases type <;> first | rfl | contradiction
  rw [variableType, opened, if_neg Bool.false_ne_true, bind_of_ok valid]
  exact resolved

/-- The check of the declaration comes down to the variable with the type of the literal. -/
theorem checkStmts_emptyDeclaration (position : Position) (name : String) (type : Ty) :
    checkStmts [emptyDeclaration position name type] CheckState.initial =
      (declareVariable ParserState.firstId name type type.emptied >>= fun _ =>
        moveTo Position.unknown) { CheckState.initial with position } := by
  have moved : checkStmt (emptyDeclaration position name type) CheckState.initial =
      ((checkExpr type.emptyLiteral >>= declareVariable ParserState.firstId name type) >>= fun _ =>
        moveTo Position.unknown) { CheckState.initial with position } := rfl
  have single : checkStmts [emptyDeclaration position name type] =
      checkStmt (emptyDeclaration position name type) := bind_pure_unit
  rw [single, moved, bind_assoc, bind_of_ok (checkExpr_emptyLiteral type _)]

/-- What the check answers: the declared type for arrays and sets, and a fault for maps. -/
theorem check_emptyDeclaration (position : Position) (name : String) {type : Ty}
    (plain : type.Plain) (keyed : type.KeyedUnless fun _ => False)
    (collection : type.isCollection = true) :
    Program.check { body := [emptyDeclaration position name type] } =
      if type.isMap then
        .error
          { cause := .typing (.variableTypeMismatch name type.display "void\x7b\x7d"), position }
      else .ok (Analysis.empty.addVariable ParserState.firstId type) := by
  let state : CheckState := { CheckState.initial with position }
  have unbound : requireUnbound name state = .ok () state := rfl
  have typed := variableType_of_plain plain collection type.emptied state
  have same := Ty.agrees_emptied collection
  rw [Program.check, checkStmts_emptyDeclaration]
  cases isMap : type.isMap with
  | true =>
      rw [isMap] at same
      have shown : type.emptied.display = "void\x7b\x7d" := by
        cases type <;> first | rfl | contradiction
      have refused : declareVariable ParserState.firstId name type type.emptied state =
          .error { cause := .typing (.variableTypeMismatch name type.display "void\x7b\x7d")
                   position } state := by
        rw [declareVariable, bind_of_ok unbound, bind_of_ok typed, Rule.initializer, Rule.agree,
          same, shown]
        rfl
      rw [bind_of_error refused]
      rfl
  | false =>
      rw [isMap] at same
      have accepted : declareVariable ParserState.firstId name type type.emptied state =
          .ok () { state with
            scopes := { inner := (Scope.empty .global).bind name type, outer := [] }
            analysis := Analysis.empty.addVariable ParserState.firstId type } := by
        rw [declareVariable, bind_of_ok unbound, bind_of_ok typed, Rule.initializer, Rule.agree,
          same, plain.checkHashable_eq keyed]
        rfl
      rw [bind_of_ok accepted]
      rfl

/-- Where the tokens and their syntax tree are found, the answer is that of the check. -/
theorem checkSource_of_ofTokens {source file : String} {tokens : List Token} {program : Program}
    (scanned : tokenize source file = .ok tokens)
    (parsed : Program.ofTokens tokens file = .ok program) :
    checkSource source file = program.check.map fun analysis => (program, analysis) := by
  simp only [checkSource, scanned, parsed, bind, Except.bind]
  cases program.check <;> rfl

/-- For every collection type and every name there is a text that declares the empty literal, and
any text with these tokens is accepted for arrays and sets, with the declared type for the variable.
For maps it is refused, since the literal is a set. -/
theorem empty_literals_checked {type : Ty} {name : String} (plain : type.Plain)
    (keyed : type.KeyedUnless fun _ => False) (collection : type.isCollection = true)
    (named : (word name).isLegible = true) (file : String) :
    (∃ source tokens, tokenize source file = .ok tokens ∧
      IsWritten (emptyDeclaration (Position.start file) name type).pieces tokens) ∧
    ∀ source tokens, tokenize source file = .ok tokens →
      IsWritten (emptyDeclaration (Position.start file) name type).pieces tokens →
      ∃ first more, tokens = first :: more ∧
        (type.isMap = false → checkSource source file =
          .ok ({ body := [emptyDeclaration first.start name type] },
            Analysis.empty.addVariable ParserState.firstId type)) ∧
        (type.isMap = true → checkSource source file =
          .error { cause := .typing (.variableTypeMismatch name type.display "void\x7b\x7d")
                   position := first.start }) := by
  constructor
  · apply exists_text
    simp only [emptyDeclaration, Stmt.pieces, List.forall_mem_append, List.forall_mem_cons]
    exact ⟨plain.legible, named, legible_mark (by decide), type.legible_emptyLiteral,
      legible_mark (by decide), List.forall_mem_nil _⟩
  · intro source tokens scanned written
    obtain ⟨first, more, split, parsed⟩ := Program.ofTokens_emptyDeclaration plain written file
    have answered := checkSource_of_ofTokens scanned parsed
    rw [check_emptyDeclaration first.start name plain keyed collection] at answered
    refine ⟨first, more, split, ?_, ?_⟩
    · intro isMap
      rw [answered, isMap]
      rfl
    · intro isMap
      rw [answered, isMap]
      rfl

/-- Maps from texts to numbers. -/
def numbersByText : Ty :=
  .map .str .int

theorem plain_numbersByText : numbersByText.Plain :=
  .map (.primitive (by decide)) (.primitive (by decide))

theorem keyed_numbersByText : numbersByText.KeyedUnless fun _ => False := by
  simp [numbersByText, Ty.KeyedUnless, Ty.nested, Ty.isIllKeyed, Ty.isHashable]

def emptyArraySource : String := "int\x7bstr\x7d[] x = [];"

def emptyMapSource : String := "int\x7bstr\x7d x = \x7b\x7d;"

/-- A token on the first line of a text. -/
def firstLineToken (kind : Kind) (value : String) (first last : Nat) : Token :=
  let place (offset : Nat) : Position :=
    { offset, line := 1, column := offset + 1, file := unnamedFile }
  { kind, value, start := place first, stop := place last }

def emptyArrayTokens : List Token :=
  [firstLineToken .intWord "int" 0 3, firstLineToken .openCurly "\x7b" 3 4,
    firstLineToken .strWord "str" 4 7, firstLineToken .closeCurly "\x7d" 7 8,
    firstLineToken .openBracket "[" 8 9, firstLineToken .closeBracket "]" 9 10,
    firstLineToken .identifier "x" 11 12, firstLineToken .assignment "=" 13 14,
    firstLineToken .openBracket "[" 15 16, firstLineToken .closeBracket "]" 16 17,
    firstLineToken .semicolon ";" 17 18, firstLineToken .eof "EOF" 18 18]

def emptyMapTokens : List Token :=
  [firstLineToken .intWord "int" 0 3, firstLineToken .openCurly "\x7b" 3 4,
    firstLineToken .strWord "str" 4 7, firstLineToken .closeCurly "\x7d" 7 8,
    firstLineToken .identifier "x" 9 10, firstLineToken .assignment "=" 11 12,
    firstLineToken .openCurly "\x7b" 13 14, firstLineToken .closeCurly "\x7d" 14 15,
    firstLineToken .semicolon ";" 15 16, firstLineToken .eof "EOF" 16 16]

theorem tokenize_emptyArraySource :
    tokenize emptyArraySource unnamedFile = .ok emptyArrayTokens := by
  apply Option.some.inj
  exact (tokensWithin_eq (Nat.le_refl _)).symm

theorem tokenize_emptyMapSource : tokenize emptyMapSource unnamedFile = .ok emptyMapTokens := by
  apply Option.some.inj
  exact (tokensWithin_eq (Nat.le_refl _)).symm

theorem emptyArray_accepted_emptyMap_refused :
    checkSource emptyArraySource unnamedFile =
        .ok ({ body := [emptyDeclaration (Position.start unnamedFile) "x" (.array numbersByText)] },
          Analysis.empty.addVariable ParserState.firstId (.array numbersByText)) ∧
      checkSource emptyMapSource unnamedFile =
        .error
          { cause := .typing (.variableTypeMismatch "x" numbersByText.display "void\x7b\x7d")
            position := Position.start unnamedFile } := by
  have named : (word "x").isLegible = true := by decide +kernel
  constructor
  · have keyed := (Ty.keyedUnless_array numbersByText).mpr keyed_numbersByText
    obtain ⟨first, more, split, accepted, -⟩ :=
      (empty_literals_checked plain_numbersByText.array keyed rfl named unnamedFile).2 _ _
        tokenize_emptyArraySource rfl
    cases split
    exact accepted rfl
  · obtain ⟨first, more, split, -, refused⟩ :=
      (empty_literals_checked plain_numbersByText keyed_numbersByText rfl named unnamedFile).2 _ _
        tokenize_emptyMapSource rfl
    cases split
    exact refused rfl

/-- There is a map type for which the empty literal is refused. -/
theorem emptyMap_refused :
    ¬ ∀ (type : Ty) name file source tokens, type.Plain → (type.KeyedUnless fun _ => False) →
      type.isCollection = true → (word name).isLegible = true →
      tokenize source file = .ok tokens →
      IsWritten (emptyDeclaration (Position.start file) name type).pieces tokens →
      ∃ program analysis, checkSource source file = .ok (program, analysis) ∧
        analysis.types.get? ParserState.firstId = some type := by
  intro accepted
  have named : (word "x").isLegible = true := by decide +kernel
  obtain ⟨program, analysis, checked, -⟩ := accepted numbersByText "x" unnamedFile emptyMapSource _
    plain_numbersByText keyed_numbersByText rfl named tokenize_emptyMapSource rfl
  rw [checkSource, tokenize_emptyMapSource] at checked
  contradiction

end ScriptCheck
