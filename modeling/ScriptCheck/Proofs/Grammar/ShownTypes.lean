import ScriptCheck.Proofs.Grammar.Marking
import ScriptCheck.Proofs.Grammar.Shown
import ScriptCheck.Proofs.Grammar.Wording
import ScriptCheck.Proofs.Token.Words

/-!
# Shown types are read back

The text in which a type is shown is divided into the tokens that are written for the type. Nothing
in it is taken together with its neighbour: a word ends in front of a bracket, a comma or a space,
and neither `<` nor `>` stands in front of a mark that would make a longer operator with it. So the
type is parsed again from the text.

`Divides` says of a text that it is divided into some pieces wherever it stands in front of texts of
a kind. Such texts can be put together, and so the statement about types follows their structure.
-/

namespace ScriptCheck

/-- In front of such texts, a text is divided into the tokens of some pieces, and the text behind it
is divided on its own. -/
def Divides (ends : List Char → Prop) (text : List Char) (pieces : List Piece) : Prop :=
  ∀ rest, ends rest → ∀ position, ∃ tokens after,
    tokens.map Token.wording = pieces.map Piece.wording ∧
      tokensFrom { rest := text ++ rest, position } =
        (tokensFrom { rest, position := after }).map (tokens ++ ·)

abbrev anyText (_ : List Char) : Prop :=
  True

/-- Nothing, or a text whose first character goes on with no word and no angle bracket. -/
def Apart (rest : List Char) : Prop :=
  ∀ char ∈ rest.head?, Rule.continuesWord char = false ∧ char ≠ '>' ∧ char ≠ '='

section Pieces

variable {ends between : List Char → Prop} {text second : List Char} {pieces others : List Piece}

theorem Divides.append (divides : Divides between text pieces)
    (dividesSecond : Divides ends second others)
    (passes : ∀ rest, ends rest → between (second ++ rest)) :
    Divides ends (text ++ second) (pieces ++ others) := by
  intro rest ended position
  rcases divides (second ++ rest) (passes rest ended) position with ⟨first, middle, worded, ran⟩
  rcases dividesSecond rest ended middle with ⟨more, after, wordedMore, ranMore⟩
  refine ⟨first ++ more, after, ?_, ?_⟩
  · rw [List.map_append, List.map_append, worded, wordedMore]
  · rw [List.append_assoc, ran, ranMore]
    cases tokensFrom { rest, position := after } with
    | error diagnostic => rfl
    | ok tokens => exact congrArg Except.ok (List.append_assoc first more tokens).symm

/-- A text that is divided in the same way in front of any other. -/
theorem Divides.then (divides : Divides anyText text pieces)
    (dividesSecond : Divides ends second others) :
    Divides ends (text ++ second) (pieces ++ others) :=
  divides.append dividesSecond fun _ _ => trivial

theorem Divides.anywhere (divides : Divides anyText text pieces) : Divides ends text pieces :=
  fun rest _ => divides rest trivial

/-- What one rule makes of a text. -/
theorem divides_token {rule : Rule} {kind : Kind} {value : String}
    (found : ∀ rest, ends rest → Rule.first? (text ++ rest) = some (rule, text.length))
    (makes : rule.outcome text = .token kind value) :
    Divides ends text [.word kind value] := by
  intro rest ended position
  have taken : (text ++ rest).take text.length = text := List.take_left
  have left : (text ++ rest).drop text.length = rest := List.drop_left
  refine ⟨[{ kind, value, start := position, stop := position.advance text }],
    position.advance text, rfl, ?_⟩
  rw [tokensFrom_of_token (found rest ended) (by rw [taken]; exact makes)]
  simp only [Cursor.advance, taken, left]
  rfl

theorem divides_nil : Divides anyText [] [] := by
  intro rest _ position
  refine ⟨[], position, rfl, ?_⟩
  rw [List.nil_append]
  cases tokensFrom { rest, position } <;> rfl

theorem divides_space : Divides anyText [' '] [] := by
  intro rest _ position
  refine ⟨[], position.next ' ', rfl, ?_⟩
  rw [List.singleton_append, tokensFrom_blank (by decide)]
  cases tokensFrom { rest, position := position.next ' ' } <;> rfl

/-- A word is divided off in front of everything that does not go on with it. -/
theorem divides_word {value : String} (word : isWord value.toList = true) :
    Divides Apart value.toList [.word (Kind.ofWord value) value] := by
  apply divides_token
  · intro rest apart
    exact Rule.first?_of_isWord word fun char first => (apart char first).1
  · rw [Rule.outcome, String.ofList_toList]

theorem divides_mark {char : Char} {spelling : String} {kind : Kind}
    (spelled : kind.spelling = spelling)
    (found : ∀ rest, ends rest → Rule.first? (char :: rest) = some (.fixed spelling kind, 1)) :
    Divides ends [char] [mark kind] := by
  rw [mark, spelled]
  exact divides_token found rfl

theorem divides_openBracket : Divides anyText ['['] [mark .openBracket] :=
  divides_mark Kind.spelling_marks.1 fun _ _ => rfl

theorem divides_closeBracket : Divides anyText [']'] [mark .closeBracket] :=
  divides_mark Kind.spelling_marks.2.1 fun _ _ => rfl

theorem divides_openCurly : Divides anyText ['\x7b'] [mark .openCurly] :=
  divides_mark Kind.spelling_marks.2.2.1 fun _ _ => rfl

theorem divides_closeCurly : Divides anyText ['\x7d'] [mark .closeCurly] :=
  divides_mark Kind.spelling_marks.2.2.2.1 fun _ _ => rfl

theorem divides_comma : Divides anyText [','] [mark .comma] :=
  divides_mark Kind.spelling_marks.2.2.2.2.2.2.2 fun _ _ => rfl

/-- An angle bracket is one by itself unless a longer operator starts with it. -/
theorem Rule.first?_less {rest : List Char} (unequal : '=' ∉ rest.head?) :
    Rule.first? ('<' :: rest) = some (.fixed "<" .less, 1) := by
  refine Rule.first?_of_split (Rule.all.takeWhile (· ≠ .fixed "<" .less)) _ rfl rfl ?_
  cases rest with
  | nil => simp [Rule.all, Rule.Fits, Text.isBlank, Rule.startsWord]
  | cons char rest =>
      have other : '=' ≠ char := by simpa [eq_comm] using unequal
      simp [Rule.all, Rule.Fits, Text.isBlank, Rule.startsWord, other]

theorem Rule.first?_greater {rest : List Char} (apart : Apart rest) :
    Rule.first? ('>' :: rest) = some (.fixed ">" .greater, 1) := by
  refine Rule.first?_of_split (Rule.all.takeWhile (· ≠ .fixed ">" .greater)) _ rfl rfl ?_
  cases rest with
  | nil => simp [Rule.all, Rule.Fits, Text.isBlank, Rule.startsWord]
  | cons char rest =>
      rcases apart char rfl with ⟨-, single, unequal⟩
      simp [Rule.all, Rule.Fits, Text.isBlank, Rule.startsWord, single.symm, unequal.symm]

theorem divides_less : Divides (fun rest => '=' ∉ rest.head?) ['<'] [mark .less] :=
  divides_mark Kind.spelling_marks.2.2.2.2.2.1 fun _ unequal => Rule.first?_less unequal

theorem divides_greater : Divides Apart ['>'] [mark .greater] :=
  divides_mark Kind.spelling_marks.2.2.2.2.2.2.1 fun _ apart => Rule.first?_greater apart

theorem apart_cons {char : Char}
    (free : Rule.continuesWord char = false ∧ char ≠ '>' ∧ char ≠ '=') (rest : List Char) :
    Apart (char :: rest) := by
  intro first same
  cases same
  exact free

theorem divides_commaSeparated {texts : List String} {items : List (List Piece)}
    (divides : List.Forall₂ (fun text item => Divides Apart text.toList item) texts items) :
    Divides Apart (commaSeparated texts).toList (separated items) := by
  induction divides with
  | nil => exact divides_nil.anywhere
  | @cons text item texts items first rest ih =>
      cases rest with
      | nil => simpa [commaSeparated, separated] using first
      | @cons next other texts items _ _ =>
          have comma : Divides Apart (',' :: ' ' :: (commaSeparated (next :: texts)).toList)
              (mark .comma :: separated (other :: items)) :=
            divides_comma.then (divides_space.then ih)
          have all := first.append comma fun rest _ => apart_cons (by decide) _
          simpa [commaSeparated, separated, String.intercalate_cons_cons] using all

end Pieces

/-! ### Types -/

section Types

variable {name : String}

theorem divides_name (isName : isName name = true) :
    Divides Apart name.toList [word name] := by
  rcases Bool.and_eq_true_iff.mp isName with ⟨isWord, unreserved⟩
  have divides := divides_word isWord
  rw [beq_iff_eq.mp unreserved] at divides
  exact divides

theorem Primitive.isWord_display (primitive : Primitive) :
    isWord primitive.display.toList = true := by
  cases primitive <;> decide

theorem Primitive.ofWord_display (primitive : Primitive) :
    Kind.ofWord primitive.display = primitive.kind := by
  cases primitive <;> decide

/-- The text in which a type is shown starts with a word. -/
theorem Ty.startsWord_display (type : Ty) (named : ∀ name ∈ type.shownNames, isName name = true) :
    ∃ first rest, type.display.toList = first :: rest ∧ Rule.startsWord first = true := by
  have begins {text : String} (word : isWord text.toList = true) :
      ∃ first rest, text.toList = first :: rest ∧ Rule.startsWord first = true := by
    cases written : text.toList with
    | nil =>
        rw [written] at word
        contradiction
    | cons first rest =>
        rw [written, isWord, Bool.and_eq_true] at word
        exact ⟨first, rest, rfl, word.1⟩
  have behind {text : String} (more : String)
      (starts : ∃ first rest, text.toList = first :: rest ∧ Rule.startsWord first = true) :
      ∃ first rest, (text ++ more).toList = first :: rest ∧ Rule.startsWord first = true := by
    rcases starts with ⟨first, rest, written, starts⟩
    exact ⟨first, rest ++ more.toList, by rw [String.toList_append, written]; rfl, starts⟩
  cases type with
  | primitive primitive =>
      rw [Ty.display]
      exact begins primitive.isWord_display
  | array element =>
      rw [Ty.display]
      exact behind _ (element.startsWord_display named)
  | set element =>
      rw [Ty.display]
      exact behind _ (element.startsWord_display named)
  | map key value =>
      rw [Ty.shownNames, List.forall_mem_append] at named
      rw [Ty.display, String.append_assoc, String.append_assoc]
      exact behind _ (value.startsWord_display named.1)
  | function signature =>
      rcases signature with ⟨result, params⟩
      rw [Ty.display, Signature.display]
      simp only [String.append_assoc]
      exact behind _ ⟨'f', _, rfl, by decide⟩
  | named name =>
      rw [Ty.display]
      exact begins (isWord_of_isName (named name List.mem_cons_self))
  | template template =>
      rw [Ty.display]
      exact begins (isWord_of_isName (named template.name List.mem_cons_self))
  termination_by structural type

mutual

/-- Shown in front of a text that stands apart, a type is divided into its pieces. -/
theorem Ty.divides_display (type : Ty) (named : ∀ name ∈ type.shownNames, isName name = true) :
    Divides Apart type.display.toList type.pieces := by
  cases type with
  | primitive primitive =>
      have divides := divides_word primitive.isWord_display
      rw [primitive.ofWord_display] at divides
      rw [Ty.display, Ty.pieces, mark, primitive.spelling_kind]
      exact divides
  | array element =>
      have suffix := divides_openBracket.then divides_closeBracket
      rw [Ty.display, Ty.pieces, String.toList_append]
      exact ((element.divides_display named).append suffix
        fun _ _ => apart_cons (by decide) _).anywhere
  | set element =>
      have suffix := divides_openCurly.then divides_closeCurly
      rw [Ty.display, Ty.pieces, String.toList_append]
      exact ((element.divides_display named).append suffix
        fun _ _ => apart_cons (by decide) _).anywhere
  | map key value =>
      rw [Ty.shownNames, List.forall_mem_append] at named
      have closed := (key.divides_display named.2).append divides_closeCurly
        fun _ _ => apart_cons (by decide) _
      have suffix := divides_openCurly.then closed
      have whole := (value.divides_display named.1).append suffix
        fun _ _ => apart_cons (by decide) _
      rw [Ty.display, Ty.pieces]
      simpa [String.toList_append] using whole.anywhere
  | function signature =>
      rw [Ty.display, Ty.pieces]
      exact signature.divides_display named
  | named name =>
      rw [Ty.display, Ty.pieces]
      exact divides_name (named name List.mem_cons_self)
  | template template =>
      rw [Ty.display, Ty.pieces]
      exact divides_name (named template.name List.mem_cons_self)
  termination_by structural type

theorem Signature.divides_display (signature : Signature)
    (named : ∀ name ∈ signature.shownNames, isName name = true) :
    Divides Apart signature.display.toList signature.pieces := by
  rcases signature with ⟨result, params⟩
  rw [Signature.shownNames, List.forall_mem_append] at named
  have list := (divides_commaSeparated (divides_displayParams params named.2)).append
    (divides_closeBracket.then divides_greater) fun _ _ => apart_cons (by decide) _
  have opened := divides_comma.then (divides_space.then (divides_openBracket.then list))
  have inside := (result.divides_display named.1).append opened
    fun _ _ => apart_cons (by decide) _
  -- The result starts with a word, so the bracket in front of it is no longer operator.
  have between := divides_less.append inside fun rest _ equal => by
    rcases result.startsWord_display named.1 with ⟨first, _, written, starts⟩
    rw [written] at equal
    cases equal
    contradiction
  have word : Divides Apart "func".toList [mark .funcWord] := by
    rw [mark, Kind.spelling_marks.2.2.2.2.1]
    exact divides_word (by decide)
  have whole := word.append between fun _ _ => apart_cons (by decide) _
  rw [Signature.display, Signature.pieces]
  simpa [String.toList_append] using whole
  termination_by structural signature

theorem divides_displayParams (params : List (String × Ty))
    (named : ∀ name ∈ shownParamNames params, isName name = true) :
    List.Forall₂ (fun text item => Divides Apart text.toList item) (displayParams params)
      (paramPieces params) := by
  cases params with
  | nil => exact .nil
  | cons param rest =>
      rcases param with ⟨name, type⟩
      rw [shownParamNames, List.forall_mem_append, List.forall_mem_cons] at named
      rcases named with ⟨namedType, isName, namedRest⟩
      have spaced := divides_space.then (divides_name isName)
      rw [displayParams, paramPieces]
      refine .cons ?_ (divides_displayParams rest namedRest)
      have all := (type.divides_display namedType).append spaced
        fun _ _ => apart_cons (by decide) _
      simpa [String.toList_append] using all
  termination_by structural params

end

/-- The text in which a type is shown, as a source. -/
theorem Ty.tokenize_display (type : Ty) (named : ∀ name ∈ type.shownNames, isName name = true)
    (file : String) :
    ∃ tokens stop, tokens.map Token.wording = type.pieces.map Piece.wording ∧
      tokenize type.display file = .ok (tokens ++ [Token.eofAt stop]) := by
  have apart : Apart [] := nofun
  rcases type.divides_display named [] apart (Position.start file) with
    ⟨tokens, stop, worded, divided⟩
  have ended : tokensFrom { rest := [], position := stop } = .ok [Token.eofAt stop] :=
    tokensFrom_of_nil rfl
  refine ⟨tokens, stop, worded, ?_⟩
  rw [List.append_nil, ended] at divided
  exact divided

end Types

/-- Names are marked that are identifiers, and all positions are. -/
def Marking.identifiers : Marking where
  position _ := True
  name name := isName name = true

theorem Token.marked_of_tokenize {source file : String} {tokens : List Token}
    (tokenized : tokenize source file = .ok tokens) {token : Token} (among : token ∈ tokens) :
    token.Marked .identifiers :=
  ⟨trivial, isName_of_scans (scans_of_tokensFrom _ _ tokenized) token among⟩

/-- A type that is parsed from tokens of some source is shown as a text that is divided into tokens,
from which the same type is parsed, and the parser stops at the end of the text. -/
theorem shown_types_are_read_back {source file : String} {tokens : List Token}
    (tokenized : tokenize source file = .ok tokens) {state after : ParserState}
    (within : ∀ token ∈ state.upcoming, token ∈ tokens) {power : Power} {type : Ty}
    (parsed : Parser.parseType power state = .ok type after) (other : String) :
    ∃ again final, tokenize type.display other = .ok again ∧
      Parser.parseType .lowest (ParserState.ofTokens again other) = .ok type final ∧
        final.upcoming = [] ∧ final.current.kind = .eof := by
  have starts : state.Marked .identifiers := by
    constructor
    · exact fun token among => Token.marked_of_tokenize tokenized (within token among)
    · refine ⟨trivial, fun isIdentifier => ?_⟩
      rw [state.final_kind] at isIdentifier
      contradiction
  have isNamed : type.Named Marking.identifiers.name := by
    have found := Parser.marks_parseType power state starts
    rw [parsed] at found
    exact found.2.isNamed
  have finds : Parser.FindsType (fun _ => "") Parser.anywhere (Parser.parseType power) :=
    Parser.findsType_parseType power
  rcases finds state type after trivial parsed with ⟨_, _, readable, _⟩
  rcases type.tokenize_display isNamed.shown other with ⟨again, stop, worded, divided⟩
  have ended : (Token.eofAt stop).kind = .eof := rfl
  have closed := ParserState.ofTokens_concat again ended other
  have coming : (ParserState.ofTokens (again ++ [Token.eofAt stop]) other).upcoming =
      again ++ [] := by rw [closed, List.append_nil]
  refine ⟨_, _, divided, readable.parseType_of_wording coming worded rfl, rfl, ?_⟩
  exact ParserState.final_kind _

/-- An array of functions that take a map whose keys are arrays. -/
def callbacks : Ty :=
  .array (.function { result := .void, params := [("a", .map (.array .int) (.named "Pair"))] })

/-- The type without the space behind the comma in which it is shown, and with others instead. -/
def callbacksSource : String := "func<void,[Pair\x7bint[ ]\x7d  a]>[]"

def callbacksTokens : List Token :=
  let place (offset : Nat) : Position := { offset, line := 1, column := offset + 1, file := "a" }
  let token (kind : Kind) (value : String) (offset : Nat) : Token :=
    { kind, value, start := place offset, stop := place (offset + value.length) }
  [token .funcWord "func" 0, token .less "<" 4, token .voidWord "void" 5, token .comma "," 9,
   token .openBracket "[" 10, token .identifier "Pair" 11, token .openCurly "\x7b" 15,
   token .intWord "int" 16, token .openBracket "[" 19, token .closeBracket "]" 21,
   token .closeCurly "\x7d" 22, token .identifier "a" 25, token .closeBracket "]" 26,
   token .greater ">" 27, token .openBracket "[" 28, token .closeBracket "]" 29,
   Token.eofAt (place 30)]

theorem callbacks_read_back :
    tokenize callbacksSource "a" = .ok callbacksTokens ∧
      (∃ after, Parser.parseType .lowest (ParserState.ofTokens callbacksTokens "a") =
        .ok callbacks after) ∧
      callbacks.display = "func<void, [Pair\x7bint[]\x7d a]>[]" ∧
      ∃ again final, tokenize callbacks.display "b" = .ok again ∧
        Parser.parseType .lowest (ParserState.ofTokens again "b") = .ok callbacks final ∧
          final.upcoming = [] ∧ final.current.kind = .eof := by
  have tokenized : tokenize callbacksSource "a" = .ok callbacksTokens := by
    apply Option.some.inj
    exact (tokensWithin_eq (Nat.le_refl _)).symm
  have parsed : ∃ after, Parser.parseType .lowest (ParserState.ofTokens callbacksTokens "a") =
      .ok callbacks after := ⟨_, rfl⟩
  rcases parsed with ⟨after, parsed⟩
  have within : ∀ token ∈ (ParserState.ofTokens callbacksTokens "a").upcoming,
      token ∈ callbacksTokens := fun _ member => List.dropLast_subset _ member
  exact ⟨tokenized, ⟨after, parsed⟩, rfl, shown_types_are_read_back tokenized within parsed "b"⟩

end ScriptCheck
