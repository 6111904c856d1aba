import Mathlib.Data.List.TakeWhile
import ScriptCheck.Token.Rule

/-!
# What the lexical rules take

A rule that yields a token takes the characters with which the token is written, and a rule that
skips takes blanks or a comment. `Gap` says of a text between tokens that it is made of such
pieces, and `Token.Spells` how the value of a token comes from the characters that it was written
with. Both are about the text alone and mention no rule.
-/

namespace ScriptCheck

/-- Blanks and closed comments, one behind the other, in front of the text `after`. A line comment
reaches to the end of its line, and a block comment to the first mark that closes it. -/
inductive Gap (after : List Char) : List Char → Prop
  | nil : Gap after []
  | blank {char : Char} {text : List Char} :
      Text.isBlank char = true → Gap after text → Gap after (char :: text)
  | lineComment {comment text : List Char} :
      '\n' ∉ comment → (∀ char ∈ (text ++ after).head?, char = '\n') → Gap after text →
      Gap after ('/' :: '/' :: (comment ++ text))
  | blockComment {comment text : List Char} :
      ¬['*', '/'] <:+: comment → Gap after text →
      Gap after ('/' :: '*' :: (comment ++ '*' :: '/' :: text))

/-- A token written as the given characters: between two equal quotes for a string literal, whose
value is what the characters between them denote, and letter by letter its value otherwise. -/
def Token.Spells (token : Token) (lexeme : List Char) : Prop :=
  if token.kind = .stringLiteral then
    ∃ quote ∈ ['"', '\''], ∃ inner, lexeme = quote :: (inner ++ [quote]) ∧
      token.value = String.ofList (Escape.decode inner)
  else token.value = String.ofList lexeme

theorem Gap.of_blanks {after blanks gap : List Char}
    (blank : ∀ char ∈ blanks, Text.isBlank char = true) (follows : Gap after gap) :
    Gap after (blanks ++ gap) := by
  induction blanks with
  | nil => exact follows
  | cons char blanks ih =>
      apply Gap.blank (blank char List.mem_cons_self)
      apply ih
      intro other mem
      exact blank other (List.mem_cons_of_mem _ mem)

theorem Kind.ofWord_ne {kind : Kind} (word : String) (named : kind ≠ .identifier)
    (unreserved : ∀ entry ∈ reservedWords, entry.2 ≠ kind) : ofWord word ≠ kind := by
  unfold ofWord
  cases found : reservedWords.lookup word with
  | none =>
      intro same
      exact named same.symm
  | some reserved =>
      rcases List.lookup_eq_some_iff.mp found with ⟨before, after, split, -⟩
      apply unreserved (word, reserved)
      simp [split]

namespace Rule

variable {rule : Rule} {text : List Char} {count : Nat}

theorem take_of_run? {property : Char → Bool} (found : run? property text = some count) :
    text.take count = text.takeWhile property := by
  unfold run? positive? at found
  split at found
  · contradiction
  · rw [Option.some.injEq] at found
    rw [← found]
    exact (List.prefix_iff_eq_take.mp (List.takeWhile_prefix property)).symm

theorem take_of_commentLength? (found : commentLength? text = some count) :
    ∃ comment, text.take count = comment ++ ['*', '/'] ∧ ¬['*', '/'] <:+: comment := by
  induction text generalizing count with
  | nil => contradiction
  | cons char rest ih =>
      unfold commentLength? at found
      split at found
      · contradiction
      · rename_i same
        obtain ⟨rfl, rfl⟩ := List.cons_eq_cons.mp same
        cases found
        exact ⟨[], rfl, by simp⟩
      · rename_i first others unmarked same
        obtain ⟨rfl, rfl⟩ := List.cons_eq_cons.mp same
        obtain ⟨inner, foundInner, rfl⟩ := Option.map_eq_some_iff.mp found
        obtain ⟨comment, taken, free⟩ := ih foundInner
        refine ⟨char :: comment, by simp [taken], ?_⟩
        rw [List.infix_cons_iff, not_or]
        refine ⟨?_, free⟩
        -- A mark that begins here would have closed the comment before.
        intro mark
        rw [List.cons_prefix_cons] at mark
        obtain ⟨rfl, mark⟩ := mark
        have slash : ['/'] <+: rest :=
          mark.trans ((List.prefix_append _ _).trans (taken ▸ List.take_prefix _ _))
        obtain ⟨others, rfl⟩ := slash
        exact unmarked others rfl rfl

theorem take_of_stringLength? {quote : Char} (found : stringLength? quote text = some count) :
    ∃ inner, text.take count = inner ++ [quote] := by
  induction text using stringLength?.induct quote generalizing count with
  | case1 => contradiction
  | case2 => contradiction
  | case3 escaped rest ih =>
      obtain ⟨more, foundMore, rfl⟩ := Option.map_eq_some_iff.mp found
      obtain ⟨inner, taken⟩ := ih foundMore
      exact ⟨'\\' :: escaped :: inner, by simp [taken]⟩
  | case4 rest notLast unescaped =>
      rw [stringLength?, if_pos rfl, Option.some.injEq] at found
      · exact ⟨[], by simp [← found]⟩
      · exact notLast
      · exact unescaped
  | case5 char rest notLast unescaped other ih =>
      rw [stringLength?, if_neg other] at found
      · obtain ⟨more, foundMore, rfl⟩ := Option.map_eq_some_iff.mp found
        obtain ⟨inner, taken⟩ := ih foundMore
        exact ⟨char :: inner, by simp [taken]⟩
      · exact notLast
      · exact unescaped

theorem take_of_lineComment (found : lineComment.length? text = some count) :
    ∃ comment, text.take count = '/' :: '/' :: comment ∧ '\n' ∉ comment ∧
      ∀ char ∈ (text.drop count).head?, char = '\n' := by
  obtain ⟨rest, rfl, rfl⟩ : ∃ rest, text = '/' :: '/' :: rest ∧
      count = (rest.takeWhile (· ≠ '\n')).length + 2 := by
    unfold length? at found
    split at found <;> simp_all
  have oneLine : '\n' ∉ rest.takeWhile (· ≠ '\n') := by
    intro newline
    simpa using List.mem_takeWhile_imp newline
  have ends : ∀ char ∈ (rest.dropWhile (· ≠ '\n')).head?, char = '\n' := by
    intro char first
    have unlike := List.head?_dropWhile_not (· ≠ '\n') rest
    rw [first] at unlike
    simpa using unlike
  have whole := rest.takeWhile_append_dropWhile (p := (· ≠ '\n'))
  generalize rest.takeWhile (· ≠ '\n') = comment at *
  generalize rest.dropWhile (· ≠ '\n') = others at *
  subst whole
  exact ⟨comment, by simp, oneLine, by simpa using ends⟩

theorem take_of_blockComment (found : blockComment.length? text = some count) :
    ∃ comment, text.take count = '/' :: '*' :: (comment ++ ['*', '/']) ∧
      ¬['*', '/'] <:+: comment := by
  obtain ⟨rest, more, rfl, foundMore, rfl⟩ : ∃ rest more, text = '/' :: '*' :: rest ∧
      commentLength? rest = some more ∧ count = more + 2 := by
    unfold length? at found
    split at found <;> simp_all
    grind
  obtain ⟨comment, taken, free⟩ := take_of_commentLength? foundMore
  exact ⟨comment, by simp [taken], free⟩

theorem take_of_string {quote : Char} (found : (string quote).length? text = some count) :
    ∃ inner, text.take count = quote :: (inner ++ [quote]) := by
  obtain ⟨rest, more, rfl, foundMore, rfl⟩ : ∃ rest more, text = quote :: rest ∧
      stringLength? quote rest = some more ∧ count = more + 1 := by
    unfold length? at found
    split at found <;> simp_all
    grind
  obtain ⟨inner, taken⟩ := take_of_stringLength? foundMore
  exact ⟨inner, by simp [taken]⟩

theorem take_of_fixed {lexeme : String} {kind : Kind}
    (found : (fixed lexeme kind).length? text = some count) : text.take count = lexeme.toList := by
  obtain ⟨starts, rfl⟩ : lexeme.toList <+: text ∧ count = lexeme.toList.length := by
    unfold length? positive? at found
    split at found <;> simp_all
  exact (List.prefix_iff_eq_take.mp starts).symm

theorem kind_of_fixed {lexeme : String} {kind : Kind} (known : fixed lexeme kind ∈ all) :
    kind ≠ .eof ∧ kind ≠ .stringLiteral := by
  constructor
  · rintro rfl
    simp [all] at known
  · rintro rfl
    simp [all] at known

theorem ok_of_first? (found : first? text = some (rule, count)) :
    rule ∈ all ∧ rule.length? text = some count := by
  obtain ⟨candidate, known, applies⟩ := List.exists_of_findSome?_eq_some found
  simp only [Option.map_eq_some_iff, Prod.mk.injEq] at applies
  obtain ⟨taken, applies, rfl, rfl⟩ := applies
  exact ⟨known, applies⟩

/-- What a rule skips can stand in front of any gap. -/
theorem gap_of_skip {gap after : List Char} (found : rule.length? text = some count)
    (skips : rule.outcome (text.take count) = .skip) (split : text.drop count = gap ++ after)
    (follows : Gap after gap) : Gap after (text.take count ++ gap) := by
  cases rule with
  | blanks =>
      apply Gap.of_blanks _ follows
      intro char mem
      rw [take_of_run? found] at mem
      exact List.mem_takeWhile_imp mem
  | lineComment =>
      obtain ⟨comment, taken, oneLine, ends⟩ := take_of_lineComment found
      rw [split] at ends
      rw [taken]
      exact Gap.lineComment oneLine ends follows
  | blockComment =>
      obtain ⟨comment, taken, free⟩ := take_of_blockComment found
      rw [taken]
      simpa using Gap.blockComment free follows
  | _ => contradiction

theorem spells_of_token {kind : Kind} {value : String} (known : rule ∈ all)
    (found : rule.length? text = some count)
    (makes : rule.outcome (text.take count) = .token kind value) (start stop : Position) :
    kind ≠ .eof ∧ Token.Spells { kind, value, start, stop } (text.take count) := by
  cases rule with
  | blanks | lineComment | blockComment | openComment | openString => contradiction
  | word =>
      cases makes
      have literal : Kind.ofWord (String.ofList (text.take count)) ≠ .stringLiteral :=
        Kind.ofWord_ne _ (by decide) (by decide)
      refine ⟨Kind.ofWord_ne _ (by decide) (by decide), ?_⟩
      rw [Token.Spells, if_neg literal]
  | number =>
      cases makes
      constructor
      · split <;> decide
      · rw [Token.Spells, if_neg]
        show ite _ _ _ ≠ _
        split <;> decide
  | string quote =>
      cases makes
      obtain ⟨inner, taken⟩ := take_of_string found
      refine ⟨by decide, ?_⟩
      rw [Token.Spells, if_pos rfl, taken]
      refine ⟨quote, ?_, inner, rfl, by simp⟩
      simpa [all] using known
  | fixed lexeme named =>
      cases makes
      obtain ⟨unended, literal⟩ := kind_of_fixed known
      refine ⟨unended, ?_⟩
      rw [Token.Spells, if_neg literal, take_of_fixed found, String.ofList_toList]

end Rule

end ScriptCheck
