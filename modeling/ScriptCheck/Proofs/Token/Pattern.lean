import ScriptCheck.Proofs.Token.Separation

/-!
# Patterns of the lexical rules

What a lexical rule takes, written as a pattern for the front of a text. A pattern may match in
several ways, which are tried in an order: the first way of a choice comes before the second one,
and a repetition goes on for as long as it can, or leaves off as soon as it can where it is
reluctant. The match of a pattern is the first way that succeeds, not the longest one.

`Pattern.rests` lists what is left behind each way, in this order. A rule takes exactly what its
pattern matches.
-/

namespace ScriptCheck

/-- A pattern for the front of a text. -/
inductive Pattern where
  | empty
  | one (property : Char → Bool)
  | seq (first second : Pattern)
  | choice (first second : Pattern)
  | many (body : Pattern)
  | reluctant (body : Pattern)

namespace Pattern

/-- What is left behind a number of rounds up to the given one, the ways with more rounds first.
Every round has to take something. -/
def eagerRounds (round : List Char → List (List Char)) : Nat → List Char → List (List Char)
  | 0, text => [text]
  | limit + 1, text =>
    ((round text).filter (·.length < text.length)).flatMap (eagerRounds round limit) ++ [text]

/-- What is left behind a number of rounds up to the given one, the ways with fewer rounds first.
Every round has to take something. -/
def reluctantRounds (round : List Char → List (List Char)) : Nat → List Char → List (List Char)
  | 0, text => [text]
  | limit + 1, text =>
    text :: ((round text).filter (·.length < text.length)).flatMap (reluctantRounds round limit)

/-- What is left of a text behind each way in which a pattern matches, in the order in which they
are tried. -/
def rests : Pattern → List Char → List (List Char)
  | empty, text => [text]
  | one _, [] => []
  | one property, char :: text => if property char then [text] else []
  | seq first second, text => (first.rests text).flatMap second.rests
  | choice first second, text => first.rests text ++ second.rests text
  | many body, text => eagerRounds body.rests text.length text
  | reluctant body, text => reluctantRounds body.rests text.length text

/-- What is left of a text behind the match of a pattern. -/
def rest? (pattern : Pattern) (text : List Char) : Option (List Char) :=
  (pattern.rests text).head?

/-- The number of characters that a pattern matches at the front of a text. -/
def length? (pattern : Pattern) (text : List Char) : Option Nat :=
  (pattern.rest? text).map fun rest => text.length - rest.length

/-- One character with a property after the other, and at least one. -/
def run (property : Char → Bool) : Pattern :=
  seq (one property) (many (one property))

/-- The given characters. -/
def literal : List Char → Pattern
  | [] => empty
  | char :: chars => seq (one (· == char)) (literal chars)

end Pattern

/-- The pattern of a lexical rule. -/
def Rule.pattern : Rule → Pattern
  | blanks => .run Text.isBlank
  | lineComment => .seq (.literal ['/', '/']) (.many (.one (· ≠ '\n')))
  | blockComment =>
    .seq (.literal ['/', '*'])
      (.seq (.reluctant (.one fun _ => true)) (.literal ['*', '/']))
  | openComment => .literal ['/', '*']
  | word => .seq (.one startsWord) (.many (.one continuesWord))
  | number =>
    .seq (.run Char.isDigit) (.choice (.seq (.one (· == '.')) (.run Char.isDigit)) .empty)
  | string quote =>
    .seq (.one (· == quote))
      (.seq (.many (.choice (.one fun char => char ≠ quote && char ≠ '\\')
        (.seq (.one (· == '\\')) (.one fun _ => true)))) (.one (· == quote)))
  | openString => .one fun char => char == '"' || char == '\''
  | fixed text _ => .literal text.toList

namespace Pattern

variable {first second : Pattern} {property : Char → Bool} {text : List Char}

theorem rest?_seq (first second : Pattern) (text : List Char) :
    (seq first second).rest? text = (first.rests text).findSome? second.rest? :=
  List.head?_flatMap

theorem rest?_choice (first second : Pattern) (text : List Char) :
    (choice first second).rest? text = (first.rest? text).or (second.rest? text) :=
  List.head?_append

/-- What follows a part that matches in one way only. -/
theorem rest?_seq_of_single (rest : List Char) (single : first.rests text = [rest]) :
    (seq first second).rest? text = second.rest? rest := by
  rw [rest?_seq, single, List.findSome?_singleton]

/-- Nothing matches behind a part that does not match. -/
theorem rest?_seq_of_nil (fails : first.rests text = []) :
    (seq first second).rest? text = none := by
  rw [rest?_seq, fails, List.findSome?_nil]

/-- The first way of the first part decides where the second part matches behind every text. -/
theorem rest?_seq_of_total {found : List Char → List Char}
    (total : ∀ text, second.rest? text = some (found text)) :
    (seq first second).rest? text = (first.rest? text).map found := by
  rw [rest?_seq, rest?]
  cases first.rests text with
  | nil => rfl
  | cons rest others => rw [List.findSome?_cons, total]; rfl

theorem rests_literal (chars text : List Char) :
    (literal chars).rests text =
      if chars.isPrefixOf text then [text.drop chars.length] else [] := by
  induction chars generalizing text with
  | nil => rfl
  | cons char chars ih =>
      cases text with
      | nil => rfl
      | cons first text =>
          rw [literal, rests, rests, List.isPrefixOf_cons_cons, Bool.beq_comm]
          by_cases same : char = first
          · simp [same, ih]
          · simp [same]

theorem rest?_literal (chars text : List Char) :
    (literal chars).rest? text =
      if chars.isPrefixOf text then some (text.drop chars.length) else none := by
  rw [rest?, rests_literal]
  split <;> rfl

end Pattern

section Runs

open Pattern

variable {property : Char → Bool} {text : List Char}

theorem drop_length_takeWhile (property : Char → Bool) (text : List Char) :
    text.drop (text.takeWhile property).length = text.dropWhile property := by
  induction text with
  | nil => rfl
  | cons char text ih => by_cases holds : property char <;> simp [holds, ih]

/-- A round that takes something in one way only. -/
theorem Pattern.eagerRounds_of_single {round : List Char → List (List Char)} (rest : List Char)
    (single : round text = [rest]) (shorter : rest.length < text.length) (limit : Nat) :
    eagerRounds round (limit + 1) text = eagerRounds round limit rest ++ [text] := by
  simp [eagerRounds, single, shorter]

theorem Pattern.eagerRounds_of_nil {round : List Char → List (List Char)}
    (ended : round text = []) (limit : Nat) : eagerRounds round limit text = [text] := by
  cases limit <;> simp [eagerRounds, ended]

theorem Pattern.reluctantRounds_of_single {round : List Char → List (List Char)} (rest : List Char)
    (single : round text = [rest]) (shorter : rest.length < text.length) (limit : Nat) :
    reluctantRounds round (limit + 1) text = text :: reluctantRounds round limit rest := by
  simp [reluctantRounds, single, shorter]

/-- A repetition of single characters takes all that it can. -/
theorem Pattern.head?_eagerRounds_one {limit : Nat} (enough : text.length ≤ limit) :
    (eagerRounds (one property).rests limit text).head? = some (text.dropWhile property) := by
  induction text generalizing limit with
  | nil => cases limit <;> simp [eagerRounds, rests]
  | cons char text ih =>
      cases limit with
      | zero => simp at enough
      | succ limit =>
          have inner := ih (Nat.le_of_succ_le_succ enough)
          by_cases holds : property char
          · rw [eagerRounds_of_single text (by simp [rests, holds]) (by simp)]
            simp [holds, inner]
          · rw [eagerRounds_of_nil (by simp [rests, holds])]
            simp [holds]

theorem Pattern.rest?_many_one (property : Char → Bool) (text : List Char) :
    (many (one property)).rest? text = some (text.dropWhile property) :=
  head?_eagerRounds_one (Nat.le_refl _)

theorem Pattern.rest?_run (property : Char → Bool) (text : List Char) :
    (run property).rest? text = (Rule.run? property text).map text.drop := by
  cases text with
  | nil => rfl
  | cons char text =>
      rw [Rule.run?_cons]
      by_cases holds : property char
      · rw [run, rest?_seq_of_single text (by simp [rests, holds]), rest?_many_one]
        simp [holds, drop_length_takeWhile]
      · rw [run, rest?_seq_of_nil (by simp [rests, holds])]
        simp [holds]

end Runs

section Rules

open Pattern

variable {limit : Nat} {text : List Char}

/-- A fraction is taken where there is one. -/
theorem rest?_fraction (text : List Char) :
    (choice (seq (one (· == '.')) (run Char.isDigit)) empty).rest? text =
      some (text.drop (Rule.fractionLength text)) := by
  rw [rest?_choice]
  unfold Rule.fractionLength
  split
  · rename_i rest
    rw [rest?_seq_of_single rest (by simp [rests]), rest?_run]
    cases Rule.run? Char.isDigit rest with
    | none => rfl
    | some count => rfl
  · rename_i other
    rw [rest?_seq_of_nil]
    · rfl
    · cases text with
      | nil => rfl
      | cons char rest =>
          have noPoint : char ≠ '.' := fun point => other rest (by rw [point])
          simp [rests, noPoint]

/-- A reluctant repetition stops at the first mark that closes the comment. -/
theorem findSome?_reluctantRounds (enough : text.length ≤ limit) :
    (reluctantRounds (one fun _ => true).rests limit text).findSome?
        (literal ['*', '/']).rest? = (Rule.commentLength? text).map text.drop := by
  induction text using Rule.commentLength?.induct generalizing limit with
  | case1 => cases limit <;> rfl
  | case2 rest => cases limit <;> rfl
  | case3 char rest unmarked ih =>
      cases limit with
      | zero => simp at enough
      | succ limit =>
          have passes : (literal ['*', '/']).rest? (char :: rest) = none := by
            rw [rest?_literal, if_neg]
            intro mark
            rw [List.isPrefixOf_iff_prefix, List.cons_prefix_cons] at mark
            rcases mark with ⟨rfl, others, rfl⟩
            exact unmarked others rfl rfl
          rw [reluctantRounds_of_single rest rfl (Nat.lt_succ_self _),
            List.findSome?_cons, passes, ih (Nat.le_of_succ_le_succ enough),
            Rule.commentLength?.eq_3 _ _ unmarked]
          cases Rule.commentLength? rest <;> rfl

/-- What stands between the quotes: a character other than the quote, or a backslash with whatever
comes next. -/
abbrev quotedRound (quote : Char) : Pattern :=
  choice (one fun char => char ≠ quote && char ≠ '\\') (seq (one (· == '\\')) (one fun _ => true))

/-- The closing quote is the first one that no backslash takes with it. It is also the only one that
the rounds between the quotes can end in front of. -/
theorem findSome?_eagerRounds {quote : Char} (unescaping : quote ≠ '\\')
    (enough : text.length ≤ limit) :
    (eagerRounds (quotedRound quote).rests limit text).findSome? (one (· == quote)).rest? =
      (Rule.stringLength? quote text).map text.drop := by
  induction text using Rule.stringLength?.induct quote generalizing limit with
  | case1 => cases limit <;> rfl
  | case2 =>
      rw [eagerRounds_of_nil (by simp [rests])]
      simp [rest?, rests, Rule.stringLength?, Ne.symm unescaping]
  | case3 escaped rest ih =>
      cases limit with
      | zero => simp at enough
      | succ limit =>
          simp only [List.length_cons] at enough
          rw [eagerRounds_of_single rest (by simp [rests]) (by simp only [List.length_cons]; omega),
            List.findSome?_append, ih (by omega), Rule.stringLength?]
          cases Rule.stringLength? quote rest with
          | none => simp [rest?, rests, Ne.symm unescaping]
          | some count => simp
  | case4 rest notLast unescaped =>
      rw [eagerRounds_of_nil (by simp [rests, unescaping]), Rule.stringLength?_cons unescaping]
      simp [rest?, rests]
  | case5 char rest notLast unescaped other ih =>
      have plain : char ≠ '\\' := by
        intro isEscape
        cases rest with
        | nil => exact notLast isEscape rfl
        | cons escaped rest => exact unescaped escaped rest isEscape rfl
      cases limit with
      | zero => simp at enough
      | succ limit =>
          rw [eagerRounds_of_single rest (by simp [rests, other, plain]) (by simp),
            List.findSome?_append, ih (Nat.le_of_succ_le_succ enough),
            Rule.stringLength?_cons plain, if_neg other]
          cases Rule.stringLength? quote rest with
          | none => simp [rest?, rests, other]
          | some count => simp

namespace Rule

variable {rule : Rule} {text : List Char}

theorem length?_eq_none (unfit : ¬rule.Fits text) : rule.length? text = none :=
  Option.eq_none_iff_forall_ne_some.mpr fun _ applies => unfit (fits_of_length? applies)

theorem rest?_pattern_lineComment (text : List Char) :
    lineComment.pattern.rest? text = (lineComment.length? text).map text.drop := by
  rw [pattern, rest?_seq_of_total (rest?_many_one _), rest?_literal]
  by_cases starts : ['/', '/'] <+: text
  · rcases starts with ⟨rest, rfl⟩
    simp [length?, drop_length_takeWhile]
  · have unfit : lineComment.length? text = none := length?_eq_none starts
    rw [unfit, if_neg (starts ∘ List.isPrefixOf_iff_prefix.mp)]
    rfl

theorem rest?_pattern_blockComment (text : List Char) :
    blockComment.pattern.rest? text = (blockComment.length? text).map text.drop := by
  rw [pattern, rest?_seq, rests_literal]
  by_cases starts : ['/', '*'] <+: text
  · rcases starts with ⟨rest, rfl⟩
    have closes := findSome?_reluctantRounds (Nat.le_refl rest.length)
    rw [if_pos (by simp), List.findSome?_singleton, rest?_seq]
    show List.findSome? _ (reluctantRounds _ rest.length rest) = _
    rw [closes]
    cases found : commentLength? rest <;> simp [length?, found]
  · have unfit : blockComment.length? text = none := length?_eq_none starts
    rw [unfit, if_neg (starts ∘ List.isPrefixOf_iff_prefix.mp)]
    rfl

theorem rest?_pattern_word (text : List Char) :
    word.pattern.rest? text = (word.length? text).map text.drop := by
  rw [pattern, rest?_seq_of_total (rest?_many_one _)]
  cases text with
  | nil => rfl
  | cons char text =>
      by_cases starts : startsWord char <;>
        simp [rest?, rests, length?, starts, drop_length_takeWhile]

theorem rest?_pattern_number (text : List Char) :
    number.pattern.rest? text = (number.length? text).map text.drop := by
  have applies : number.length? text = numberLength? text := by
    cases text <;> rfl
  rw [pattern, rest?_seq_of_total rest?_fraction, rest?_run, applies, numberLength?]
  cases run? Char.isDigit text with
  | none => rfl
  | some whole => simp

theorem rest?_pattern_string {quote : Char} (unescaping : quote ≠ '\\') (text : List Char) :
    (string quote).pattern.rest? text = ((string quote).length? text).map text.drop := by
  rw [pattern]
  cases text with
  | nil => rfl
  | cons char rest =>
      by_cases opens : char = quote
      · have closes := findSome?_eagerRounds unescaping (Nat.le_refl rest.length)
        rw [rest?_seq_of_single rest (by simp [rests, opens]), rest?_seq]
        show List.findSome? _ (eagerRounds _ rest.length rest) = _
        rw [closes, length?, if_pos opens]
        cases stringLength? quote rest <;> simp
      · rw [rest?_seq_of_nil (by simp [rests, opens]), length?, if_neg opens]
        rfl

theorem rest?_pattern_openString (text : List Char) :
    openString.pattern.rest? text = (openString.length? text).map text.drop := by
  cases text with
  | nil => rfl
  | cons char text =>
      by_cases opens : char = '"' ∨ char = '\''
      · simp [pattern, rest?, rests, length?, opens]
      · simp [pattern, rest?, rests, length?, opens]

/-- A lexical rule takes what its pattern matches. -/
theorem rest?_pattern (known : rule ∈ all) (text : List Char) :
    rule.pattern.rest? text = (rule.length? text).map text.drop := by
  cases rule with
  | blanks => exact rest?_run Text.isBlank text
  | lineComment => exact rest?_pattern_lineComment text
  | blockComment => exact rest?_pattern_blockComment text
  | openComment =>
      rw [pattern, rest?_literal]
      by_cases starts : ['/', '*'] <+: text
      · rcases starts with ⟨rest, rfl⟩
        rfl
      · have unfit : openComment.length? text = none := length?_eq_none starts
        rw [unfit, if_neg (starts ∘ List.isPrefixOf_iff_prefix.mp)]
        rfl
  | word => exact rest?_pattern_word text
  | number => exact rest?_pattern_number text
  | string quote =>
      have isQuote : quote = '"' ∨ quote = '\'' := by simpa [all] using known
      apply rest?_pattern_string
      rcases isQuote with rfl | rfl <;> decide
  | openString => exact rest?_pattern_openString text
  | fixed lexeme kind =>
      rw [pattern, rest?_literal]
      by_cases starts : lexeme.toList <+: text
      · have applies : (fixed lexeme kind).length? text = some lexeme.toList.length :=
          length?_fixed_eq_some.mpr ⟨starts, (visible_of_fixed known).1, rfl⟩
        rw [applies, if_pos (List.isPrefixOf_iff_prefix.mpr starts)]
        rfl
      · have unfit : (fixed lexeme kind).length? text = none := length?_eq_none starts
        rw [unfit, if_neg (starts ∘ List.isPrefixOf_iff_prefix.mp)]
        rfl

theorem length?_pattern (known : rule ∈ all) (text : List Char) :
    rule.pattern.length? text = rule.length? text := by
  rw [Pattern.length?, rest?_pattern known, Option.map_map]
  cases applies : rule.length? text with
  | none => rfl
  | some count =>
      have within := le_of_length? applies
      simp only [Option.map_some, Function.comp_apply, List.length_drop, Option.some.injEq]
      omega

end Rule

end Rules

end ScriptCheck
