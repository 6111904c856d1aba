import ScriptCheck.Proofs.Token.Tiling

/-!
# Blanks separate tokens

What a rule takes from the front of a text is settled by the characters it takes and by the one
behind them, and a blank there ends every token. So the text behind a token may be replaced in
front of a break (`first?_append`), with the same rule taking the same number of characters.

The rules are tried in order, and earlier ones must not come to apply when the text behind is
replaced. `Fits` says how the texts of a rule begin; the rules without a fixed text exclude one
another by their first characters, and those with a fixed text hold no blank.
-/

namespace ScriptCheck

/-- Nothing, or a text that starts with a blank. -/
def Breaks (text : List Char) : Prop :=
  ∀ char ∈ text.head?, Text.isBlank char = true

/-- The visible characters of ASCII are no blanks. -/
theorem Text.isBlank_of_visible {char : Char} (above : 0x20 < char.toNat)
    (below : char.toNat < 0x80) : isBlank char = false := by
  simp only [isBlank, Bool.or_eq_false_iff, Bool.and_eq_false_iff, decide_eq_false_iff_not,
    beq_eq_false_iff_ne]
  omega

theorem takeWhile_append_of_break {property : Char → Bool} {front behind rest : List Char}
    (within : ((front ++ behind).takeWhile property).length ≤ front.length)
    (stops : ∀ char ∈ rest.head?, property char = false) :
    (front ++ rest).takeWhile property = (front ++ behind).takeWhile property := by
  induction front with
  | nil =>
      have none : behind.takeWhile property = [] :=
        List.eq_nil_of_length_eq_zero (by simpa using within)
      cases rest with
      | nil => simpa using none.symm
      | cons char rest => simpa [none] using stops char
  | cons char front ih =>
      rw [List.cons_append, List.cons_append, List.takeWhile_cons, List.takeWhile_cons]
      split
      · rename_i holds
        rw [ih]
        simpa [holds] using within
      · rfl

namespace Rule

variable {rule : Rule} {text front behind rest mark : List Char} {char quote : Char} {count : Nat}

/-! ### Kinds of characters -/

theorem toNat_of_isDigit (digit : char.isDigit = true) :
    0x30 ≤ char.toNat ∧ char.toNat ≤ 0x39 := by
  simp only [Char.isDigit, Bool.and_eq_true, decide_eq_true_eq] at digit
  exact digit

theorem toNat_of_startsWord (starts : startsWord char = true) :
    0x41 ≤ char.toNat ∧ char.toNat ≤ 0x7A := by
  have ranges : (decide ('A'.val ≤ char.val ∧ char.val ≤ 'Z'.val) ||
      (decide ('a'.val ≤ char.val) && decide (char.val ≤ 'z'.val)) || char == '_') = true := starts
  simp only [Bool.or_eq_true, Bool.and_eq_true, decide_eq_true_eq, beq_iff_eq] at ranges
  rcases ranges with (⟨low, high⟩ | ⟨low, high⟩) | rfl
  · have low : 0x41 ≤ char.toNat := low
    have high : char.toNat ≤ 0x5A := high
    omega
  · have low : 0x61 ≤ char.toNat := low
    have high : char.toNat ≤ 0x7A := high
    omega
  · decide

theorem continuesWord_iff :
    continuesWord char = true ↔ startsWord char = true ∨ char.isDigit = true := by
  simp only [continuesWord, startsWord, Char.isAlphanum, Bool.or_eq_true]
  exact or_right_comm

theorem continuesWord_of_isBlank (blank : Text.isBlank char = true) :
    continuesWord char = false := by
  by_contra continues
  rw [Bool.not_eq_false, continuesWord_iff] at continues
  have visible : 0x20 < char.toNat ∧ char.toNat < 0x80 := by
    rcases continues with starts | digit
    · have := toNat_of_startsWord starts
      omega
    · have := toNat_of_isDigit digit
      omega
  rw [Text.isBlank_of_visible visible.1 visible.2] at blank
  contradiction

theorem isDigit_of_isBlank (blank : Text.isBlank char = true) : char.isDigit = false := by
  by_contra digit
  have continues := continuesWord_iff.mpr (.inr (Bool.not_eq_false _ ▸ digit))
  rw [continuesWord_of_isBlank blank] at continues
  contradiction

theorem run?_cons (property : Char → Bool) (char : Char) (text : List Char) :
    run? property (char :: text) =
      if property char then some ((text.takeWhile property).length + 1) else none := by
  unfold run? positive?
  rw [List.takeWhile_cons]
  split <;> simp

theorem length?_number_cons (char : Char) (text : List Char) :
    number.length? (char :: text) =
      if char.isDigit then numberLength? (char :: text) else none := by
  rw [length?, numberLength?, run?_cons]
  split <;> simp

/-- A rule applies only to texts that begin like this. -/
def Fits (rule : Rule) (text : List Char) : Prop :=
  match rule with
  | blanks => ∃ char ∈ text.head?, Text.isBlank char = true
  | lineComment => ['/', '/'] <+: text
  | blockComment | openComment => ['/', '*'] <+: text
  | word => ∃ char ∈ text.head?, startsWord char = true
  | number => ∃ char ∈ text.head?, char.isDigit = true
  | string quote => quote ∈ text.head?
  | openString => '"' ∈ text.head? ∨ '\'' ∈ text.head?
  | fixed lexeme _ => lexeme.toList <+: text

theorem fits_of_length? (applies : rule.length? text = some count) : rule.Fits text := by
  cases rule with
  | blanks =>
      cases text with
      | nil => contradiction
      | cons char text =>
          rw [length?, run?_cons] at applies
          split at applies
          · rename_i blank
            exact ⟨char, rfl, blank⟩
          · contradiction
  | number =>
      cases text with
      | nil => contradiction
      | cons char text =>
          rw [length?_number_cons] at applies
          split at applies
          · rename_i digit
            exact ⟨char, rfl, digit⟩
          · contradiction
  | fixed lexeme kind =>
      rw [length?] at applies
      split at applies
      · rename_i starts
        exact List.isPrefixOf_iff_prefix.mp starts
      · contradiction
  | _ =>
      unfold length? at applies
      split at applies <;> simp_all [Fits, List.cons_prefix_cons]

theorem first?_eq_some_iff : first? text = some (rule, count) ↔
    ∃ before after, all = before ++ rule :: after ∧ rule.length? text = some count ∧
      ∀ earlier ∈ before, earlier.length? text = none := by
  rw [first?, List.findSome?_eq_some_iff]
  constructor
  · rintro ⟨before, other, after, split, applies, unfit⟩
    obtain ⟨taken, found, same⟩ := Option.map_eq_some_iff.mp applies
    obtain ⟨rfl, rfl⟩ := Prod.mk.inj same
    exact ⟨before, after, split, found, fun earlier mem =>
      Option.map_eq_none_iff.mp (unfit earlier mem)⟩
  · rintro ⟨before, after, split, applies, unfit⟩
    refine ⟨before, rule, after, split, by rw [applies]; rfl, ?_⟩
    intro earlier mem
    rw [unfit earlier mem]
    rfl

theorem first?_of_split (before after : List Rule) (split : all = before ++ rule :: after)
    (applies : rule.length? text = some count) (unfit : ∀ earlier ∈ before, ¬earlier.Fits text) :
    first? text = some (rule, count) := by
  refine first?_eq_some_iff.mpr ⟨before, after, split, applies, ?_⟩
  intro earlier mem
  rw [Option.eq_none_iff_forall_ne_some]
  intro taken applies
  exact unfit earlier mem (fits_of_length? applies)

/-- The rules without a fixed text, which come before the others. -/
def general : List Rule :=
  all.take 9

theorem fixed_of_not_general (known : rule ∈ all) (plain : rule ∉ general) :
    ∃ lexeme kind, rule = fixed lexeme kind := by
  cases rule with
  | fixed lexeme kind => exact ⟨lexeme, kind, rfl⟩
  | string quote => simp_all [all, general]
  | _ => simp [all, general] at plain

/-- No two of the rules without a fixed text fit one text, but for those that find fault where
another one does not apply. -/
theorem first?_of_general (known : rule ∈ general) (sound : rule ≠ openComment ∧ rule ≠ openString)
    (applies : rule.length? text = some count) : first? text = some (rule, count) := by
  have fits := fits_of_length? applies
  simp only [general, all, List.take, List.mem_cons, List.not_mem_nil, or_false] at known
  cases text with
  | nil =>
      rcases known with rfl | rfl | rfl | rfl | rfl | rfl | rfl | rfl | rfl <;> simp [Fits] at fits
  | cons char text =>
      -- The rules in their order. Of those in front of each, none starts with its first character.
      rcases known with rfl | rfl | rfl | rfl | rfl | rfl | rfl | rfl | rfl
      · exact first?_of_split [] _ rfl applies (by simp)
      · obtain ⟨rfl, -⟩ := List.cons_prefix_cons.mp fits
        refine first?_of_split [blanks] _ rfl applies ?_
        simp [Fits, Text.isBlank]
      · obtain ⟨rfl, text, rfl⟩ := List.cons_prefix_cons.mp fits
        refine first?_of_split [blanks, lineComment] _ rfl applies ?_
        simp [Fits, Text.isBlank]
      · exact absurd rfl sound.1
      · have starts : startsWord char = true := by simpa [Fits] using fits
        have code := toNat_of_startsWord starts
        have visible : Text.isBlank char = false := Text.isBlank_of_visible (by omega) (by omega)
        have unlike : '/' ≠ char := by
          rintro rfl
          contradiction
        refine first?_of_split [blanks, lineComment, blockComment, openComment] _ rfl applies ?_
        simp [Fits, List.cons_prefix_cons, visible, unlike]
      · have digit : char.isDigit = true := by simpa [Fits] using fits
        have code := toNat_of_isDigit digit
        have visible : Text.isBlank char = false := Text.isBlank_of_visible (by omega) (by omega)
        have unlike : '/' ≠ char := by
          rintro rfl
          contradiction
        have wordless : startsWord char = false := by
          by_contra starts
          have := toNat_of_startsWord (Bool.not_eq_false _ ▸ starts)
          omega
        refine first?_of_split [blanks, lineComment, blockComment, openComment, word] _ rfl
          applies ?_
        simp [Fits, List.cons_prefix_cons, visible, unlike, wordless]
      · obtain rfl : '"' = char := by simpa [Fits, eq_comm] using fits
        have wordless : startsWord '"' = false := rfl
        have digitless : '"'.isDigit = false := rfl
        refine first?_of_split [blanks, lineComment, blockComment, openComment, word, number] _ rfl
          applies ?_
        simp [Fits, Text.isBlank, wordless, digitless]
      · obtain rfl : '\'' = char := by simpa [Fits, eq_comm] using fits
        have wordless : startsWord '\'' = false := rfl
        have digitless : '\''.isDigit = false := rfl
        refine first?_of_split
          [blanks, lineComment, blockComment, openComment, word, number, string '"'] _ rfl
          applies ?_
        simp [Fits, Text.isBlank, wordless, digitless]
      · exact absurd rfl sound.2

/-- Where a fixed text is found, none of the other rules applies. -/
theorem length?_eq_none_of_fixed {lexeme : String} {kind : Kind}
    (found : first? text = some (fixed lexeme kind, count)) :
    ∀ other ∈ general, other.length? text = none := by
  obtain ⟨before, after, split, -, unfit⟩ := first?_eq_some_iff.mp found
  intro other mem
  rcases List.append_eq_append_iff.mp ((List.take_append_drop 9 all).trans split) with
    ⟨more, rfl, -⟩ | ⟨more, early, late⟩
  · exact unfit other (List.mem_append_left _ mem)
  · cases more with
    | nil =>
        rw [List.append_nil] at early
        exact unfit other (early ▸ mem)
    | cons first more =>
        -- No rule with a fixed text is among the first nine.
        obtain ⟨rfl, -⟩ := List.cons.inj late
        have early : fixed lexeme kind ∈ all.take 9 := by simp [early]
        simp [all] at early

/-- Nor does the text begin as one of theirs: such a text is a token of them or a fault. -/
theorem not_fits_of_fixed {lexeme : String} {kind : Kind}
    (found : first? text = some (fixed lexeme kind, count)) {other : Rule}
    (known : other ∈ general) : ¬other.Fits text := by
  intro fits
  have unfit := length?_eq_none_of_fixed found
  simp only [general, all, List.take, List.forall_mem_cons] at unfit
  obtain ⟨notBlank, noComment, -, noMark, noWord, noNumber, -, -, noQuote, -⟩ := unfit
  cases text with
  | nil => simp [first?_nil] at found
  | cons char text =>
      simp only [general, all, List.take, List.mem_cons, List.not_mem_nil, or_false] at known
      rcases known with rfl | rfl | rfl | rfl | rfl | rfl | rfl | rfl | rfl
      · simp [Fits] at fits
        simp [length?, run?_cons, fits] at notBlank
      · obtain ⟨rest, begins⟩ := fits
        rw [← begins] at noComment
        contradiction
      · obtain ⟨rest, begins⟩ := fits
        rw [← begins] at noMark
        contradiction
      · obtain ⟨rest, begins⟩ := fits
        rw [← begins] at noMark
        contradiction
      · simp [Fits] at fits
        simp [length?, fits] at noWord
      · simp [Fits] at fits
        simp [length?, numberLength?, run?_cons, fits] at noNumber
      · simp [Fits] at fits
        simp [length?, fits] at noQuote
      · simp [Fits] at fits
        simp [length?, fits] at noQuote
      · simp [Fits] at fits
        simp [length?] at noQuote
        grind

/-! ### What is behind the characters that a rule takes -/

theorem pos_of_commentLength? (found : commentLength? text = some count) : 0 < count := by
  unfold commentLength? at found
  split at found
  · contradiction
  · cases found
    exact Nat.two_pos
  · obtain ⟨inner, -, rfl⟩ := Option.map_eq_some_iff.mp found
    exact Nat.succ_pos inner

theorem commentLength?_take (found : commentLength? text = some count) (rest : List Char) :
    commentLength? (text.take count ++ rest) = some count := by
  induction text using commentLength?.induct generalizing count with
  | case1 => contradiction
  | case2 text =>
      cases found
      rfl
  | case3 char text unmarked ih =>
      rw [commentLength?] at found
      · obtain ⟨inner, foundInner, rfl⟩ := Option.map_eq_some_iff.mp found
        rw [List.take_succ_cons, List.cons_append, commentLength?, ih foundInner]
        · rfl
        · intro others isStar closes
          cases text with
          | nil => contradiction
          | cons next text =>
              obtain ⟨inner, rfl⟩ := Nat.exists_eq_add_one.mpr (pos_of_commentLength? foundInner)
              rw [List.take_succ_cons, List.cons_append, List.cons.injEq] at closes
              exact unmarked text isStar (by rw [closes.1])
      · exact unmarked

theorem stringLength?_cons (plain : char ≠ '\\') : stringLength? quote (char :: text) =
    if char = quote then some 1 else (stringLength? quote text).map (· + 1) := by
  rw [stringLength?]
  · exact fun isEscape _ => plain isEscape
  · exact fun _ _ isEscape _ => plain isEscape

theorem stringLength?_take (found : stringLength? quote text = some count) (rest : List Char) :
    stringLength? quote (text.take count ++ rest) = some count := by
  have plain {char : Char} {text : List Char} (notLast : char = '\\' → text = [] → False)
      (unescaped : ∀ escaped rest, char = '\\' → text = escaped :: rest → False) :
      char ≠ '\\' := by
    intro isEscape
    cases text with
    | nil => exact notLast isEscape rfl
    | cons escaped rest => exact unescaped escaped rest isEscape rfl
  induction text using stringLength?.induct quote generalizing count with
  | case1 => contradiction
  | case2 => contradiction
  | case3 escaped text ih =>
      rw [stringLength?] at found
      obtain ⟨more, foundMore, rfl⟩ := Option.map_eq_some_iff.mp found
      rw [List.take_succ_cons, List.take_succ_cons, List.cons_append, List.cons_append,
        stringLength?, ih foundMore]
      rfl
  | case4 text notLast unescaped =>
      rw [stringLength?_cons (plain notLast unescaped), if_pos rfl, Option.some.injEq] at found
      rw [← found, List.take_succ_cons, List.cons_append,
        stringLength?_cons (plain notLast unescaped), if_pos rfl]
  | case5 char text notLast unescaped other ih =>
      rw [stringLength?_cons (plain notLast unescaped), if_neg other] at found
      obtain ⟨more, foundMore, rfl⟩ := Option.map_eq_some_iff.mp found
      rw [List.take_succ_cons, List.cons_append, stringLength?_cons (plain notLast unescaped),
        if_neg other, ih foundMore]
      rfl

theorem run?_append {property : Char → Bool}
    (within : ((front ++ behind).takeWhile property).length ≤ front.length)
    (stops : ∀ char ∈ rest.head?, property char = false) :
    run? property (front ++ rest) = run? property (front ++ behind) := by
  rw [run?, run?, takeWhile_append_of_break within stops]

theorem length_takeWhile_of_run? {property : Char → Bool}
    (found : run? property text = some count) : (text.takeWhile property).length = count := by
  unfold run? positive? at found
  split at found
  · contradiction
  · exact Option.some.inj found

/-- A fraction is read up to a break. -/
theorem fractionLength_append (within : fractionLength (front ++ behind) ≤ front.length)
    (breaks : Breaks rest) : fractionLength (front ++ rest) = fractionLength (front ++ behind) := by
  have pointless (char : Char) (text : List Char) (unlike : char ≠ '.') :
      fractionLength (char :: text) = 0 := by
    rw [fractionLength]
    exact fun _ isPoint => unlike (List.cons.inj isPoint).1
  cases front with
  | nil =>
      have none : fractionLength behind = 0 := by simpa using within
      rw [List.nil_append, List.nil_append, none]
      cases rest with
      | nil => rfl
      | cons char rest =>
          apply pointless
          rintro rfl
          have blank := breaks '.' rfl
          contradiction
  | cons char front =>
      rw [List.cons_append, List.cons_append] at *
      by_cases isPoint : char = '.'
      · subst isPoint
        have stops : ∀ char ∈ rest.head?, char.isDigit = false :=
          fun char first => isDigit_of_isBlank (breaks char first)
        rw [fractionLength, fractionLength, run?_append _ stops]
        cases found : run? Char.isDigit (front ++ behind) with
        | none =>
            unfold run? positive? at found
            split at found
            · omega
            · contradiction
        | some digits =>
            rw [fractionLength, found] at within
            rw [length_takeWhile_of_run? found]
            exact Nat.le_of_succ_le_succ within
      · rw [pointless _ _ isPoint, pointless _ _ isPoint]

theorem numberLength?_append (applies : numberLength? (front ++ behind) = some count)
    (within : count ≤ front.length) (breaks : Breaks rest) :
    numberLength? (front ++ rest) = some count := by
  obtain ⟨whole, foundWhole, rfl⟩ := Option.map_eq_some_iff.mp applies
  have wholeWithin : whole ≤ front.length := by omega
  rw [List.drop_append_of_le_length wholeWithin] at within ⊢
  rw [numberLength?, run?_append, foundWhole, Option.map_some,
    List.drop_append_of_le_length wholeWithin, fractionLength_append _ breaks]
  · rw [List.length_drop]
    omega
  · rw [length_takeWhile_of_run? foundWhole]
    exact wholeWithin
  · exact fun char first => isDigit_of_isBlank (breaks char first)

/-- A mark that holds no blank and begins in front of a break does not reach past it. -/
theorem prefix_of_prefix_append (visible : ∀ char ∈ mark, Text.isBlank char = false)
    (breaks : Breaks rest) (starts : mark <+: front ++ rest) : mark <+: front := by
  induction front generalizing mark with
  | nil =>
      cases mark with
      | nil => exact List.nil_prefix
      | cons char mark =>
          obtain ⟨more, rfl⟩ := starts
          have blank := breaks char rfl
          rw [visible char List.mem_cons_self] at blank
          contradiction
  | cons first front ih =>
      cases mark with
      | nil => exact List.nil_prefix
      | cons char mark =>
          rw [List.cons_append, List.cons_prefix_cons] at starts
          rw [List.cons_prefix_cons]
          rw [List.forall_mem_cons] at visible
          exact ⟨starts.1, ih visible.2 starts.2⟩

theorem visible_of_fixed {lexeme : String} {kind : Kind} (known : fixed lexeme kind ∈ all) :
    lexeme.toList ≠ [] ∧ ∀ char ∈ lexeme.toList, Text.isBlank char = false := by
  have visible : ∀ rule ∈ all, (match rule with
      | fixed lexeme _ => !lexeme.toList.isEmpty && lexeme.toList.all (!Text.isBlank ·)
      | _ => true) = true := by decide
  simpa using visible _ known

/-- How a text begins is settled in front of a break. -/
theorem Fits.of_append (known : rule ∈ all) (some : front ≠ []) (breaks : Breaks rest)
    (fits : rule.Fits (front ++ rest)) : rule.Fits front := by
  have head : (front ++ rest).head? = front.head? := by
    cases front with
    | nil => contradiction
    | cons char front => rfl
  cases rule with
  | blanks | word | number | string _ | openString => simpa only [Fits, head] using fits
  | lineComment | blockComment | openComment =>
      exact prefix_of_prefix_append (by simp [Text.isBlank]) breaks fits
  | fixed lexeme kind => exact prefix_of_prefix_append (visible_of_fixed known).2 breaks fits

theorem Fits.append (fits : rule.Fits front) (behind : List Char) :
    rule.Fits (front ++ behind) := by
  cases rule with
  | blanks | word | number | string _ | openString =>
      cases front with
      | nil => simp [Fits] at fits
      | cons char front => exact fits
  | lineComment | blockComment | openComment | fixed _ _ =>
      exact fits.trans (List.prefix_append _ _)

theorem length?_blockComment_eq_some : blockComment.length? text = some count ↔
    ∃ rest inner, text = '/' :: '*' :: rest ∧ commentLength? rest = some inner ∧
      count = inner + 2 := by
  constructor
  · intro applies
    unfold length? at applies
    split at applies <;> simp_all
    grind
  · rintro ⟨rest, inner, rfl, found, rfl⟩
    rw [length?, found]
    rfl

theorem length?_string_eq_some : (string quote).length? text = some count ↔
    ∃ rest inner, text = quote :: rest ∧ stringLength? quote rest = some inner ∧
      count = inner + 1 := by
  constructor
  · intro applies
    unfold length? at applies
    split at applies <;> simp_all
    grind
  · rintro ⟨rest, inner, rfl, found, rfl⟩
    rw [length?, if_pos rfl, found]
    rfl

theorem length?_fixed_eq_some {lexeme : String} {kind : Kind} :
    (fixed lexeme kind).length? text = some count ↔
      lexeme.toList <+: text ∧ lexeme.toList ≠ [] ∧ count = lexeme.toList.length := by
  simp only [length?, positive?, List.isPrefixOf_iff_prefix]
  split <;> grind

theorem length?_append (known : rule ∈ general)
    (proper : rule ∉ [blanks, lineComment, openComment, openString])
    (applies : rule.length? (front ++ behind) = some count) (within : count ≤ front.length)
    (breaks : Breaks rest) : rule.length? (front ++ rest) = some count := by
  have taken : (front ++ behind).take count = front.take count := by
    rw [List.take_append_of_le_length within]
  have split : front ++ rest = front.take count ++ (front.drop count ++ rest) := by
    rw [← List.append_assoc, List.take_append_drop]
  have wordEnds : ∀ char ∈ rest.head?, continuesWord char = false :=
    fun char first => continuesWord_of_isBlank (breaks char first)
  simp only [general, all, List.take, List.mem_cons, List.not_mem_nil, or_false] at known
  rcases known with rfl | rfl | rfl | rfl | rfl | rfl | rfl | rfl | rfl
  · simp at proper
  · simp at proper
  · obtain ⟨text, inner, begins, found, rfl⟩ := length?_blockComment_eq_some.mp applies
    rw [split, ← taken, begins]
    exact length?_blockComment_eq_some.mpr ⟨_, inner, rfl, commentLength?_take found _, rfl⟩
  · simp at proper
  · cases front with
    | nil =>
        have taken := pos_of_length? applies
        simp at within
        omega
    | cons char front =>
        rw [List.cons_append, length?] at applies ⊢
        split at applies
        · rename_i starts
          cases applies
          rw [if_pos starts, takeWhile_append_of_break (Nat.le_of_succ_le_succ within) wordEnds]
        · contradiction
  · exact numberLength?_append applies within breaks
  · obtain ⟨text, inner, begins, found, rfl⟩ := length?_string_eq_some.mp applies
    rw [split, ← taken, begins]
    exact length?_string_eq_some.mpr ⟨_, inner, rfl, stringLength?_take found _, rfl⟩
  · obtain ⟨text, inner, begins, found, rfl⟩ := length?_string_eq_some.mp applies
    rw [split, ← taken, begins]
    exact length?_string_eq_some.mpr ⟨_, inner, rfl, stringLength?_take found _, rfl⟩
  · simp at proper

/-- What comes behind the characters that a rule takes may be replaced in front of a break. -/
theorem first?_append (found : first? (front ++ behind) = some (rule, count))
    (within : count ≤ front.length) (breaks : Breaks rest)
    (proper : rule ∉ [blanks, lineComment, openComment, openString]) :
    first? (front ++ rest) = some (rule, count) := by
  obtain ⟨before, after, split, applies, unfit⟩ := first?_eq_some_iff.mp found
  by_cases known : rule ∈ general
  · apply first?_of_general known _ (length?_append known proper applies within breaks)
    simp_all
  · obtain ⟨lexeme, kind, rfl⟩ := fixed_of_not_general (by simp [split]) known
    obtain ⟨starts, some, rfl⟩ := length?_fixed_eq_some.mp applies
    have early : lexeme.toList <+: front :=
      List.prefix_of_prefix_length_le starts (List.prefix_append _ _) within
    refine first?_of_split before after split ?_ ?_
    · exact length?_fixed_eq_some.mpr ⟨early.trans (List.prefix_append _ _), some, rfl⟩
    · intro earlier mem fits
      have knownEarlier : earlier ∈ all := by simp [split, mem]
      have someFront : front ≠ [] := by
        rintro rfl
        exact some (List.prefix_nil.mp early)
      have fitsBefore := (fits.of_append knownEarlier someFront breaks).append behind
      by_cases knownGeneral : earlier ∈ general
      · exact not_fits_of_fixed found knownGeneral fitsBefore
      · obtain ⟨lexeme, kind, rfl⟩ := fixed_of_not_general knownEarlier knownGeneral
        have applies : (fixed lexeme kind).length? (front ++ behind) = _ :=
          length?_fixed_eq_some.mpr ⟨fitsBefore, (visible_of_fixed knownEarlier).1, rfl⟩
        rw [unfit _ mem] at applies
        contradiction

/-! ### No rule takes more than there is -/

theorem le_of_run? {property : Char → Bool} (found : run? property text = some count) :
    count ≤ text.length := by
  rw [← length_takeWhile_of_run? found]
  exact (List.takeWhile_prefix property).length_le

theorem le_of_commentLength? (found : commentLength? text = some count) : count ≤ text.length := by
  induction text using commentLength?.induct generalizing count with
  | case1 => contradiction
  | case2 text =>
      cases found
      simp
  | case3 char text unmarked ih =>
      rw [commentLength?] at found
      · obtain ⟨inner, foundInner, rfl⟩ := Option.map_eq_some_iff.mp found
        exact Nat.succ_le_succ (ih foundInner)
      · exact unmarked

theorem le_of_stringLength? (found : stringLength? quote text = some count) :
    count ≤ text.length := by
  induction text using stringLength?.induct quote generalizing count with
  | case1 => contradiction
  | case2 => contradiction
  | case3 escaped text ih =>
      obtain ⟨inner, foundInner, rfl⟩ := Option.map_eq_some_iff.mp found
      exact Nat.succ_le_succ (Nat.succ_le_succ (ih foundInner))
  | case4 text notLast unescaped =>
      rw [stringLength?, if_pos rfl, Option.some.injEq] at found
      · simp [← found]
      · exact notLast
      · exact unescaped
  | case5 char text notLast unescaped other ih =>
      rw [stringLength?, if_neg other] at found
      · obtain ⟨inner, foundInner, rfl⟩ := Option.map_eq_some_iff.mp found
        exact Nat.succ_le_succ (ih foundInner)
      · exact notLast
      · exact unescaped

theorem fractionLength_le (text : List Char) : fractionLength text ≤ text.length := by
  unfold fractionLength
  split
  · rename_i rest
    cases found : run? Char.isDigit rest with
    | none => exact Nat.zero_le _
    | some digits => exact Nat.succ_le_succ (le_of_run? found)
  · exact Nat.zero_le _

theorem le_of_length? (applies : rule.length? text = some count) : count ≤ text.length := by
  unfold length? at applies
  split at applies
  · exact le_of_run? applies
  · rename_i rest
    cases applies
    have := (List.takeWhile_prefix (l := rest) (· ≠ '\n')).length_le
    simp only [List.length_cons]
    omega
  · obtain ⟨inner, found, rfl⟩ := Option.map_eq_some_iff.mp applies
    exact Nat.succ_le_succ (Nat.succ_le_succ (le_of_commentLength? found))
  · cases applies
    simp
  · rename_i char rest
    split at applies <;> cases applies
    exact Nat.succ_le_succ (List.takeWhile_prefix continuesWord).length_le
  · obtain ⟨whole, found, rfl⟩ := Option.map_eq_some_iff.mp applies
    have := le_of_run? found
    have := fractionLength_le (text.drop whole)
    rw [List.length_drop] at this
    omega
  · split at applies
    · obtain ⟨inner, found, rfl⟩ := Option.map_eq_some_iff.mp applies
      exact Nat.succ_le_succ (le_of_stringLength? found)
    · contradiction
  · split at applies <;> cases applies
    simp
  · split at applies
    · rename_i starts
      unfold positive? at applies
      split at applies <;> cases applies
      exact (List.isPrefixOf_iff_prefix.mp starts).length_le
    · contradiction
  · contradiction

end Rule

end ScriptCheck
