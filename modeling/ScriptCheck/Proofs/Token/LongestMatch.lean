import ScriptCheck.Proofs.Token.Pattern

/-!
# The first match is the longest one

The rules are tried in order, and the first one whose pattern matches wins. No other rule of the
list has a longer match there.

Two rules without a fixed text match at one place only where one of them finds fault with what the
other one would take. A fixed text comes after all fixed texts that are longer, and it begins with a
mark. The only rules without a fixed text that begin with a mark are those of the comments, which
take two characters or more, as many as the longest fixed text has.
-/

namespace ScriptCheck

namespace Rule

variable {rule other : Rule} {text : List Char} {count taken : Nat} {lexeme : String} {kind : Kind}

/-- The number of characters in a fixed text. -/
def width : Rule → Nat
  | fixed lexeme _ => lexeme.toList.length
  | _ => 0

/-- The fixed texts are tried by their lengths, the longer ones first. -/
theorem pairwise_width :
    all.Pairwise fun earlier later => earlier ∉ general → later.width ≤ earlier.width := by
  decide

theorem width_le_two : ∀ rule ∈ all, rule.width ≤ 2 := by
  decide

/-- The rules for comments, closed or not. -/
def comments : List Rule :=
  [lineComment, blockComment, openComment]

theorem eq_two_of_openComment (applies : openComment.length? text = some count) : count = 2 := by
  rcases fits_of_length? applies with ⟨rest, rfl⟩
  cases applies
  rfl

theorem eq_one_of_openString (applies : openString.length? text = some count) : count = 1 := by
  unfold length? at applies
  split at applies <;> simp_all

theorem two_le_of_comments (comment : rule ∈ comments) (applies : rule.length? text = some count) :
    2 ≤ count := by
  simp only [comments, List.mem_cons, List.not_mem_nil, or_false] at comment
  rcases comment with rfl | rfl | rfl
  · rcases fits_of_length? applies with ⟨rest, rfl⟩
    simp only [List.cons_append, List.nil_append, length?, Option.some.injEq] at applies
    omega
  · rcases length?_blockComment_eq_some.mp applies with ⟨rest, inner, -, -, rfl⟩
    exact Nat.le_add_left 2 inner
  · exact (eq_two_of_openComment applies).ge

/-- A rule without a fixed text that fits where a fixed text is found is a rule for comments. -/
theorem mem_comments_of_fits (known : rule ∈ general) (lexical : fixed lexeme kind ∈ all)
    (fits : rule.Fits text) (starts : lexeme.toList <+: text) : rule ∈ comments := by
  have marks : ∀ rule ∈ all, (match rule with
      | fixed lexeme _ => lexeme.toList.head?.all fun mark =>
          !Text.isBlank mark && !startsWord mark && !mark.isDigit && mark ≠ '"' && mark ≠ '\''
      | _ => true) = true := by decide
  have mark := marks _ lexical
  have some := (visible_of_fixed lexical).1
  rcases starts with ⟨rest, rfl⟩
  cases chars : lexeme.toList with
  | nil => exact absurd chars some
  | cons char chars' =>
      simp only [chars, List.head?_cons, Option.all_some, Bool.and_eq_true, Bool.not_eq_true',
        decide_eq_true_eq] at mark
      rcases mark with ⟨⟨⟨⟨notBlank, wordless⟩, digitless⟩, notDouble⟩, notSingle⟩
      rw [chars] at fits
      simp only [general, all, List.take, List.mem_cons, List.not_mem_nil, or_false] at known
      rcases known with rfl | rfl | rfl | rfl | rfl | rfl | rfl | rfl | rfl <;>
        simp_all [Fits, comments]

/-- Where the text of an open comment begins, a rule for comments is found. -/
theorem mem_comments_of_openComment (found : first? text = some (rule, count))
    (opens : openComment.length? text = some taken) : rule ∈ comments := by
  rcases first?_eq_some_iff.mp found with ⟨before, after, split, applies, unfit⟩
  by_cases known : rule ∈ general
  · have lexical : fixed "/" .slash ∈ all := by decide
    exact mem_comments_of_fits known lexical (fits_of_length? applies)
      ((List.prefix_append ['/'] ['*']).trans (fits_of_length? opens))
  · rcases fixed_of_not_general (by simp [split]) known with ⟨lexeme, kind, rfl⟩
    have none := length?_eq_none_of_fixed found openComment (by decide)
    rw [opens] at none
    contradiction

/-- No fixed text is longer than what the first rule takes. -/
theorem width_le_of_first? (found : first? text = some (rule, count))
    (known : fixed lexeme kind ∈ all) (applies : (fixed lexeme kind).length? text = some taken) :
    taken ≤ count := by
  rcases length?_fixed_eq_some.mp applies with ⟨starts, -, rfl⟩
  rcases first?_eq_some_iff.mp found with ⟨before, after, split, wins, unfit⟩
  by_cases plain : rule ∈ general
  · have comment := mem_comments_of_fits plain known (fits_of_length? wins) starts
    exact (width_le_two _ known).trans (two_le_of_comments comment wins)
  · have pairwise := pairwise_width
    rw [split, List.pairwise_append, List.pairwise_cons] at pairwise
    rcases fixed_of_not_general (by simp [split]) plain with ⟨winner, _, rfl⟩
    rcases length?_fixed_eq_some.mp wins with ⟨-, -, rfl⟩
    rw [split, List.mem_append, List.mem_cons] at known
    rcases known with early | same | late
    · rw [unfit _ early] at applies
      contradiction
    · rw [(fixed.inj same).1]
    · exact pairwise.2.1.1 _ late plain

/-- No rule takes more than the first one that applies. Most rules without a fixed text are found
where they apply. -/
theorem le_of_first? (found : first? text = some (rule, count)) (known : other ∈ all)
    (applies : other.length? text = some taken) : taken ≤ count := by
  have ⟨_, _, _, wins, _⟩ := first?_eq_some_iff.mp found
  by_cases plain : other ∈ general
  · by_cases faulty : other = openComment ∨ other = openString
    · rcases faulty with rfl | rfl
      · rw [eq_two_of_openComment applies]
        exact two_le_of_comments (mem_comments_of_openComment found applies) wins
      · rw [eq_one_of_openString applies]
        exact pos_of_length? wins
    · have same := first?_of_general plain (not_or.mp faulty) applies
      rw [found] at same
      cases same
      exact Nat.le_refl _
  · rcases fixed_of_not_general known plain with ⟨lexeme, kind, rfl⟩
    exact width_le_of_first? found known applies

end Rule

/-- Where some pattern matches, the first one in the list that does has the longest match of all. It
is the one whose rule is found. -/
theorem first_match_is_longest {text : List Char}
    (matched : ∃ rule ∈ Rule.all, rule.pattern.length? text ≠ none) :
    ∃ before rule after count, Rule.all = before ++ rule :: after ∧
      (∀ earlier ∈ before, earlier.pattern.length? text = none) ∧
      rule.pattern.length? text = some count ∧ Rule.first? text = some (rule, count) ∧
      ∀ other ∈ Rule.all, ∀ taken, other.pattern.length? text = some taken → taken ≤ count := by
  have found : ∃ rule count, Rule.first? text = some (rule, count) := by
    rcases matched with ⟨rule, known, matched⟩
    rw [Rule.length?_pattern known] at matched
    cases first : Rule.first? text with
    | some found => exact ⟨found.1, found.2, rfl⟩
    | none =>
        rw [Rule.first?, List.findSome?_eq_none_iff] at first
        exact absurd (Option.map_eq_none_iff.mp (first rule known)) matched
  rcases found with ⟨rule, count, found⟩
  rcases Rule.first?_eq_some_iff.mp found with ⟨before, after, split, wins, unfit⟩
  refine ⟨before, rule, after, count, split, ?_, ?_, found, ?_⟩
  · intro earlier mem
    rw [Rule.length?_pattern (by simp [split, mem])]
    exact unfit earlier mem
  · rw [Rule.length?_pattern (by simp [split])]
    exact wins
  · intro other known taken applies
    rw [Rule.length?_pattern known] at applies
    exact Rule.le_of_first? found known applies

/-- At an empty block comment in front of a sign of equality, where the rules for an open comment
and for a slash match as well. -/
theorem first_match_is_longest_at_comment :
    (∃ rule ∈ Rule.all, rule.pattern.length? "/**/=".toList ≠ none) ∧
      ∃ before rule after count, Rule.all = before ++ rule :: after ∧
        (∀ earlier ∈ before, earlier.pattern.length? "/**/=".toList = none) ∧
        rule.pattern.length? "/**/=".toList = some count ∧
        Rule.first? "/**/=".toList = some (rule, count) ∧
        ∀ other ∈ Rule.all, ∀ taken, other.pattern.length? "/**/=".toList = some taken →
          taken ≤ count := by
  have matched : ∃ rule ∈ Rule.all, rule.pattern.length? "/**/=".toList ≠ none :=
    ⟨.openComment, by decide, by decide⟩
  exact ⟨matched, first_match_is_longest matched⟩

end ScriptCheck
