import Mathlib.Data.List.DropRight
import ScriptCheck.Diagnostic.Excerpt
import ScriptCheck.Proofs.Position

/-!
# The caret points at the error

A diagnostic is rendered with the line of the source that its position is in, and a caret below it.
The number of that line comes from counting newlines, while the line itself is found by taking the
text apart at its line endings. Both agree about every place of a text, the one behind its last
character included (`line_of_place`).

The line is shown without its indentation, behind a gutter with its number. The caret is moved as
far to the left as there are characters of indentation, and to the right by the width of the gutter,
so it stands below the character that the position belongs to.
-/

namespace ScriptCheck

namespace Text

variable {char : Char} {text rest before after : List Char}

/-- A line without the carriage return that belongs to its ending. -/
def dropReturn (text : List Char) : List Char :=
  if text.getLast? = some '\r' then text.dropLast else text

/-- What a line has in front of a place, given the text in front of that place. -/
def leftOf (before : List Char) : List Char :=
  before.rtakeWhile (· ≠ '\n')

/-- The line around a place, given the texts on both sides, without its ending. -/
def lineAround (before after : List Char) : List Char :=
  if '\n' ∈ after then dropReturn (leftOf before ++ after.takeWhile (· ≠ '\n'))
  else leftOf before ++ after

/-- The text from a byte of its UTF-8 form on, if a character begins at this byte. -/
def fromByte? : Nat → List Char → Option (List Char)
  | 0, text => some text
  | _ + 1, [] => none
  | offset + 1, char :: text =>
    if char.utf8Size ≤ offset + 1 then fromByte? (offset + 1 - char.utf8Size) text else none

/-! ### The lines of a text -/

theorem isPrefix_dropReturn (text : List Char) : dropReturn text <+: text := by
  unfold dropReturn
  split
  · exact List.dropLast_prefix text
  · exact List.prefix_refl text

theorem dropReturn_cons (char : Char) (some : text ≠ []) :
    dropReturn (char :: text) = char :: dropReturn text := by
  rcases List.exists_cons_of_ne_nil some with ⟨next, text, rfl⟩
  rw [dropReturn, dropReturn, List.getLast?_cons_cons, List.dropLast_cons_cons]
  split <;> rfl

/-- A character that ends no line joins the line behind it. -/
theorem lines_cons_of_lines {others : List (List Char)} (inside : char ≠ '\n')
    (alone : char = '\r' → rest.head? ≠ some '\n') (next : lines rest = text :: others) :
    lines (char :: rest) = (char :: text) :: others := by
  rw [lines.eq_4 char rest inside, next]
  intro others isReturn newline
  exact alone isReturn (by rw [newline]; rfl)

theorem lines_append_newline (free : '\n' ∉ text) (rest : List Char) :
    lines (text ++ '\n' :: rest) = dropReturn text :: lines rest := by
  induction text with
  | nil => rfl
  | cons char text ih =>
      rcases not_or.mp (List.mem_cons.not.mp free) with ⟨inside, free⟩
      by_cases ending : char = '\r' ∧ text = []
      · rcases ending with ⟨rfl, rfl⟩
        rfl
      · have own : dropReturn (char :: text) = char :: dropReturn text := by
          by_cases last : text = []
          · subst last
            have other : char ≠ '\r' := fun isReturn => ending ⟨isReturn, rfl⟩
            simp [dropReturn, other]
          · exact dropReturn_cons char last
        rw [own]
        refine lines_cons_of_lines (Ne.symm inside) ?_ (ih free)
        intro isReturn newline
        cases text with
        | nil => exact ending ⟨isReturn, rfl⟩
        | cons next text => simp_all

theorem lines_of_free (free : '\n' ∉ text) (some : text ≠ []) : lines text = [text] := by
  induction text with
  | nil => contradiction
  | cons char text ih =>
      rcases not_or.mp (List.mem_cons.not.mp free) with ⟨inside, free⟩
      cases text with
      | nil => rw [lines.eq_4 char [] (Ne.symm inside) (by simp), lines]
      | cons next text =>
          refine lines_cons_of_lines (Ne.symm inside) ?_ (ih free (List.cons_ne_nil _ _))
          intro _ newline
          simp_all

/-! ### The line around a place -/

theorem leftOf_of_free (free : '\n' ∉ before) : leftOf before = before := by
  rw [leftOf, List.rtakeWhile_eq_self_iff]
  rintro char mem
  simpa using ne_of_mem_of_not_mem mem free

theorem leftOf_append_newline (text before : List Char) :
    leftOf (text ++ '\n' :: before) = leftOf before := by
  induction before using List.reverseRecOn with
  | nil => simp [leftOf]
  | append_singleton before char ih =>
      rw [leftOf, leftOf] at ih ⊢
      rw [← List.cons_append, ← List.append_assoc, List.rtakeWhile_concat, List.rtakeWhile_concat,
        ih]

theorem length_leftOf (before : List Char) :
    (leftOf before).length = (before.reverse.takeWhile (· ≠ '\n')).length := by
  rw [leftOf, List.rtakeWhile, List.length_reverse]

/-- The line with the number that counting newlines gives is the line around the place. -/
theorem line_of_place (before after : List Char) :
    line (before ++ after) (before.count '\n' + 1) = lineAround before after := by
  induction counted : before.count '\n' generalizing before with
  | zero =>
      have free : '\n' ∉ before := List.count_eq_zero.mp counted
      rw [lineAround, leftOf_of_free free]
      by_cases ended : '\n' ∈ after
      · rcases List.eq_append_cons_of_mem ended with ⟨rest, more, rfl, freeRest⟩
        have stop : (rest ++ '\n' :: more).takeWhile (· ≠ '\n') = rest := by
          rw [List.takeWhile_append_of_pos] <;> simp
          exact fun char mem => ne_of_mem_of_not_mem mem freeRest
        rw [if_pos ended, line, ← List.append_assoc,
          lines_append_newline (by simp [free, freeRest]), stop]
        rfl
      · rw [if_neg ended, line]
        by_cases empty : before ++ after = []
        · rw [empty, lines]
          rfl
        · rw [lines_of_free (by simp [free, ended]) empty]
          rfl
  | succ newlines ih =>
      have ended : '\n' ∈ before := List.count_pos_iff.mp (by omega)
      rcases List.eq_append_cons_of_mem ended with ⟨first, more, rfl, free⟩
      have fewer : more.count '\n' = newlines := by
        rw [List.count_append, List.count_eq_zero.mpr free, List.count_cons_self] at counted
        omega
      rw [lineAround, leftOf_append_newline, ← lineAround, ← ih more fewer, List.append_assoc,
        List.cons_append, line, line, lines_append_newline free]
      rfl

theorem isPrefix_lineAround (before after : List Char) :
    lineAround before after <+: leftOf before ++ after := by
  rw [lineAround]
  split
  · exact (isPrefix_dropReturn _).trans
      ((List.prefix_append_right_inj _).mpr (List.takeWhile_prefix _))
  · exact List.prefix_refl _

theorem newline_not_mem_lineAround (before after : List Char) : '\n' ∉ lineAround before after := by
  have left : '\n' ∉ leftOf before := fun mem => by simpa using List.mem_rtakeWhile_imp mem
  have right : '\n' ∉ after.takeWhile (· ≠ '\n') := fun mem => by
    simpa using List.mem_takeWhile_imp mem
  rw [lineAround]
  split
  · intro mem
    have whole := (isPrefix_dropReturn _).subset mem
    simp_all
  · simp_all

end Text

namespace Diagnostic

open Text

/-- The characters of an indentation are as many as its bytes. -/
theorem fromByte?_indentation (text : List Char) :
    fromByte? (text.takeWhile indents).length text = some (text.dropWhile indents) := by
  induction text with
  | nil => rfl
  | cons char text ih =>
      by_cases blank : indents char
      · have single : char.utf8Size = 1 := by
          simp only [indents, Bool.or_eq_true, decide_eq_true_eq] at blank
          rcases blank with rfl | rfl <;> rfl
        simpa [fromByte?, blank, single] using ih
      · simp [fromByte?, blank]

/-- The blanks that are taken from the front of the line around a place. -/
def indentation (before after : List Char) : List Char :=
  (lineAround before after).takeWhile indents

/-- What is shown of the line around a place. -/
def quoted (before after : List Char) : List Char :=
  trimRight ((lineAround before after).dropWhile indents)

/-- The gutter of the line that is shown. -/
def gutter (position : Position) : List Char :=
  (toString position.line).toList ++ [' ', '|', ' ']

/-- The last line of a rendered diagnostic, with a number of dashes in front of the caret. -/
def caretLine (position : Position) (dashes : Nat) : List Char :=
  alignRight ((toString position.line).toList.length + 2) ['|'] ++
    ' ' :: (List.replicate dashes '-' ++ ['^'])

variable {position : Position} {dashes : Nat} {before after : List Char}

theorem newline_not_mem_gutter : '\n' ∉ gutter position := by
  have digits : '\n' ∉ (toString position.line).toList := by
    have shown : toString position.line = toString position.line.toNat := rfl
    rw [shown, Nat.toString_eq_repr, Nat.toList_repr]
    intro mem
    have digit : '\n'.isDigit := Nat.isDigit_of_mem_toDigits (by decide) (by decide) mem
    contradiction
  simpa [gutter] using digits

theorem newline_not_mem_caretLine : '\n' ∉ caretLine position dashes := by
  simp [caretLine, alignRight]

theorem count_caretLine : (caretLine position dashes).count '^' = 1 := by
  simp [caretLine, alignRight, List.count_replicate]

theorem idxOf_caretLine :
    (caretLine position dashes).idxOf '^' = (gutter position).length + dashes := by
  have dashed : '^' ∉ alignRight ((toString position.line).toList.length + 2) ['|'] ++
      ' ' :: List.replicate dashes '-' := by
    simp [alignRight]
  rw [caretLine, ← List.cons_append, ← List.append_assoc, List.idxOf_append, if_neg dashed]
  simp [alignRight, gutter]
  omega

/-- A rendered diagnostic ends with the line around its place and with the caret. -/
theorem toList_render_of_place {diagnostic : Diagnostic}
    (sameLine : diagnostic.position.line.toNat = 1 + before.count '\n')
    (sameColumn : diagnostic.position.column.toNat = 1 + (leftOf before).length) :
    ∃ above, (diagnostic.render (String.ofList (before ++ after))).toList =
      above ++ '\n' :: (gutter diagnostic.position ++ quoted before after) ++
        '\n' :: caretLine diagnostic.position
          ((leftOf before).length - (indentation before after).length) ++ ['\n'] := by
  have shown : line (before ++ after) diagnostic.position.line = lineAround before after := by
    rw [sameLine, Nat.add_comm, line_of_place]
  have dashes : caretColumn diagnostic.position.column (lineAround before after) - 1 =
      (leftOf before).length - (indentation before after).length := by
    rw [caretColumn, sameColumn, indentation]
    omega
  have numbered : diagnostic.position.line ≠ 0 := by
    intro zero
    rw [zero, UInt32.toNat_zero] at sameLine
    omega
  refine ⟨(String.join ([diagnostic.headline, "   " ++ diagnostic.cause.message,
    "-> " ++ diagnostic.position.display].map (· ++ "\n"))).toList ++
      alignRight ((toString diagnostic.position.line).toList.length + 2) ['|'], ?_⟩
  simp [render, lines, numbered, excerpt, gutter, quoted, caretLine, shown, dashes]

/-- The text behind the indentation goes on with the text behind the place. -/
theorem isPrefix_quoted (outside : (indentation before after).length ≤ (leftOf before).length) :
    quoted before after <+: (leftOf before).drop (indentation before after).length ++ after := by
  have whole := isPrefix_lineAround before after
  rw [← List.takeWhile_append_dropWhile (p := indents) (l := lineAround before after)] at whole
  have begins := List.prefix_of_prefix_length_le ((List.prefix_append _ _).trans whole)
    (List.prefix_append _ _) outside
  rcases begins with ⟨shown, split⟩
  rw [← split, List.append_assoc, List.prefix_append_right_inj] at whole
  rw [← split, indentation, List.drop_left]
  exact (List.rdropWhile_prefix _ _).trans whole

theorem idxOf_caretLine_of_place (position : Position) (before after : List Char) :
    (caretLine position ((leftOf before).length - (indentation before after).length)).idxOf '^' =
      (gutter position ++ (leftOf before).drop (indentation before after).length).length := by
  rw [idxOf_caretLine, List.length_append, List.length_drop]

/-- What comes behind a place is found in its column, as far as it is shown. -/
theorem getElem?_of_isPrefix {gutter shown quoted : List Char} (reads : quoted <+: shown ++ after)
    (inside : (gutter ++ shown).length < (gutter ++ quoted).length) :
    (gutter ++ quoted)[(gutter ++ shown).length]? = after.head? := by
  rcases reads with ⟨rest, split⟩
  rw [List.length_append, List.length_append, Nat.add_lt_add_iff_left] at inside
  calc (gutter ++ quoted)[(gutter ++ shown).length]?
    _ = quoted[shown.length]? := by
      rw [List.length_append, List.getElem?_append_right (Nat.le_add_right _ _),
        Nat.add_sub_cancel_left]
    _ = (shown ++ after)[shown.length]? := by rw [← split, List.getElem?_append_left inside]
    _ = after.head? := by
      rw [List.getElem?_append_right (Nat.le_refl _), Nat.sub_self, List.head?_eq_getElem?]

/-- The text of a rendered diagnostic for the place between two texts. It ends with the line around
that place, without its indentation and the blanks at its end, and with a line that has one caret.
If the place is not in the indentation, the line goes on from what it has in front of the place to
what comes behind it, and the caret stands in the column where the latter begins: below the
character of the place, where this character is shown. -/
structure PointsAt (rendered gutter caretLine before after : List Char) : Prop where
  ends : ∃ above, rendered =
    above ++ '\n' :: (gutter ++ quoted before after) ++ '\n' :: caretLine ++ ['\n']
  quoted_line : '\n' ∉ gutter ++ quoted before after
  caret_line : '\n' ∉ caretLine
  caret : caretLine.count '^' = 1
  reads : (indentation before after).length ≤ (leftOf before).length →
    quoted before after <+: (leftOf before).drop (indentation before after).length ++ after
  column : (indentation before after).length ≤ (leftOf before).length →
    caretLine.idxOf '^' =
      (gutter ++ (leftOf before).drop (indentation before after).length).length
  character : (indentation before after).length ≤ (leftOf before).length →
    caretLine.idxOf '^' < (gutter ++ quoted before after).length →
    (gutter ++ quoted before after)[caretLine.idxOf '^']? = after.head?

/-- A diagnostic with the line and the column of a place of the source points at that place, and
what is taken from the front of the line ends where a character begins. -/
theorem caret_points_at_place (diagnostic : Diagnostic) (before after : List Char)
    (sameLine : diagnostic.position.line.toNat = 1 + before.count '\n')
    (sameColumn :
      diagnostic.position.column.toNat = 1 + (before.reverse.takeWhile (· ≠ '\n')).length) :
    fromByte? (indentation before after).length (lineAround before after) =
        some ((lineAround before after).dropWhile indents) ∧
      ∃ caretLine, PointsAt (diagnostic.render (String.ofList (before ++ after))).toList
        ((toString diagnostic.position.line).toList ++ [' ', '|', ' ']) caretLine before after := by
  refine ⟨fromByte?_indentation _, caretLine diagnostic.position
    ((leftOf before).length - (indentation before after).length), ?_⟩
  constructor
  · exact toList_render_of_place sameLine (length_leftOf before ▸ sameColumn)
  · have single : '\n' ∉ quoted before after := by
      intro mem
      have whole := (List.dropWhile_suffix indents).subset ((List.rdropWhile_prefix _ _).subset mem)
      exact newline_not_mem_lineAround before after whole
    exact List.not_mem_append newline_not_mem_gutter single
  · exact newline_not_mem_caretLine
  · exact count_caretLine
  · exact isPrefix_quoted
  · exact fun _ => idxOf_caretLine_of_place _ before after
  · intro outside
    rw [idxOf_caretLine_of_place]
    exact getElem?_of_isPrefix (isPrefix_quoted outside)

/-- At the last character of an indented line. Two characters end the line. -/
theorem caret_points_at_place_of_indented_line :
    let diagnostic : Diagnostic :=
      { cause := .lexical .unterminatedString
        position := { offset := 6, line := 2, column := 4, file := "main" } }
    let before := "x\n\t y".toList
    let after := "z \r\n".toList
    diagnostic.position.line.toNat = 1 + before.count '\n' ∧
      diagnostic.position.column.toNat = 1 + (before.reverse.takeWhile (· ≠ '\n')).length ∧
      fromByte? (indentation before after).length (lineAround before after) =
        some ((lineAround before after).dropWhile indents) ∧
      ∃ caretLine, PointsAt (diagnostic.render (String.ofList (before ++ after))).toList
        ((toString diagnostic.position.line).toList ++ [' ', '|', ' ']) caretLine before after := by
  intro diagnostic before after
  have sameLine : diagnostic.position.line.toNat = 1 + before.count '\n' := by decide
  have sameColumn : diagnostic.position.column.toNat =
      1 + (before.reverse.takeWhile (· ≠ '\n')).length := by decide
  exact ⟨sameLine, sameColumn, caret_points_at_place diagnostic before after sameLine sameColumn⟩

end Diagnostic

end ScriptCheck
