import ScriptCheck.Proofs.Token.Scanning

/-!
# Words and names

A word starts with a letter or an underscore and goes on with letters, digits and underscores, and a
name is a word that is not reserved. Every identifier that the scanner finds is a name.
-/

namespace ScriptCheck

/-- A letter or an underscore, and then letters, digits and underscores. -/
def isWord : List Char → Bool
  | [] => false
  | first :: rest => Rule.startsWord first && rest.all Rule.continuesWord

/-- A word that is not reserved. -/
def isName (name : String) : Bool :=
  isWord name.toList && Kind.ofWord name == .identifier

theorem isWord_of_isName {name : String} (isName : isName name = true) :
    isWord name.toList = true :=
  (Bool.and_eq_true_iff.mp isName).1

namespace Rule

variable {text rest : List Char} {count : Nat}

theorem isWord_of_length? (applies : word.length? text = some count) :
    isWord (text.take count) = true := by
  cases text with
  | nil => contradiction
  | cons first inner =>
      rw [length?] at applies
      split at applies
      · rename_i starts
        cases applies
        have taken := List.prefix_iff_eq_take.mp
          (List.takeWhile_prefix (l := inner) continuesWord)
        rw [List.take_succ_cons, ← taken, isWord, starts, Bool.true_and, List.all_eq_true]
        exact fun char member => List.mem_takeWhile_imp member
      · contradiction

/-- In front of everything that does not go on with it, a word is taken as a whole. -/
theorem first?_of_isWord (isWord : isWord text = true)
    (ends : ∀ char ∈ rest.head?, continuesWord char = false) :
    first? (text ++ rest) = some (word, text.length) := by
  cases text with
  | nil => contradiction
  | cons first inner =>
      rw [ScriptCheck.isWord, Bool.and_eq_true, List.all_eq_true] at isWord
      have taken : (inner ++ rest).takeWhile continuesWord = inner := by
        rw [List.takeWhile_append_of_pos isWord.2]
        cases rest with
        | nil => exact List.append_nil inner
        | cons char rest => simp [ends char rfl]
      apply first?_of_general (by simp [general, all]) (by simp)
      rw [List.cons_append, length?, if_pos isWord.1, taken]
      rfl

/-- Only the rule for words makes identifiers. -/
theorem isName_of_outcome {rule : Rule} {kind : Kind} {value : String} (known : rule ∈ all)
    (applies : rule.length? text = some count)
    (makes : rule.outcome (text.take count) = .token kind value)
    (isIdentifier : kind = .identifier) : isName value = true := by
  subst isIdentifier
  cases rule with
  | word =>
      rw [outcome] at makes
      injection makes with isIdentifier same
      rw [← same, isName, String.toList_ofList, isWord_of_length? applies, isIdentifier]
      rfl
  | number =>
      rw [outcome] at makes
      injection makes with isNumber
      split at isNumber <;> contradiction
  | fixed lexeme kind =>
      cases makes
      simp [all] at known
  | string quote =>
      rw [outcome] at makes
      injection makes with isString
      contradiction
  | _ => contradiction

end Rule

/-- The identifiers that the scanner finds are names. -/
theorem isName_of_scans {cursor : Cursor} {tokens : List Token} (scans : Scans cursor tokens) :
    ∀ token ∈ tokens, token.kind = .identifier → isName token.value = true := by
  induction scans with
  | ended none =>
      intro token member isIdentifier
      cases List.mem_singleton.mp member
      contradiction
  | skip found skips _ ih => exact ih
  | token found makes _ ih =>
      intro token member isIdentifier
      rcases List.mem_cons.mp member with rfl | later
      · rcases Rule.ok_of_first? found with ⟨known, applies⟩
        exact Rule.isName_of_outcome known applies makes isIdentifier
      · exact ih token later isIdentifier

end ScriptCheck
