import ScriptCheck.Number.Numeral

/-!
# Numerals of integers

An integer of 64 bits is read back from its decimal digits.
-/

namespace ScriptCheck.Number

theorem isDigits_toDigits (number : Nat) : isDigits (Nat.toDigits 10 number) = true := by
  rw [isDigits, Bool.and_eq_true, Bool.not_eq_true', List.isEmpty_eq_false_iff, List.all_eq_true]
  refine ⟨Nat.toDigits_ne_nil, fun digit mem => ?_⟩
  exact Nat.isDigit_of_mem_toDigits (by decide) (by decide) mem

theorem splitSign_toDigits (number : Nat) :
    splitSign (Nat.toDigits 10 number) = (false, Nat.toDigits 10 number) := by
  have digits (char : Char) (rest : List Char) (same : Nat.toDigits 10 number = char :: rest) :
      char.isDigit = true := by
    apply Nat.isDigit_of_mem_toDigits (b := 10) (n := number) (by decide) (by decide)
    rw [same]
    exact List.mem_cons_self
  unfold splitSign
  split
  · rename_i rest same
    exact absurd (digits _ rest same) (by decide)
  · rename_i rest same
    exact absurd (digits _ rest same) (by decide)
  · rfl

/-- The digits of a magnitude behind a sign, or behind none. -/
theorem readInteger?_of_splitSign {text : String} {negative : Bool} {magnitude : Nat}
    (split : splitSign text.toList = (negative, Nat.toDigits 10 magnitude))
    (least : leastInteger ≤ signed negative magnitude)
    (greatest : signed negative magnitude ≤ greatestInteger) :
    readInteger? text = some (signed negative magnitude) := by
  have value : digitsValue (Nat.toDigits 10 magnitude) = magnitude := Nat.ofDigitChars_ten_toDigits
  simp only [readInteger?, split, value, isDigits_toDigits, least, greatest, decide_true,
    Bool.and_self, if_true]

theorem readInteger?_toString {value : Int} (least : leastInteger ≤ value)
    (greatest : value ≤ greatestInteger) : readInteger? (toString value) = some value := by
  cases value with
  | ofNat magnitude =>
      have split : splitSign (toString (Int.ofNat magnitude)).toList =
          (false, Nat.toDigits 10 magnitude) := by
        show splitSign (toString magnitude).toList = _
        rw [Nat.toString_eq_repr, Nat.toList_repr, splitSign_toDigits]
      exact readInteger?_of_splitSign split least greatest
  | negSucc magnitude =>
      have split : splitSign (toString (Int.negSucc magnitude)).toList =
          (true, Nat.toDigits 10 (magnitude + 1)) := by
        show splitSign ("-" ++ toString (magnitude + 1)).toList = _
        rw [Nat.toString_eq_repr, String.toList_append, Nat.toList_repr]
        rfl
      exact readInteger?_of_splitSign split least greatest

theorem bounds_of_readInteger? {text : String} {value : Int}
    (found : readInteger? text = some value) :
    leastInteger ≤ value ∧ value ≤ greatestInteger := by
  simp only [readInteger?] at found
  split at found
  · rename_i fits
    rw [Option.some.injEq] at found
    subst found
    simp only [Bool.and_eq_true, decide_eq_true_eq] at fits
    exact ⟨fits.1.2, fits.2⟩
  · contradiction

end ScriptCheck.Number
