import ScriptCheck.Position

/-!
# Counted positions

A position behind some text can be read off that text alone: the offset counts the bytes of its
UTF-8 form, the line counts its newlines, and the column counts the characters behind the last of
them. Moving from the start of a file over a text, character by character, arrives at exactly this
position.

The counts are those that 32 bits hold. Sums of them are sums in this arithmetic, of texts of every
length, and they are exact numbers as long as the text has fewer than `2 ^ 32 - 1` bytes.
-/

namespace ScriptCheck.Position

/-- The position in a file behind the text with which the file starts. -/
def behind (file : String) (text : List Char) : Position :=
  { offset := UInt32.ofNat (String.ofList text).utf8ByteSize
    line := UInt32.ofNat (text.count '\n' + 1)
    column := UInt32.ofNat ((text.reverse.takeWhile (· ≠ '\n')).length + 1)
    file }

theorem next_behind (file : String) (text : List Char) (char : Char) :
    (behind file text).next char = behind file (text ++ [char]) := by
  by_cases newline : char = '\n'
  · have size : '\n'.utf8Size = "\n".utf8ByteSize := rfl
    simp [behind, next, newline, size]
  · simp [behind, next, newline, List.count_append]

theorem advance_behind (file : String) (before text : List Char) :
    (behind file before).advance text = behind file (before ++ text) := by
  induction text generalizing before with
  | nil => simp
  | cons char text ih =>
      rw [advance_cons, next_behind, ih, List.append_assoc, List.singleton_append]

/-! ### Exact numbers -/

/-- Every character takes at least one byte. -/
theorem length_le_utf8ByteSize (text : List Char) :
    text.length ≤ (String.ofList text).utf8ByteSize := by
  induction text with
  | nil => exact Nat.zero_le _
  | cons char text ih =>
      have := char.utf8Size_pos
      simp only [String.ofList_cons, String.utf8ByteSize_append, String.utf8ByteSize_singleton,
        List.length_cons]
      omega

theorem toNat_offset_behind (file : String) {text : List Char}
    (short : (String.ofList text).utf8ByteSize < UInt32.size) :
    (behind file text).offset.toNat = (String.ofList text).utf8ByteSize :=
  UInt32.toNat_ofNat_of_lt' short

/-- A position whose numbers are the counts of the text in front of it, and not only what 32 bits
hold of them. -/
structure Counts (position : Position) (text : List Char) : Prop where
  offset : position.offset.toNat = (String.ofList text).utf8ByteSize
  line : position.line.toNat = 1 + text.count '\n'
  column : position.column.toNat = 1 + (text.reverse.takeWhile (· ≠ '\n')).length

theorem counts_behind (file : String) {text : List Char}
    (short : (String.ofList text).utf8ByteSize + 1 < UInt32.size) :
    (behind file text).Counts text := by
  have chars := length_le_utf8ByteSize text
  have newlines : text.count '\n' ≤ text.length := List.count_le_length
  have last := (List.takeWhile_prefix (p := (· ≠ '\n')) (l := text.reverse)).length_le
  rw [List.length_reverse] at last
  constructor
  · exact toNat_offset_behind file (by omega)
  · rw [Nat.add_comm]
    exact UInt32.toNat_ofNat_of_lt' (by omega)
  · rw [Nat.add_comm]
    exact UInt32.toNat_ofNat_of_lt' (by omega)

theorem utf8ByteSize_append (before text : List Char) :
    (String.ofList (before ++ text)).utf8ByteSize =
      (String.ofList before).utf8ByteSize + (String.ofList text).utf8ByteSize := by
  simp

theorem offset_behind_le (file : String) {before text : List Char}
    (short : (String.ofList (before ++ text)).utf8ByteSize < UInt32.size) :
    (behind file before).offset ≤ (behind file (before ++ text)).offset := by
  have sum := utf8ByteSize_append before text
  rw [UInt32.le_iff_toNat_le, toNat_offset_behind file short, toNat_offset_behind file (by omega)]
  omega

theorem offset_behind_lt (file : String) {before text : List Char} (nonempty : text ≠ [])
    (short : (String.ofList (before ++ text)).utf8ByteSize < UInt32.size) :
    (behind file before).offset < (behind file (before ++ text)).offset := by
  have sum := utf8ByteSize_append before text
  have chars := length_le_utf8ByteSize text
  have some := List.length_pos_iff.mpr nonempty
  rw [UInt32.lt_iff_toNat_lt, toNat_offset_behind file short, toNat_offset_behind file (by omega)]
  omega

end ScriptCheck.Position
