import Mathlib.Tactic.IntervalCases
import StepMachine.Text.Utf8

/-! The bytes of a text are read back as the text, and a zero byte stands for the zero character
only. -/

namespace StepMachine

/-- The bytes of a text are those of its characters, one after the other. -/
theorem utf8Bytes_eq (text : String) :
    utf8Bytes text = text.toList.flatMap String.utf8EncodeChar := by
  -- A text is stored as the bytes of its list of characters.
  have encoded : text.toByteArray = text.toList.utf8Encode := by
    rw [← String.toByteArray_ofList, String.ofList_toList]
  show text.toByteArray.data.toList = _
  rw [encoded, List.utf8Encode, List.data_toByteArray]

namespace Utf8

/-- A byte behind the first one of a character carries six bits. -/
def tail (bits : Nat) : UInt8 := UInt8.ofNat (bits + 0x80)

section Bytes

variable {bits rest : Nat}

/-- Such a byte lies between two bounds if its bits do. -/
theorem tail_between {low high : UInt8} (small : rest < 64) (above : low.toNat ≤ rest + 0x80)
    (below : rest + 0x80 ≤ high.toNat) :
    (tail rest).toNat = rest + 0x80 ∧ low ≤ tail rest ∧ tail rest ≤ high := by
  -- Six bits and the mark fit into a byte.
  have number : (tail rest).toNat = rest + 0x80 := by
    rw [tail, UInt8.toNat_ofNat']
    omega
  rw [UInt8.le_iff_toNat_le, UInt8.le_iff_toNat_le, number]
  exact ⟨rfl, above, below⟩

/-- A byte behind the first that is the last one completes the character. -/
theorem feed_last {low high : UInt8} (small : rest < 64) (above : low.toNat ≤ rest + 0x80)
    (below : rest + 0x80 ≤ high.toNat) :
    feed (tail rest) (some ⟨1, low, high, bits⟩) = ([Char.ofNat (bits * 64 + rest)], none) := by
  obtain ⟨number, inside⟩ := tail_between small above below
  simp [feed, inside, number]

/-- A byte behind the first that is not the last one adds its bits. -/
theorem feed_inner {low high : UInt8} {missing : Nat} (small : rest < 64)
    (above : low.toNat ≤ rest + 0x80) (below : rest + 0x80 ≤ high.toNat) :
    feed (tail rest) (some ⟨missing + 2, low, high, bits⟩) =
      ([], some ⟨missing + 1, 0x80, 0xBF, bits * 64 + rest⟩) := by
  obtain ⟨number, inside⟩ := tail_between small above below
  simp [feed, inside, number]

/-- A small number is a character by itself. -/
theorem feed_alone (small : bits < 0x80) :
    feed (UInt8.ofNat bits) none = ([Char.ofNat bits], none) := by
  -- The number fits into a byte as it is.
  have number : (UInt8.ofNat bits).toNat = bits := by
    rw [UInt8.toNat_ofNat']
    omega
  have alone : UInt8.ofNat bits < 0x80 := by
    rw [UInt8.lt_iff_toNat_lt, number]
    exact small
  simp [feed, start, alone, number]

/-- The first of two bytes. A character that fits into one is not written with two. -/
theorem feed_two (above : 2 ≤ bits) (below : bits < 32) :
    feed (UInt8.ofNat (bits + 0xC0)) none = ([], some ⟨1, 0x80, 0xBF, bits⟩) := by
  interval_cases bits <;> rfl

/-- The first of three bytes. What may come next excludes characters that fit into two bytes, and
numbers that are no characters. -/
theorem feed_three (below : bits < 16) :
    feed (UInt8.ofNat (bits + 0xE0)) none =
      ([], some ⟨2, if bits = 0 then 0xA0 else 0x80, if bits = 13 then 0x9F else 0xBF, bits⟩) := by
  interval_cases bits <;> rfl

/-- The first of four bytes. What may come next excludes characters that fit into three bytes, and
numbers behind the last character. -/
theorem feed_four (below : bits < 5) :
    feed (UInt8.ofNat (bits + 0xF0)) none =
      ([], some ⟨3, if bits = 0 then 0x90 else 0x80, if bits = 4 then 0x8F else 0xBF, bits⟩) := by
  interval_cases bits <;> rfl

end Bytes

/-- The bytes that write a number below the last character, by how many it takes. -/
def encode (number : Nat) : List UInt8 :=
  if number < 0x80 then [UInt8.ofNat number]
  else if number < 0x800 then [UInt8.ofNat (number / 64 + 0xC0), tail (number % 64)]
  else if number < 0x10000 then
    [UInt8.ofNat (number / 64 / 64 + 0xE0), tail (number / 64 % 64), tail (number % 64)]
  else
    [UInt8.ofNat (number / 64 / 64 / 64 + 0xF0), tail (number / 64 / 64 % 64),
      tail (number / 64 % 64), tail (number % 64)]

/-- The number of a character is one of less than seventeen planes. -/
theorem toNat_lt (c : Char) : c.toNat < 0x110000 := by
  have valid : c.toNat < 0xD800 ∨ 0xDFFF < c.toNat ∧ c.toNat < 0x110000 := c.valid
  omega

/-- A character is written as its number is. -/
theorem utf8EncodeChar_eq (c : Char) : String.utf8EncodeChar c = encode c.toNat := by
  have bound := toNat_lt c
  unfold Char.toNat at bound
  unfold String.utf8EncodeChar encode tail Char.toNat
  generalize c.val.toNat = number at bound
  -- No number is as large as to be cut down by the width of its first byte.
  by_cases one : number < 0x80
  · rw [if_pos one, if_pos (by omega)]
  rw [if_neg one, if_neg (by omega)]
  by_cases two : number < 0x800
  · rw [if_pos two, if_pos (by omega), Nat.mod_eq_of_lt (by omega)]
  rw [if_neg two, if_neg (by omega)]
  by_cases three : number < 0x10000
  · rw [if_pos three, if_pos (by omega), Nat.mod_eq_of_lt (by omega), Nat.div_div_eq_div_mul]
  rw [if_neg three, if_neg (by omega), Nat.mod_eq_of_lt (by omega)]
  simp only [Nat.div_div_eq_div_mul]

section Reading

variable {bytes : List UInt8} {byte : UInt8} {pending next : Option Pending}

/-- A byte that completes nothing leaves what is pending to the next. -/
theorem decodeFrom_silent (fed : feed byte pending = ([], next)) :
    decodeFrom pending (byte :: bytes) = decodeFrom next bytes := by
  rw [decodeFrom, fed]
  rfl

/-- A byte that completes a character gives it out in front of the rest. -/
theorem decodeFrom_complete {c : Char} (fed : feed byte pending = ([c], next)) :
    decodeFrom pending (byte :: bytes) = c :: decodeFrom next bytes := by
  rw [decodeFrom, fed]
  rfl

/-- The last byte of a character, with its bits. -/
theorem decodeFrom_last {low high : UInt8} {number : Nat}
    (above : low.toNat ≤ number % 64 + 0x80) (below : number % 64 + 0x80 ≤ high.toNat) :
    decodeFrom (some ⟨1, low, high, number / 64⟩) (tail (number % 64) :: bytes) =
      Char.ofNat number :: decodeFrom none bytes := by
  -- The bits that were pending and those of the byte are the number again.
  have fed := @feed_last (number / 64) _ _ _ (Nat.mod_lt number (by decide)) above below
  rw [Nat.div_add_mod'] at fed
  exact decodeFrom_complete fed

/-- A byte of a character in front of its last one, with its bits. -/
theorem decodeFrom_inner {low high : UInt8} {missing number : Nat}
    (above : low.toNat ≤ number % 64 + 0x80) (below : number % 64 + 0x80 ≤ high.toNat) :
    decodeFrom (some ⟨missing + 2, low, high, number / 64⟩) (tail (number % 64) :: bytes) =
      decodeFrom (some ⟨missing + 1, 0x80, 0xBF, number⟩) bytes := by
  -- Nothing is given out, and the bits that are pending are those of a shorter number.
  have fed := @feed_inner (number / 64) _ _ _ missing (Nat.mod_lt number (by decide)) above below
  rw [Nat.div_add_mod'] at fed
  exact decodeFrom_silent fed

section Lengths

variable {number : Nat}

/-- The mark of a byte behind the first is its lowest value. -/
theorem tail_low (bits : Nat) : (0x80 : UInt8).toNat ≤ bits % 64 + 0x80 := Nat.le_add_left ..

/-- Six bits over the mark do not reach the highest value. -/
theorem tail_high (bits : Nat) : bits % 64 + 0x80 ≤ (0xBF : UInt8).toNat := by
  show bits % 64 + 0x80 ≤ 0xBF
  omega

/-- A character of two bytes. -/
theorem decodeFrom_two (above : 0x80 ≤ number) (below : number < 0x800) :
    decodeFrom none (UInt8.ofNat (number / 64 + 0xC0) :: tail (number % 64) :: bytes) =
      Char.ofNat number :: decodeFrom none bytes := by
  rw [decodeFrom_silent (feed_two (by omega) (by omega)),
    decodeFrom_last (tail_low _) (tail_high _)]

/-- A character of three bytes. Numbers that are no characters are left out. -/
theorem decodeFrom_three (above : 0x800 ≤ number) (below : number < 0x10000)
    (valid : number < 0xD800 ∨ 0xDFFF < number) :
    decodeFrom none (UInt8.ofNat (number / 64 / 64 + 0xE0) :: tail (number / 64 % 64) ::
        tail (number % 64) :: bytes) = Char.ofNat number :: decodeFrom none bytes := by
  rw [decodeFrom_silent (feed_three (by omega)), decodeFrom_inner,
    decodeFrom_last (tail_low _) (tail_high _)]
  · -- A number of three bytes whose first digit is zero has a large second one.
    split
    · show 0xA0 ≤ number / 64 % 64 + 0x80
      omega
    · exact tail_low _
  · -- What is left out is the upper half of a range of bytes.
    split
    · show number / 64 % 64 + 0x80 ≤ 0x9F
      omega
    · exact tail_high _

/-- A character of four bytes. -/
theorem decodeFrom_four (above : 0x10000 ≤ number) (below : number < 0x110000) :
    decodeFrom none (UInt8.ofNat (number / 64 / 64 / 64 + 0xF0) :: tail (number / 64 / 64 % 64) ::
        tail (number / 64 % 64) :: tail (number % 64) :: bytes) =
      Char.ofNat number :: decodeFrom none bytes := by
  rw [decodeFrom_silent (feed_four (by omega)), decodeFrom_inner,
    decodeFrom_inner (tail_low _) (tail_high _), decodeFrom_last (tail_low _) (tail_high _)]
  · -- A number of four bytes whose first digit is zero has a second one of sixteen or more.
    split
    · show 0x90 ≤ number / 64 / 64 % 64 + 0x80
      omega
    · exact tail_low _
  · -- A number of four bytes whose first digit is four has a second one below sixteen.
    split
    · show number / 64 / 64 % 64 + 0x80 ≤ 0x8F
      omega
    · exact tail_high _

end Lengths

/-- The bytes of a number that is a character are read back as that character. -/
theorem decodeFrom_encode {number : Nat} (valid : number.isValidChar) :
    decodeFrom none (encode number ++ bytes) = Char.ofNat number :: decodeFrom none bytes := by
  -- A character is given by its number, and lies on either side of a gap.
  have valid : number < 0xD800 ∨ 0xDFFF < number ∧ number < 0x110000 := valid
  unfold encode
  -- As many bytes are read as the number is written with.
  split
  · rename_i one
    exact decodeFrom_complete (feed_alone one)
  split
  · exact decodeFrom_two (by omega) (by omega)
  split
  · exact decodeFrom_three (by omega) (by omega) (by omega)
  · exact decodeFrom_four (by omega) (by omega)

end Reading

/-- The bytes of characters are read back as those characters. -/
theorem decodeFrom_characters (characters : List Char) :
    decodeFrom none (characters.flatMap String.utf8EncodeChar) = characters := by
  -- By induction on the characters, each of which leaves nothing pending.
  induction characters with
  | nil => rfl
  | cons c rest ih =>
    have valid : c.toNat.isValidChar := c.valid
    rw [List.flatMap_cons, utf8EncodeChar_eq, decodeFrom_encode valid, ih, Char.ofNat_toNat]

/-- The bytes of a text are read back as the text. -/
theorem decode_utf8Bytes (text : String) : decode (utf8Bytes text) = text := by
  rw [decode, utf8Bytes_eq, decodeFrom_characters, String.ofList_toList]

/-- A zero byte stands for the zero character only. -/
theorem ne_zero_of_mem_encode {number : Nat} (some : 0 < number) (bound : number < 0x110000) :
    ∀ byte ∈ encode number, byte ≠ 0 := by
  -- The bits of a byte with a mark are not all zero.
  have positive {bits : Nat} (some : 0 < bits) (small : bits < 0x100) : UInt8.ofNat bits ≠ 0 := by
    intro zero
    have number := congrArg UInt8.toNat zero
    rw [UInt8.toNat_ofNat', Nat.mod_eq_of_lt small] at number
    exact absurd number (Nat.ne_of_gt some)
  have carried (bits : Nat) : tail (bits % 64) ≠ 0 := positive (by omega) (by omega)
  have none : ∀ byte ∈ ([] : List UInt8), byte ≠ 0 := nofun
  -- The first byte marks how many there are, and the others are marked as well.
  unfold encode
  split
  · exact List.forall_mem_cons.mpr ⟨positive some (by omega), none⟩
  split
  · exact List.forall_mem_cons.mpr ⟨positive (by omega) (by omega),
      List.forall_mem_cons.mpr ⟨carried _, none⟩⟩
  split
  · exact List.forall_mem_cons.mpr ⟨positive (by omega) (by omega),
      List.forall_mem_cons.mpr ⟨carried _, List.forall_mem_cons.mpr ⟨carried _, none⟩⟩⟩
  · exact List.forall_mem_cons.mpr ⟨positive (by omega) (by omega),
      List.forall_mem_cons.mpr ⟨carried _, List.forall_mem_cons.mpr ⟨carried _,
        List.forall_mem_cons.mpr ⟨carried _, none⟩⟩⟩⟩

end Utf8

/-- A text up to its first zero character. -/
def cutAtZero (text : String) : String := String.ofList (text.toList.takeWhile (· ≠ '\x00'))

/-- Of the bytes of a text with a zero byte behind them, those up to the first zero byte are the
bytes of the text up to its first zero character. -/
theorem takeWhile_utf8Bytes (text : String) :
    (utf8Bytes text ++ [0]).takeWhile (· ≠ 0) = utf8Bytes (cutAtZero text) := by
  -- Both sides go through the characters of the text.
  rw [utf8Bytes_eq, utf8Bytes_eq, cutAtZero, String.toList_ofList]
  induction text.toList with
  | nil => rfl
  | cons c rest ih =>
    rw [List.flatMap_cons, List.takeWhile_cons, List.append_assoc]
    by_cases zero : c = '\x00'
    · subst zero
      rfl
    · -- No other character has a zero byte, so the cut comes behind it.
      have number : 0 < c.toNat := by
        refine Nat.pos_of_ne_zero fun none => zero ?_
        rw [← Char.ofNat_toNat c, none]
      have unbroken := Utf8.ne_zero_of_mem_encode number (Utf8.toNat_lt c)
      rw [← Utf8.utf8EncodeChar_eq] at unbroken
      rw [List.takeWhile_append_of_pos (by simpa using unbroken), ih, if_pos (by simpa using zero),
        List.flatMap_cons]

end StepMachine
