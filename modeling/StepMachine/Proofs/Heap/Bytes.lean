import StepMachine.Proofs.Stack.Variable

/-! Which bytes an edit changes, and what number they stand for then: an integer that is written is
read back, and nothing else that is held changes. -/

namespace StepMachine

section Arrays

/-- The byte at a position, where bytes that are not there count as zero. -/
def byteOr0 (bytes : ByteArray) (position : Nat) : UInt8 := bytes.data.getD position 0

/-- Behind the last byte there are zeros. -/
theorem byteOr0_behind {bytes : ByteArray} {position : Nat} (behind : bytes.size ≤ position) :
    byteOr0 bytes position = 0 := by
  -- A position that is not there has the default.
  unfold byteOr0
  rw [Array.getD_eq_getD_getElem?, Array.getElem?_eq_none behind]
  rfl

/-- The byte of a heap is the one in its list of bytes, or zero behind them. -/
theorem Heap.byteAt_eq (heap : Heap) (position : Nat) :
    heap.byteAt position = byteOr0 heap.bytes position := by
  -- Whether the byte is there is asked for in both.
  unfold byteAt
  split
  · rename_i inside
    rw [byteOr0, Array.getD_eq_getD_getElem?, Array.getElem?_eq_getElem inside]
    rfl
  · rename_i outside
    exact (byteOr0_behind (Nat.le_of_not_lt outside)).symm

/-- One more byte stands behind all others. -/
theorem byteOr0_push (bytes : ByteArray) (byte : UInt8) (position : Nat) :
    byteOr0 (bytes.push byte) position =
      if position = bytes.size then byte else byteOr0 bytes position := by
  unfold byteOr0
  -- The bytes are an array, and so the law is that of arrays.
  show (bytes.data.push byte).getD position 0 = if position = bytes.data.size then _ else _
  simp only [Array.getD_eq_getD_getElem?, Array.getElem?_push]
  split <;> rfl

/-- Setting a byte that is there changes that byte and no other. -/
theorem byteOr0_set (bytes : ByteArray) (index position : Nat) (inside : index < bytes.size)
    (byte : UInt8) :
    byteOr0 (bytes.set index byte inside) position =
      if position = index then byte else byteOr0 bytes position := by
  unfold byteOr0
  show (bytes.data.set index byte inside).getD position 0 = _
  simp only [Array.getD_eq_getD_getElem?, Array.getElem?_set]
  -- The position is either that of the byte or another one.
  by_cases same : position = index
  · simp [same]
  · have other : index ≠ position := fun equal => same equal.symm
    simp [same, other]

/-- So many zeros make it so many bytes longer. -/
theorem padZeros_size (count : Nat) (bytes : ByteArray) :
    (padZeros count bytes).size = bytes.size + count := by
  -- The zeros are put behind one at a time.
  induction count generalizing bytes with
  | zero => rfl
  | succ count ih =>
    rw [padZeros, ih, ByteArray.size_push]
    omega

/-- Zero bytes behind the others are as good as none. -/
theorem byteOr0_padZeros (count : Nat) (bytes : ByteArray) (position : Nat) :
    byteOr0 (padZeros count bytes) position = byteOr0 bytes position := by
  -- One zero is added in each step.
  induction count generalizing bytes with
  | zero => rfl
  | succ count ih =>
    rw [padZeros, ih, byteOr0_push]
    split
    · -- The zero that was added stands where no byte was.
      rename_i behind
      exact (byteOr0_behind (Nat.le_of_eq behind.symm)).symm
    · rfl

/-- Setting a byte changes that byte and no other. -/
theorem byteOr0_setByte (bytes : ByteArray) (index position : Nat) (byte : UInt8) :
    byteOr0 (setByte bytes index byte) position =
      if position = index then byte else byteOr0 bytes position := by
  -- Behind the end, zeros fill the gap up to the byte.
  unfold setByte
  split
  · exact byteOr0_set ..
  · rename_i outside
    have size : (padZeros (index - bytes.size) bytes).size = index := by
      rw [padZeros_size]
      omega
    rw [byteOr0_push, byteOr0_padZeros, size]

/-- Laying bytes over others changes those that they are laid over. -/
theorem byteOr0_overlay (under : ByteArray) (start position : Nat) (bytes : List UInt8) :
    byteOr0 (overlay under start bytes) position =
      if start ≤ position ∧ position < start + bytes.length then bytes.getD (position - start) 0
      else byteOr0 under position := by
  -- The induction is on the bytes that are laid over, the first of which is laid first.
  induction bytes generalizing under start with
  | nil => rw [overlay, if_neg (by simp only [List.length_nil]; omega)]
  | cons byte rest ih =>
    rw [overlay, ih, byteOr0_setByte]
    -- The first byte is laid before the rest, which start one position on.
    by_cases here : position = start
    · subst here
      rw [if_neg (by omega), if_pos rfl, if_pos ⟨Nat.le_refl _, by simp⟩]
      simp
    · rw [if_neg here]
      by_cases inside : start ≤ position ∧ position < start + (byte :: rest).length
      · have later : start + 1 ≤ position ∧ position < start + 1 + rest.length := by
          rw [List.length_cons] at inside
          omega
        have shift : position - start = position - (start + 1) + 1 := by omega
        rw [if_pos later, if_pos inside, shift, List.getD_cons_succ]
      · have outside : ¬ (start + 1 ≤ position ∧ position < start + 1 + rest.length) := by
          rw [List.length_cons] at inside
          omega
        rw [if_neg outside, if_neg inside]

/-- Bytes that are set to zero are zero, and the others stay. -/
theorem byteOr0_zeroBytes (start count position : Nat) (bytes : ByteArray) :
    byteOr0 (zeroBytes start count bytes) position =
      if start ≤ position ∧ position < start + count then 0 else byteOr0 bytes position := by
  -- The first byte is set to zero, and then those behind it.
  induction count generalizing start bytes with
  | zero => rw [zeroBytes, if_neg (by omega)]
  | succ count ih =>
    have first : byteOr0 (if inside : start < bytes.size then bytes.set start 0 else bytes)
        position = if position = start then 0 else byteOr0 bytes position := by
      split
      · exact byteOr0_set ..
      · -- A byte that is not there is zero already.
        rename_i outside
        split
        · rename_i here
          exact byteOr0_behind (here ▸ Nat.le_of_not_lt outside)
        · rfl
    rw [zeroBytes, ih, first]
    by_cases here : position = start
    · rw [if_neg (by omega), if_pos here, if_pos (by omega)]
    · by_cases inside : start + 1 ≤ position ∧ position < start + 1 + count
      · rw [if_pos inside, if_pos (by omega)]
      · rw [if_neg inside, if_neg here, if_neg (by omega)]

end Arrays

section Numbers

/-- There are as many digits as were asked for. -/
theorem toDigits256_length (count number : Nat) : (toDigits256 count number).length = count := by
  induction count generalizing number with
  -- Each digit is followed by those of the quotient.
  | zero => rfl
  | succ count ih => rw [toDigits256, List.length_cons, ih]

/-- The digits of a number make up the number, as far as they go. -/
theorem ofDigits256_toDigits256 (count number : Nat) :
    ofDigits256 (toDigits256 count number) = number % span256 count := by
  -- The last digit is the remainder, and the others are those of the quotient.
  induction count generalizing number with
  | zero => rw [toDigits256, ofDigits256, span256, Nat.mod_one]
  | succ count ih =>
    rw [toDigits256, ofDigits256, ih, span256, Nat.mod_mul, UInt8.toNat_ofNat']

/-- The number that bytes stand for is made up of them as its digits. -/
theorem Heap.numberAt_eq {heap : Heap} {position : Nat} {bytes : List UInt8}
    (same : ∀ index, index < bytes.length → heap.byteAt (position + index) = bytes.getD index 0) :
    heap.numberAt position bytes.length = ofDigits256 bytes := by
  -- The induction is on the bytes, of which the first is the least.
  induction bytes generalizing position with
  | nil => rfl
  | cons byte rest ih =>
    have first : heap.byteAt position = byte := by simpa using same 0 (by simp)
    -- The rest stands one position on.
    have others := @ih (position + 1) fun index inside => by
      have here := same (index + 1) (by simpa using inside)
      rwa [List.getD_cons_succ, ← Nat.add_assoc, Nat.add_right_comm] at here
    rw [List.length_cons, numberAt, ofDigits256, first, others]

/-- The same bytes stand for the same number. -/
theorem Heap.numberAt_congr {heap last : Heap} {position count : Nat}
    (same : ∀ index, index < count →
      last.byteAt (position + index) = heap.byteAt (position + index)) :
    last.numberAt position count = heap.numberAt position count := by
  -- The bytes behind the first one start one position on.
  induction count generalizing position with
  | zero => rfl
  | succ count ih =>
    have others := @ih (position + 1) fun index inside => by
      have here := same (index + 1) (by omega)
      rwa [← Nat.add_assoc, Nat.add_right_comm] at here
    rw [numberAt, numberAt, others, show last.byteAt position = heap.byteAt position from
      same 0 (by omega)]

/-- Zero bytes stand for zero. -/
theorem Heap.numberAt_zero {heap : Heap} {position count : Nat}
    (zero : ∀ index, index < count → heap.byteAt (position + index) = 0) :
    heap.numberAt position count = 0 := by
  -- So it is here.
  induction count generalizing position with
  | zero => rfl
  | succ count ih =>
    have others := @ih (position + 1) fun index inside => by
      have here := zero (index + 1) (by omega)
      rwa [← Nat.add_assoc, Nat.add_right_comm] at here
    rw [numberAt, others, show heap.byteAt position = 0 from zero 0 (by omega)]
    rfl

/-- A number that a signed format has comes back from its residue. -/
theorem Scalar.ofResidue_residue {scalar : Scalar} (signed : scalar.signed = true) {number : Int}
    (low : -(span256 scalar.size : Int) ≤ 2 * number)
    (high : 2 * number < (span256 scalar.size : Int)) :
    scalar.ofResidue (residue (span256 scalar.size) number % span256 scalar.size) = number := by
  generalize spans : span256 scalar.size = span at low high
  -- The two halves of the residues are the numbers from zero on and those below.
  unfold ofResidue
  rw [signed, spans]
  cases number with
  | ofNat n =>
    rw [Int.ofNat_eq_natCast] at low high
    have small : n < span := by omega
    simp only [residue, Nat.mod_eq_of_lt small, true_and]
    rw [if_neg (by omega)]
    rfl
  | negSucc n =>
    -- Negative numbers have the residues of the upper half.
    have small : n < span := by omega
    have inside : span - 1 - n < span := by omega
    simp only [residue, Nat.mod_eq_of_lt small, Nat.mod_eq_of_lt inside, true_and]
    rw [if_pos (by omega)]
    omega

/-- An integer of the machine comes back from its residue. -/
theorem Scalar.int_ofResidue (n : Int32) :
    int.ofResidue (residue (span256 int.size) n.toInt % span256 int.size) = n.toInt := by
  -- It lies within the bounds of thirty-two bits.
  have low := n.le_toInt
  have high := n.toInt_lt
  exact ofResidue_residue rfl (by show -(4294967296 : Int) ≤ _; omega)
    (by show _ < (4294967296 : Int); omega)

/-- A character comes back from its residue. -/
theorem Scalar.char_ofResidue (c : Int8) :
    char.ofResidue (residue (span256 char.size) c.toInt % span256 char.size) = c.toInt := by
  -- It lies within the bounds of eight bits.
  have low := c.le_toInt
  have high := c.toInt_lt
  exact ofResidue_residue rfl (by show -(256 : Int) ≤ _; omega) (by show _ < (256 : Int); omega)

end Numbers

/-- Writing to a part of a block that lies within is writing to its address. -/
theorem Block.write_within {block : Block} {offset : Nat} {bytes : List UInt8}
    (within : offset + bytes.length ≤ block.size) :
    block.write offset bytes = Heap.write (block.address + UInt64.ofNat offset) bytes := by
  -- The part has the address that lies as far on.
  unfold Block.write Block.part
  rw [if_pos within]

namespace Heap

/-- No byte of a block is changed. -/
def Untouched (heap last : Heap) (block : Block) : Prop :=
  ∀ index, index < block.size →
    last.byteAt (block.address.toNat - heapBase + index) =
      heap.byteAt (block.address.toNat - heapBase + index)

/-- What was not touched twice was not touched. -/
theorem Untouched.trans {first second third : Heap} {block : Block}
    (one : first.Untouched second block) (two : second.Untouched third block) :
    first.Untouched third block :=
  fun index inside => (two index inside).trans (one index inside)

/-- Freeing a block leaves the bytes. -/
theorem release_bytes (heap : Heap) (block : Block) : (heap.release block).bytes = heap.bytes := by
  unfold release
  dsimp only
  -- Freeing a block changes which units are live and how many are used, if anything.
  split <;> rfl

/-- Freeing blocks leaves the bytes. -/
theorem releaseAll_bytes (heap : Heap) (blocks : List Block) :
    (heap.releaseAll blocks).bytes = heap.bytes := by
  -- The blocks are freed one after the other.
  unfold releaseAll
  induction blocks generalizing heap with
  | nil => rfl
  | cons block rest ih => exact (ih (heap.release block)).trans (heap.release_bytes block)

namespace Holds

variable {heap : Heap} {blocks : List Block}

/-- A block that is held beside others is none of them. -/
theorem ne_first {block : Block} (holds : heap.Holds (block :: blocks)) {other : Block}
    (member : other ∈ blocks) : other ≠ block := by
  -- All blocks start at different addresses.
  have apart := (List.pairwise_cons.mp holds.addresses).1 other member
  exact fun same => apart (congrArg Block.address same.symm)

/-- A block that is held is accessed at its own address. -/
theorem locate_address (holds : heap.Holds blocks) {block : Block} (member : block ∈ blocks) :
    heap.locate block.address block.size = .ok (block.address.toNat - heapBase) := by
  -- The offset of its first unit is that of its address.
  rw [holds.locate member, (holds.seated block member).address, Nat.add_sub_cancel_left]

/-- Each byte of a block that is held lies in one of its units. -/
theorem covers_byte (holds : heap.Holds blocks) {block : Block} (member : block ∈ blocks)
    {index : Nat} (inside : index < block.size) :
    heap.covers ((block.address.toNat - heapBase + index) / heap.unit) block = true := by
  have seats := holds.seated block member
  have room := heap.le_unitsFor_mul block.size
  rw [seats.address, Nat.add_sub_cancel_left, covers_iff]
  -- The block starts on a whole unit, and its units have room for it.
  constructor
  · rw [Nat.le_div_iff_mul_le heap.unit_pos]
    omega
  · rw [Nat.div_lt_iff_lt_mul heap.unit_pos, Nat.add_mul]
    omega

/-- Two different blocks that are held have no unit in common. -/
theorem apart_of_ne (holds : heap.Holds blocks) {one other : Block} (member : one ∈ blocks)
    (also : other ∈ blocks) (differ : one ≠ other) (unit : Nat) :
    ¬ (heap.covers unit one = true ∧ heap.covers unit other = true) := by
  -- No two blocks of the list share a unit, whichever of them comes first.
  have apart := holds.apart
  clear holds
  induction apart with
  | nil => cases member
  | cons first _ ih =>
    -- Either one of the two stands first, or both stand in the rest.
    rcases List.mem_cons.mp member with here | later <;>
      rcases List.mem_cons.mp also with there | behind
    · exact absurd (here.trans there.symm) differ
    · rw [here]
      exact first other behind unit
    · rw [there]
      exact fun both => first one later unit ⟨both.2, both.1⟩
    · exact ih later behind

/-- No byte of a block that is held lies in another one. -/
theorem bytes_apart (holds : heap.Holds blocks) {one other : Block} (member : one ∈ blocks)
    (also : other ∈ blocks) (differ : one ≠ other) {index : Nat} (inside : index < one.size) :
    ¬ (other.address.toNat - heapBase ≤ one.address.toNat - heapBase + index ∧
      one.address.toNat - heapBase + index < other.address.toNat - heapBase + other.size) := by
  rintro ⟨low, high⟩
  obtain ⟨position, same⟩ := Nat.exists_eq_add_of_le low
  have covered := holds.covers_byte member inside
  rw [same] at covered high
  exact holds.apart_of_ne member also differ _
    ⟨covered, holds.covers_byte also (Nat.lt_of_add_lt_add_left high)⟩

/-- Writing over a part of a block that is held succeeds, if the part is not empty, and touches no
other block that is held. -/
theorem writePart (holds : heap.Holds blocks) {block : Block} (member : block ∈ blocks)
    {offset : Nat} {bytes : List UInt8} (some : 0 < bytes.length)
    (within : offset + bytes.length ≤ block.size) :
    Heap.write (block.address + UInt64.ofNat offset) bytes heap =
        .ok () (heap.put (block.address.toNat - heapBase + offset) bytes) ∧
      ∀ other ∈ blocks, other ≠ block →
        heap.Untouched (heap.put (block.address.toNat - heapBase + offset) bytes) other := by
  have located := holds.locate_part member some within
  have start : heap.firstUnit block * heap.unit = block.address.toNat - heapBase := by
    rw [(holds.seated block member).address, Nat.add_sub_cancel_left]
  refine ⟨by rw [Heap.write, located, start], fun other also differ position inside => ?_⟩
  -- A byte that was written over would be one of both blocks.
  have outside := holds.bytes_apart also member differ inside
  rw [byteAt_eq, byteAt_eq, put, byteOr0_overlay, if_neg (by omega)]

/-- Writing over a block that is held succeeds, and touches no other that is. -/
theorem write (holds : heap.Holds blocks) {block : Block} (member : block ∈ blocks)
    {bytes : List UInt8} (fits : bytes.length = block.size) :
    Heap.write block.address bytes heap =
        .ok () (heap.put (block.address.toNat - heapBase) bytes) ∧
      ∀ other ∈ blocks, other ≠ block →
        heap.Untouched (heap.put (block.address.toNat - heapBase) bytes) other := by
  -- To write over the whole block is to write over the part that starts at its beginning.
  have some := (holds.seated block member).size_pos
  have whole := @writePart _ _ holds _ member 0 bytes (by omega) (by omega)
  rwa [show UInt64.ofNat 0 = 0 from rfl, UInt64.add_zero, Nat.add_zero] at whole

/-- Clearing a block that is held succeeds, sets its bytes to zero, and touches no other that is
held. -/
theorem clear (holds : heap.Holds blocks) {block : Block} (member : block ∈ blocks) :
    ∃ last, block.clear heap = .ok () last ∧
      (∀ index, index < block.size →
        last.byteAt (block.address.toNat - heapBase + index) = 0) ∧
      ∀ other ∈ blocks, other ≠ block → heap.Untouched last other := by
  -- The block is found in the arena, so its bytes are set to zero there.
  have located := holds.locate_address member
  refine ⟨_, by rw [Block.clear, Heap.clear, located], fun index inside => ?_,
    fun other also differ position within => ?_⟩
  · rw [byteAt_eq, byteOr0_zeroBytes]
    split
    · rfl
    · -- A byte that was left alone was never written.
      rename_i outside
      exact byteOr0_behind (by omega)
  · have outside := holds.bytes_apart also member differ within
    rw [byteAt_eq, byteAt_eq, byteOr0_zeroBytes, if_neg (by omega)]

/-- An integer that is written over a block that is held is read back from there. -/
theorem writeScalar (holds : heap.Holds blocks) {block : Block} (member : block ∈ blocks)
    (scalar : Scalar) (fits : scalar.size = block.size) (number : Int) :
    ∃ last, Heap.writeScalar scalar block.address number heap = .ok () last ∧
      last.numberAt (block.address.toNat - heapBase) scalar.size =
        residue (span256 scalar.size) number % span256 scalar.size ∧
      ∀ other ∈ blocks, other ≠ block → heap.Untouched last other := by
  have length : (scalar.encode number).length = scalar.size := toDigits256_length ..
  obtain ⟨written, others⟩ := holds.write member (length.trans fits)
  refine ⟨_, written, ?_, others⟩
  -- The bytes that were laid over the block are the digits of the number.
  have digits : ofDigits256 (scalar.encode number) = _ := ofDigits256_toDigits256 ..
  rw [← digits, ← length]
  refine numberAt_eq fun index inside => ?_
  rw [byteAt_eq, put, byteOr0_overlay, if_pos ⟨Nat.le_add_right .., by omega⟩,
    Nat.add_sub_cancel_left]

end Holds

end Heap

end StepMachine
