import Mathlib.Data.Nat.Digits.Defs
import StepMachine.Proofs.Heap.RoundTrip

/-! Integers in memory and the bytes that they are made of: an integer is written as the bytes of
its bits in two's complement, least first, and is read as what these bytes stand for. -/

namespace StepMachine

section Digits

/-- Each byte tells eight bits apart. -/
theorem span256_eq (count : Nat) : span256 count = 2 ^ (8 * count) := by
  -- One byte more multiplies both by as much.
  induction count with
  | zero => rfl
  | succ count ih =>
    rw [span256, ih, Nat.mul_succ, Nat.pow_add, Nat.mul_comm]

/-- The digits of a number, each by itself. -/
theorem toDigits256_getElem {count number index : Nat}
    (inside : index < (toDigits256 count number).length) :
    (toDigits256 count number)[index] = UInt8.ofNat (number / 256 ^ index) := by
  -- The digits behind the first one are those of the quotient.
  induction count generalizing number index with
  | zero => simp [toDigits256] at inside
  | succ count ih =>
    cases index with
    | zero => simp [toDigits256]
    | succ index =>
      have rest := @ih (number / 256) index (by
        simpa [toDigits256, toDigits256_length] using inside)
      simp only [toDigits256, List.getElem_cons_succ, rest]
      rw [Nat.div_div_eq_div_mul, ← Nat.pow_succ']

/-- The number with given digits is the one that they are the digits of in base 256. -/
theorem ofDigits256_eq (bytes : List UInt8) :
    ofDigits256 bytes = Nat.ofDigits 256 (bytes.map (·.toNat)) := by
  -- Both take the first byte as the least digit.
  induction bytes with
  | nil => rfl
  | cons byte rest ih => rw [ofDigits256, ih, List.map_cons, Nat.ofDigits_cons]

/-- A number has no more digits than it was made of. -/
theorem ofDigits256_lt (bytes : List UInt8) : ofDigits256 bytes < span256 bytes.length := by
  -- A digit is less than its base, so the number does not reach the next power.
  induction bytes with
  | nil => exact Nat.one_pos
  | cons byte rest ih =>
    have digit := byte.toNat_lt
    rw [ofDigits256, List.length_cons, span256]
    omega

/-- Digits come back from the number that they make up. -/
theorem toDigits256_ofDigits256 (bytes : List UInt8) :
    toDigits256 bytes.length (ofDigits256 bytes) = bytes := by
  -- The induction is on the bytes, and the first one is the remainder.
  induction bytes with
  | nil => rfl
  | cons byte rest ih =>
    have digit : byte.toNat < 256 := byte.toNat_lt
    -- The first digit is the remainder, and the others are left over by the division.
    have first : UInt8.ofNat (byte.toNat + 256 * ofDigits256 rest) = byte := by
      rw [← UInt8.toNat_inj, UInt8.toNat_ofNat']
      omega
    have others : (byte.toNat + 256 * ofDigits256 rest) / 256 = ofDigits256 rest := by
      omega
    rw [List.length_cons, ofDigits256, toDigits256, first, others, ih]

/-- The residue of a number is what its bits in two's complement make up. -/
theorem residue_eq (count : Nat) (number : Int) :
    residue (span256 count) number = (BitVec.ofInt (8 * count) number).toNat := by
  have some : 0 < span256 count := by
    rw [span256_eq]
    exact Nat.two_pow_pos _
  -- Both are remainders by the same power of two.
  rw [BitVec.toNat_ofInt, ← span256_eq]
  generalize span256 count = span at some
  cases number with
  | ofNat n =>
    rw [residue, Int.ofNat_eq_natCast]
    omega
  | negSucc n =>
    -- Negative numbers count down from the span, as their remainders do.
    have rest := Nat.mod_lt n some
    rw [residue, Int.negSucc_emod n (by omega)]
    omega

end Digits

/-- An offset that stays below the last address is added to an address by plain numbers. -/
theorem Address.toNat_offset {address : Address} {offset : Nat}
    (fits : address.toNat + offset < UInt64.size) :
    (address + UInt64.ofNat offset).toNat = address.toNat + offset := by
  have small : offset < UInt64.size := by omega
  -- The offset itself has an address, and the sum does not wrap around.
  rw [UInt64.toNat_add, UInt64.toNat_ofNat', Nat.mod_eq_of_lt small]
  exact Nat.mod_eq_of_lt fits

/-- The bytes of a number in two's complement, cut from its bits, least first. -/
def twosComplement (size : Nat) (number : Int) : List UInt8 :=
  List.ofFn fun index : Fin size =>
    UInt8.ofBitVec ((BitVec.ofInt (8 * size) number).extractLsb' (8 * index) 8)

namespace Scalar

/-- The numbers that a format has. -/
def Has (scalar : Scalar) (number : Int) : Prop :=
  if scalar.signed then
    -2 ^ (8 * scalar.size - 1) ≤ number ∧ number < 2 ^ (8 * scalar.size - 1)
  else 0 ≤ number ∧ number < 2 ^ (8 * scalar.size)

/-- The format of a byte by itself. -/
abbrev byte : Scalar := ⟨.one, false⟩

/-- The number of a format that bits stand for. -/
def ofBits (scalar : Scalar) (bits : BitVec (8 * scalar.size)) : Int :=
  if scalar.signed then bits.toInt else bits.toNat

/-- A format has at least one byte. -/
theorem size_pos (scalar : Scalar) : 0 < scalar.size := by
  -- There are four widths.
  unfold size
  cases scalar.width <;> decide

/-- What bits make up stands for the same number as they do. -/
theorem ofResidue_toNat (scalar : Scalar) (bits : BitVec (8 * scalar.size)) :
    scalar.ofResidue bits.toNat = scalar.ofBits bits := by
  have small := bits.isLt
  rw [← span256_eq] at small
  -- Only a format with a sign looks at the upper half.
  unfold ofResidue ofBits
  cases scalar.signed with
  | false => simp
  | true =>
    rw [BitVec.toInt_eq_toNat_cond, ← span256_eq]
    by_cases high : span256 scalar.size ≤ 2 * bits.toNat
    · -- The upper half stands for the negative numbers.
      simp only [true_and, if_pos high, if_neg (Nat.not_lt.mpr high), if_true]
      omega
    · simp only [true_and, if_neg high, if_pos (Nat.not_le.mp high), if_true]

/-- A number of the format comes back from its bits. -/
theorem Has.ofBits_ofInt {scalar : Scalar} {number : Int} (has : scalar.Has number) :
    scalar.ofBits (BitVec.ofInt (8 * scalar.size) number) = number := by
  unfold Has at has
  unfold ofBits
  have some := scalar.size_pos
  cases signed : scalar.signed with
  -- Without a sign the bits are the number itself, which fits.
  | false =>
    simp only [signed] at has ⊢
    have small : number % ((2 ^ (8 * scalar.size) : Nat) : Int) = number :=
      Int.emod_eq_of_lt has.1 (by exact_mod_cast has.2)
    simp only [BitVec.toNat_ofInt, small]
    exact Int.toNat_of_nonneg has.1
  | true =>
    simp only [signed, if_true] at has ⊢
    -- The range of the format is one half of all bits below zero and one half from zero on.
    have half : (2 : Int) ^ (8 * scalar.size) = 2 * 2 ^ (8 * scalar.size - 1) := by
      rw [← Int.pow_succ', Nat.sub_add_cancel (by omega)]
    rw [BitVec.toInt_ofInt]
    apply Int.bmod_eq_of_le_mul_two
    · push_cast
      omega
    · push_cast
      omega

/-- Bits stand for a number of the format. -/
theorem has_ofBits (scalar : Scalar) (bits : BitVec (8 * scalar.size)) :
    scalar.Has (scalar.ofBits bits) := by
  -- The bits of a format have just the range of the format.
  unfold Has ofBits
  cases scalar.signed with
  | false =>
    have small : (bits.toNat : Int) < 2 ^ (8 * scalar.size) := by exact_mod_cast bits.isLt
    exact ⟨Int.natCast_nonneg _, small⟩
  | true => exact ⟨bits.le_toInt, bits.toInt_lt⟩

/-- Bits come back from the number that they stand for. -/
theorem ofInt_ofBits (scalar : Scalar) (bits : BitVec (8 * scalar.size)) :
    BitVec.ofInt (8 * scalar.size) (scalar.ofBits bits) = bits := by
  -- With a sign or without one, the bits are the same.
  unfold ofBits
  cases scalar.signed with
  | false => simp
  | true => simp

/-- A number is written as the digits that its bits make up. -/
theorem encode_eq_toDigits256 (scalar : Scalar) (number : Int) :
    scalar.encode number =
      toDigits256 scalar.size (BitVec.ofInt (8 * scalar.size) number).toNat := by
  rw [encode, residue_eq]

/-- These digits are the bytes that its bits are cut into. -/
theorem encode_eq_twosComplement (scalar : Scalar) (number : Int) :
    scalar.encode number = twosComplement scalar.size number := by
  rw [encode_eq_toDigits256]
  -- Both lists have as many bytes as the format, and agree at each position.
  apply List.ext_getElem
  · simp [twosComplement, toDigits256_length]
  · intro index inside within
    rw [toDigits256_getElem inside]
    simp only [twosComplement, List.getElem_ofFn]
    rw [← UInt8.toNat_inj, UInt8.toNat_ofNat', UInt8.toNat_ofBitVec, BitVec.extractLsb'_toNat,
      Nat.shiftRight_eq_div_pow, Nat.pow_mul]

/-- A number of the format comes back from its bytes. -/
theorem Has.decode_encode {scalar : Scalar} {number : Int} (has : scalar.Has number) :
    scalar.decode (scalar.encode number) = number := by
  -- The digits make up the number of the bits, which is below the span.
  have small := (BitVec.ofInt (8 * scalar.size) number).isLt
  rw [← span256_eq] at small
  rw [decode, encode_eq_toDigits256, ofDigits256_toDigits256, Nat.mod_eq_of_lt small,
    ofResidue_toNat, has.ofBits_ofInt]

/-- What bytes stand for is what their bits stand for. -/
theorem decode_eq_ofBits {scalar : Scalar} {bytes : List UInt8}
    (length : bytes.length = scalar.size) :
    scalar.decode bytes =
      scalar.ofBits (BitVec.ofNat (8 * scalar.size) (ofDigits256 bytes)) := by
  -- The digits make up a number below the span, so its bits are all there.
  have small := ofDigits256_lt bytes
  rw [length, span256_eq] at small
  rw [decode, ← ofResidue_toNat, BitVec.toNat_ofNat, Nat.mod_eq_of_lt small]

/-- As many bytes as the format has come back from the number that they stand for. -/
theorem encode_decode {scalar : Scalar} {bytes : List UInt8}
    (length : bytes.length = scalar.size) : scalar.encode (scalar.decode bytes) = bytes := by
  -- From the digits to the bits and back nothing is lost.
  have small := ofDigits256_lt bytes
  rw [length, span256_eq] at small
  rw [encode_eq_toDigits256, decode_eq_ofBits length, ofInt_ofBits, BitVec.toNat_ofNat,
    Nat.mod_eq_of_lt small, ← length, toDigits256_ofDigits256]

end Scalar

namespace Heap

/-- The number at a position is what the bytes from there on make up. -/
theorem numberAt_eq_bytesAt (heap : Heap) (position count : Nat) :
    heap.numberAt position count = ofDigits256 (heap.bytesAt position count []) := by
  have length : (heap.bytesAt position count []).length = count :=
    heap.bytesAt_length position count []
  have same : heap.numberAt position (heap.bytesAt position count []).length =
      ofDigits256 (heap.bytesAt position count []) := by
    -- Each of the bytes stands where it is counted.
    apply numberAt_eq
    intro index inside
    rw [length] at inside
    rw [bytesAt_getD, if_pos inside]
  rwa [length] at same

/-- An integer is read as what the bytes of its range stand for. -/
theorem readScalar_eq_read (heap : Heap) (scalar : Scalar) (address : Address) :
    heap.readScalar scalar address = (heap.read address scalar.size).map scalar.decode := by
  -- The range is found once for both.
  unfold Heap.readScalar Heap.read
  cases heap.locate address scalar.size with
  | error cause => rfl
  | ok offset =>
    show Except.ok (scalar.ofResidue (heap.numberAt offset scalar.size)) = _
    rw [numberAt_eq_bytesAt]
    rfl

/-- Without a sign an integer is the number that its bytes are the digits of. -/
theorem readScalar_unsigned (heap : Heap) (width : Width) (address : Address) :
    heap.readScalar ⟨width, false⟩ address =
      (heap.read address width.bytes).map fun bytes =>
        ((Nat.ofDigits 256 (bytes.map (·.toNat)) : Nat) : Int) := by
  rw [readScalar_eq_read]
  -- Only the upper half of the numbers with a sign stands for something else.
  refine congrArg (Except.map · _) (funext fun bytes => ?_)
  simp [Scalar.decode, Scalar.ofResidue, ofDigits256_eq]

/-- With a sign it is what the same bits stand for in two's complement. -/
theorem readScalar_signed (heap : Heap) (width : Width) (address : Address) :
    heap.readScalar ⟨width, true⟩ address =
      (heap.readScalar ⟨width, false⟩ address).map fun number =>
        (BitVec.ofInt (8 * width.bytes) number).toInt := by
  -- Both read the same bytes, which stand for the same bits.
  rw [readScalar_eq_read, readScalar_eq_read]
  cases read : heap.read address width.bytes with
  | error cause => simp [Scalar.size, read, Except.map]
  | ok bytes =>
    have length : bytes.length = width.bytes := read_length read
    have signed := @Scalar.decode_eq_ofBits ⟨width, true⟩ bytes length
    have plain := @Scalar.decode_eq_ofBits ⟨width, false⟩ bytes length
    have bits := Scalar.ofInt_ofBits ⟨width, false⟩
      (BitVec.ofNat (8 * width.bytes) (ofDigits256 bytes))
    simp only [Scalar.size, read, Except.map, signed, plain]
    exact congrArg (fun bits => Except.ok (BitVec.toInt bits)) bits.symm

/-- A byte that can be accessed is read as the number that it is. -/
theorem Accessible.readByte {heap : Heap} {address : Address}
    (accessible : heap.Accessible address 1) :
    heap.readScalar .byte address = .ok (heap.byteAt (address.toNat - heapBase)).toNat := by
  -- The range of one byte shows that byte.
  have read : heap.read address 1 = .ok [heap.byteAt (address.toNat - heapBase)] := by
    rw [Heap.read, accessible.locate]
    show Except.ok (heap.bytesAt (address.toNat - heapBase) 1 []) = _
    simp [bytesAt]
  rw [readScalar_eq_read]
  simp [Scalar.size, Width.bytes, read, Except.map, Scalar.decode, Scalar.ofResidue, ofDigits256]

/-- An integer that is read stands where every byte can be accessed. -/
theorem accessible_of_readScalar {heap : Heap} {scalar : Scalar} {address : Address} {number : Int}
    (read : heap.readScalar scalar address = .ok number) :
    heap.Accessible address scalar.size := by
  -- What cannot be accessed is not read.
  by_contra inaccessible
  rw [readScalar_inaccessible inaccessible] at read
  cases read

/-- Bytes that can be accessed one by one have addresses one behind the other: no address wraps
around, since nothing is live where it would go on. -/
theorem toNat_add_of_each {heap : Heap} (addressable : heapBase + heap.size ≤ UInt64.size)
    {address : Address} {count : Nat}
    (each : ∀ index < count, heap.Accessible (address + UInt64.ofNat index) 1) {index : Nat}
    (inside : index < count) :
    (address + UInt64.ofNat index).toNat = address.toNat + index := by
  induction index with
  | zero => simp
  | succ index ih =>
    -- The byte in front lies in the arena, and this one does not lie at the null address.
    have before := ((each index (by omega)).inside 0 Nat.one_pos).2
    have here := ((each (index + 1) inside).inside 0 Nat.one_pos).1
    rw [ih (by omega)] at before
    rcases Nat.lt_or_ge (address.toNat + (index + 1)) UInt64.size with fits | wraps
    · exact Address.toNat_offset fits
    · -- The byte would lie right behind the last address, which is the null address.
      have last : address + UInt64.ofNat (index + 1) = 0 := by
        have sum : address.toNat + (index + 1) = 2 ^ 64 := by
          have size : UInt64.size = 2 ^ 64 := rfl
          omega
        rw [← UInt64.toNat_inj, UInt64.toNat_add, UInt64.toNat_ofNat', Nat.add_mod_mod, sum]
        rfl
      rw [last] at here
      exact absurd here (by decide)

/-- A range can be accessed if each of its bytes can. -/
theorem accessible_of_each {heap : Heap} (addressable : heapBase + heap.size ≤ UInt64.size)
    {address : Address} {count : Nat} (some : 0 < count)
    (each : ∀ index < count, heap.Accessible (address + UInt64.ofNat index) 1) :
    heap.Accessible address count := by
  -- The addresses of the bytes are those of the range.
  have first := ((each 0 some).inside 0 Nat.one_pos).1
  rw [toNat_add_of_each addressable each some] at first
  refine ⟨some, fun index inside => ?_, fun index inside => ?_⟩
  · have bounds := (each index inside).inside 0 Nat.one_pos
    rwa [toNat_add_of_each addressable each inside, Nat.add_zero] at bounds
  · have live := (each index inside).live 0 Nat.one_pos
    rw [toNat_add_of_each addressable each inside] at live
    rwa [show address.toNat + index - heapBase + 0 = address.toNat - heapBase + index by omega]
      at live

/-- The bytes of a range are what is read byte by byte. -/
theorem read_eq_ok_iff {heap : Heap} (addressable : heapBase + heap.size ≤ UInt64.size)
    {address : Address} {count : Nat} (some : 0 < count) {bytes : List UInt8} :
    heap.read address count = .ok bytes ↔ bytes.length = count ∧ ∀ index < count,
      heap.readScalar .byte (address + UInt64.ofNat index) = .ok (bytes.getD index 0).toNat := by
  -- A range that can be accessed shows each byte at its own address.
  have each (accessible : heap.Accessible address count) {shown : List UInt8}
      (length : shown.length = count) (shows : heap.Shows address shown) {index : Nat}
      (inside : index < count) : heap.readScalar .byte (address + UInt64.ofNat index) =
        .ok (shown.getD index 0).toNat := by
    have alone := accessible.part addressable Nat.one_pos (show index + 1 ≤ count by omega)
    have low := (accessible.inside 0 some).1
    rw [alone.readByte, accessible.toNat_add addressable inside, ← shows index (by omega),
      show address.toNat + index - heapBase = address.toNat - heapBase + index by omega]
  constructor
  · intro read
    have accessible : heap.Accessible address count := by
      by_contra inaccessible
      rw [read_inaccessible inaccessible] at read
      cases read
    obtain ⟨shown, same, length, shows⟩ := accessible.read
    rw [read] at same
    cases same
    exact ⟨length, fun index inside => each accessible length shows inside⟩
  · rintro ⟨length, read⟩
    have accessible := accessible_of_each addressable some fun index inside =>
      accessible_of_readScalar (read index inside)
    obtain ⟨shown, same, size, shows⟩ := accessible.read
    rw [same]
    -- Byte by byte the two are the same.
    refine congrArg Except.ok (List.ext_getElem (size.trans length.symm) ?_)
    intro index inside within
    have one := (each accessible size shows (by omega)).symm.trans (read index (by omega))
    have equal : (shown.getD index 0).toNat = (bytes.getD index 0).toNat := by
      exact_mod_cast Except.ok.inj one
    simpa [inside, within] using UInt8.toNat_inj.mp equal

/--
Integers and bytes give the same access to memory, for every format, every number, every heap and
every address.

To write an integer is to write the bytes of its bits in two's complement, least first, with the
same result and the same effect; to read one is to read as many bytes and to take what they stand
for.
A number of the format comes back from its bytes, and as many bytes as the format has stand for a
number of the format and come back from it.
What is read as a range is what is read byte by byte at one address after the other; an integer
without a sign is the number that has these bytes as its digits in base 256, least first, and one
with a sign is what the same bits stand for in two's complement.
Only to go byte by byte asks that each byte of the arena has an address of 64 bits, as in every
arena that a host can make.
-/
theorem integers_are_their_bytes :
    (∀ (scalar : Scalar) number address heap, writeScalar scalar address number heap =
      write address (twosComplement scalar.size number) heap) ∧
    (∀ (scalar : Scalar) (heap : Heap) address, heap.readScalar scalar address =
      (heap.read address scalar.size).map scalar.decode) ∧
    (∀ (scalar : Scalar) number, scalar.Has number →
      scalar.decode (scalar.encode number) = number) ∧
    (∀ (scalar : Scalar) bytes, bytes.length = scalar.size →
      scalar.Has (scalar.decode bytes) ∧ scalar.encode (scalar.decode bytes) = bytes) ∧
    (∀ heap : Heap, heapBase + heap.size ≤ UInt64.size → ∀ (width : Width) address bytes,
      heap.read address width.bytes = .ok bytes ↔
        bytes.length = width.bytes ∧ ∀ index < width.bytes,
          heap.readScalar ⟨.one, false⟩ (address + UInt64.ofNat index) =
            .ok (bytes.getD index 0).toNat) ∧
    ∀ (heap : Heap) (width : Width) address,
      heap.readScalar ⟨width, false⟩ address =
        (heap.read address width.bytes).map (fun bytes =>
          ((Nat.ofDigits 256 (bytes.map (·.toNat)) : Nat) : Int)) ∧
      heap.readScalar ⟨width, true⟩ address =
        (heap.readScalar ⟨width, false⟩ address).map (fun number =>
          (BitVec.ofInt (8 * width.bytes) number).toInt) := by
  refine ⟨fun scalar number address heap => ?_, fun scalar heap address => ?_,
    fun scalar number has => has.decode_encode, fun scalar bytes length => ⟨?_, ?_⟩,
    fun heap addressable width address bytes => ?_, fun heap width address => ⟨?_, ?_⟩⟩
  · -- The bytes that are written are those of two's complement.
    rw [writeScalar, Scalar.encode_eq_twosComplement]
  · exact heap.readScalar_eq_read scalar address
  · -- What bits stand for is a number of the format.
    rw [Scalar.decode_eq_ofBits length]
    exact scalar.has_ofBits _
  · exact Scalar.encode_decode length
  · -- A range that is not empty is read byte by byte.
    exact read_eq_ok_iff addressable (Scalar.size_pos ⟨width, false⟩)
  · exact heap.readScalar_unsigned width address
  · exact heap.readScalar_signed width address

end Heap

end StepMachine
