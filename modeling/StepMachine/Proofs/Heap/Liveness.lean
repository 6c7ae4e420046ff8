import StepMachine.Proofs.Heap.Stores

/-! Every access to memory goes through just where each byte of its range lies in the arena and in a
live unit, and a failed one leaves everything as it is. -/

namespace StepMachine

namespace Heap

/-- A range that is not empty and of which every byte lies in the arena and in a live unit. The
range is one of plain numbers, so that it may reach past the last address. -/
structure Accessible (heap : Heap) (address : Address) (length : Nat) : Prop where
  some : 0 < length
  inside : ∀ index, index < length →
    heapBase ≤ address.toNat + index ∧ address.toNat + index < heapBase + heap.size
  live : ∀ index, index < length →
    heap.unitLive ((address.toNat - heapBase + index) / heap.unit) = true

/-- Each unit that a range touches has a byte of the range. -/
theorem exists_byte_of_unit {unit offset length : Nat} (index : Nat) (pos : 0 < unit)
    (lower : offset / unit ≤ index) (upper : index ≤ (offset + length - 1) / unit)
    (some : 0 < length) : ∃ position, position < length ∧ (offset + position) / unit = index := by
  -- The unit starts in front of the range, or with a byte of it.
  have start : index * unit ≤ offset + length - 1 := (Nat.le_div_iff_mul_le pos).mp upper
  by_cases first : index * unit ≤ offset
  · refine ⟨0, some, ?_⟩
    have same : index ≤ offset / unit := (Nat.le_div_iff_mul_le pos).mpr first
    rw [Nat.add_zero]
    omega
  · refine ⟨index * unit - offset, by omega, ?_⟩
    rw [show offset + (index * unit - offset) = index * unit by omega,
      Nat.mul_div_cancel _ pos]

/-- A range whose bytes are all live is found in the arena. -/
theorem Accessible.locate {heap : Heap} {address : Address} {length : Nat}
    (accessible : heap.Accessible address length) :
    heap.locate address length = .ok (address.toNat - heapBase) := by
  -- The range lies in the arena, so the first check lets it pass.
  have some := accessible.some
  have first := accessible.inside 0 some
  have last := accessible.inside (length - 1) (by omega)
  have proper : ¬ (address.toNat < heapBase ∨ length = 0 ∨
      heap.size < address.toNat - heapBase + length) := by
    omega
  unfold Heap.locate
  dsimp only
  rw [if_neg proper, if_pos]
  -- Each unit that is looked at has a byte of the range, which is live.
  apply allLive_of_all
  intro unit lower upper
  obtain ⟨index, within, same⟩ :=
    exists_byte_of_unit unit heap.unit_pos lower (by omega) some
  have live := accessible.live index within
  rw [same] at live
  exact live

/-- The byte `offset` places on in an arena that has addresses. -/
theorem Accessible.toNat_add {heap : Heap} {address : Address} {length : Nat}
    (accessible : heap.Accessible address length)
    (addressable : heapBase + heap.size ≤ UInt64.size) {offset : Nat} (inside : offset < length) :
    (address + UInt64.ofNat offset).toNat = address.toNat + offset := by
  -- The byte lies in the arena, whose addresses all fit.
  have bound := (accessible.inside offset inside).2
  have small : offset < UInt64.size := by omega
  rw [UInt64.toNat_add, UInt64.toNat_ofNat', Nat.mod_eq_of_lt small, Nat.mod_eq_of_lt]
  show _ < UInt64.size
  omega

/-- A part of an accessible range is accessible, if it is not empty. -/
theorem Accessible.part {heap : Heap} {address : Address} {length offset count : Nat}
    (accessible : heap.Accessible address length)
    (addressable : heapBase + heap.size ≤ UInt64.size) (some : 0 < count)
    (within : offset + count ≤ length) :
    heap.Accessible (address + UInt64.ofNat offset) count := by
  -- The part starts at an address of its own, behind that of the range.
  have start := accessible.toNat_add addressable (show offset < length by omega)
  have first := accessible.inside 0 accessible.some
  refine ⟨some, fun index inside => ?_, fun index inside => ?_⟩
  · have bounds := accessible.inside (offset + index) (by omega)
    rw [start]
    omega
  · have live := accessible.live (offset + index) (by omega)
    rw [start]
    rwa [show address.toNat + offset - heapBase + index =
      address.toNat - heapBase + (offset + index) by omega]

/-- A range that is found passes both checks: it lies in the arena, and its units are live. -/
theorem checks_of_locate {heap : Heap} {address : Address} {length offset : Nat}
    (located : heap.locate address length = .ok offset) :
    (heapBase ≤ address.toNat ∧ 0 < length ∧ address.toNat - heapBase + length ≤ heap.size) ∧
      allLive heap.live ((address.toNat - heapBase) / heap.unit)
        ((address.toNat - heapBase + length - 1) / heap.unit + 1 -
          (address.toNat - heapBase) / heap.unit) = true := by
  -- Either check would have refused the range otherwise.
  unfold Heap.locate at located
  dsimp only at located
  by_cases outside : address.toNat < heapBase ∨ length = 0 ∨
      heap.size < address.toNat - heapBase + length
  · rw [if_pos outside] at located
    cases located
  · rw [if_neg outside] at located
    refine ⟨by omega, ?_⟩
    apply Decidable.byContradiction
    intro dead
    rw [if_neg dead] at located
    cases located

/-- A unit of a run that passes the check is live. -/
theorem unitLive_of_allLive {heap : Heap} {first count unit : Nat}
    (all : allLive heap.live first count = true) (lower : first ≤ unit)
    (upper : unit < first + count) : heap.unitLive unit = true :=
  live_of_allLive all lower upper

/-- A range that is found in the arena has only live bytes. -/
theorem accessible_of_locate {heap : Heap} {address : Address} {length offset : Nat}
    (located : heap.locate address length = .ok offset) : heap.Accessible address length := by
  obtain ⟨bounds, all⟩ := checks_of_locate located
  refine ⟨by omega, fun index within => by omega, fun index within => ?_⟩
  -- The unit of the byte lies between those of the first and of the last one.
  have lower : (address.toNat - heapBase) / heap.unit ≤
      (address.toNat - heapBase + index) / heap.unit := Nat.div_le_div_right (by omega)
  have upper : (address.toNat - heapBase + index) / heap.unit ≤
      (address.toNat - heapBase + length - 1) / heap.unit := Nat.div_le_div_right (by omega)
  exact unitLive_of_allLive all lower (by omega)

/-- Any other range is refused, and told as it was asked for. -/
theorem locate_inaccessible {heap : Heap} {address : Address} {length : Nat}
    (inaccessible : ¬ heap.Accessible address length) :
    heap.locate address length = .error (.invalidAccess address length) := by
  -- A range that passes both checks is accessible.
  cases located : heap.locate address length with
  | ok offset => exact absurd (accessible_of_locate located) inaccessible
  | error cause =>
    -- Both checks tell the same.
    unfold Heap.locate at located
    dsimp only at located
    split at located
    · exact located.symm
    · split at located
      · cases located
      · exact located.symm

/-- The bytes from an address on are the given ones. -/
def Shows (heap : Heap) (address : Address) (bytes : List UInt8) : Prop :=
  ∀ index, index < bytes.length →
    heap.byteAt (address.toNat - heapBase + index) = bytes.getD index 0

/-- The bytes from an address on have become the given ones, and nothing else has changed. -/
structure Overwritten (heap : Heap) (address : Address) (bytes : List UInt8) (last : Heap) :
    Prop where
  shows : last.Shows address bytes
  others : ∀ position, ¬ (address.toNat ≤ heapBase + position ∧
    heapBase + position < address.toNat + bytes.length) →
    last.byteAt position = heap.byteAt position
  live : last.live = heap.live
  used : last.used = heap.used
  unit : last.unit = heap.unit
  units : last.units = heap.units

/-- The bytes in front of others, one by one. -/
theorem bytesAt_getD (heap : Heap) (position count index : Nat) (behind : List UInt8) :
    (heap.bytesAt position count behind).getD index 0 =
      if index < count then heap.byteAt (position + index) else behind.getD (index - count) 0 := by
  -- The last byte is put in front of the others first.
  induction count generalizing behind with
  | zero => simp [bytesAt]
  | succ count ih =>
    rw [bytesAt, ih]
    -- The byte that is put in front is the one behind all the others that are counted.
    by_cases early : index < count
    · rw [if_pos early, if_pos (by omega)]
    · rw [if_neg early]
      by_cases last : index = count
      · subst last
        simp
      · rw [if_neg (by omega), show index - count = index - (count + 1) + 1 by omega,
          List.getD_cons_succ]

/-- What is read of a range is what it shows. -/
theorem Accessible.read {heap : Heap} {address : Address} {length : Nat}
    (accessible : heap.Accessible address length) :
    ∃ bytes, heap.read address length = .ok bytes ∧ bytes.length = length ∧
      heap.Shows address bytes := by
  -- The bytes are listed from the offset of the range on.
  have size : (heap.bytesAt (address.toNat - heapBase) length []).length = length :=
    heap.bytesAt_length _ length []
  refine ⟨heap.bytesAt (address.toNat - heapBase) length [], ?_, size, ?_⟩
  · unfold Heap.read
    rw [accessible.locate]
    rfl
  · intro index within
    rw [size] at within
    rw [bytesAt_getD, if_pos within]

/-- What cannot be accessed is not read, and the range is told as it was asked for. -/
theorem read_inaccessible {heap : Heap} {address : Address} {length : Nat}
    (inaccessible : ¬ heap.Accessible address length) :
    heap.read address length = .error (.invalidAccess address length) := by
  -- The check fails before anything is read.
  unfold Heap.read
  rw [locate_inaccessible inaccessible]
  rfl

/-- Bytes that are written over a range stand there, and all else stays. -/
theorem Accessible.write {heap : Heap} {address : Address} {bytes : List UInt8}
    (accessible : heap.Accessible address bytes.length) :
    ∃ last, write address bytes heap = .ok () last ∧ heap.Overwritten address bytes last := by
  -- The bytes are laid over those of the range.
  have first := accessible.inside 0 accessible.some
  refine ⟨heap.put (address.toNat - heapBase) bytes, ?_, ?_, ?_, rfl, rfl, rfl, rfl⟩
  · unfold Heap.write
    rw [accessible.locate]
  · intro index within
    rw [byteAt_eq, put, byteOr0_overlay, if_pos (by omega), Nat.add_sub_cancel_left]
  · intro position outside
    rw [byteAt_eq, byteAt_eq, put, byteOr0_overlay, if_neg (by omega)]

/-- What cannot be accessed is not written over. -/
theorem write_inaccessible {heap : Heap} {address : Address} {bytes : List UInt8}
    (inaccessible : ¬ heap.Accessible address bytes.length) :
    write address bytes heap = .error (.invalidAccess address bytes.length) heap := by
  -- The check fails before anything is written.
  unfold Heap.write
  rw [locate_inaccessible inaccessible]

/-- An integer is read from the bytes that the range of its width shows. -/
theorem Accessible.readScalar {heap : Heap} {address : Address} {scalar : Scalar}
    (accessible : heap.Accessible address scalar.size) :
    ∃ bytes, heap.readScalar scalar address = .ok (scalar.decode bytes) ∧
      bytes.length = scalar.size ∧ heap.Shows address bytes := by
  -- The bytes of the range are read first, and the integer is made of them.
  obtain ⟨bytes, -, size, shows⟩ := accessible.read
  refine ⟨bytes, ?_, size, shows⟩
  have number : heap.numberAt (address.toNat - heapBase) scalar.size = ofDigits256 bytes := by
    rw [← size]
    exact numberAt_eq shows
  unfold Heap.readScalar
  rw [accessible.locate, Scalar.decode, ← number]
  rfl

/-- Nor is an integer read from there. -/
theorem readScalar_inaccessible {heap : Heap} {address : Address} {scalar : Scalar}
    (inaccessible : ¬ heap.Accessible address scalar.size) :
    heap.readScalar scalar address = .error (.invalidAccess address scalar.size) := by
  -- The check is the one for bytes.
  unfold Heap.readScalar
  rw [locate_inaccessible inaccessible]
  rfl

/-- Bytes of an accessible range are moved over another one, which they may overlap: all of them are
read before the first is written. -/
theorem Accessible.copy {heap : Heap} {target source : Address} {length : Nat}
    (readable : heap.Accessible source length) (writable : heap.Accessible target length) :
    ∃ bytes last, Heap.copy target source length heap = .ok () last ∧ bytes.length = length ∧
      heap.Shows source bytes ∧ heap.Overwritten target bytes last := by
  -- All bytes have been read when the first one is written.
  obtain ⟨bytes, read, size, shows⟩ := readable.read
  subst size
  obtain ⟨last, wrote, overwritten⟩ := writable.write
  refine ⟨bytes, last, ?_, rfl, shows, overwritten⟩
  have some := readable.some
  unfold Heap.copy
  rw [if_neg (by omega), read]
  exact wrote

/-- The range that bytes are to be moved from is checked first. -/
theorem copy_unreadable {heap : Heap} {target source : Address} {length : Nat} (some : 0 < length)
    (unreadable : ¬ heap.Accessible source length) :
    copy target source length heap = .error (.invalidAccess source length) heap := by
  -- To move something needs its source.
  unfold Heap.copy
  rw [if_neg (by omega), read_inaccessible unreadable]

/-- Then the range is checked that they are to be moved to. -/
theorem Accessible.copy_unwritable {heap : Heap} {target source : Address} {length : Nat}
    (readable : heap.Accessible source length) (unwritable : ¬ heap.Accessible target length) :
    Heap.copy target source length heap = .error (.invalidAccess target length) heap := by
  -- The source is read, and then the target is refused.
  obtain ⟨bytes, read, size, -⟩ := readable.read
  subst size
  have some := readable.some
  unfold Heap.copy
  rw [if_neg (by omega), read]
  exact write_inaccessible unwritable

/-- A range is live just if it is accessible. -/
theorem isLive_iff {heap : Heap} {address : Address} {length : Nat} :
    heap.isLive address length = true ↔ heap.Accessible address length := by
  -- To ask whether a range is live is to run the check and to drop its result.
  unfold Heap.isLive
  constructor
  · intro live
    cases located : heap.locate address length with
    | ok offset => exact accessible_of_locate located
    | error cause =>
      rw [located] at live
      cases live
  · intro accessible
    rw [accessible.locate]
    rfl

/--
Memory is accessed just where it is live, at every address, for every length and on every heap,
however it came about.

A range counts as accessible if it is not empty and each of its bytes, by plain numbers, lies in the
arena and in a live unit.
To be live, to be read, to be written over, and to be read or written over as an integer of its
width succeeds just for such ranges.
What is read is what stands there; what is written stands there afterwards, and no other byte, no
unit and no count has changed.
To move bytes, at least one, succeeds just if both ranges are accessible; then what stood in the
first range stands in the second, also if the two overlap.
Whatever fails leaves the heap as it is and tells the range as it was asked for; of two ranges the
one to be read is checked first.
-/
theorem accesses_gated_by_liveness (heap : Heap) (address : Address) (length : Nat) :
    (heap.isLive address length = true ↔ heap.Accessible address length) ∧
    ((heap.Accessible address length → ∃ bytes, heap.read address length = .ok bytes ∧
        bytes.length = length ∧ heap.Shows address bytes) ∧
      (¬ heap.Accessible address length →
        heap.read address length = .error (.invalidAccess address length))) ∧
    (∀ bytes : List UInt8,
      (heap.Accessible address bytes.length →
        ∃ last, write address bytes heap = .ok () last ∧ heap.Overwritten address bytes last) ∧
      (¬ heap.Accessible address bytes.length →
        write address bytes heap = .error (.invalidAccess address bytes.length) heap)) ∧
    (∀ scalar : Scalar,
      (heap.Accessible address scalar.size → ∃ bytes,
        heap.readScalar scalar address = .ok (scalar.decode bytes) ∧
          bytes.length = scalar.size ∧ heap.Shows address bytes) ∧
      (¬ heap.Accessible address scalar.size →
        heap.readScalar scalar address = .error (.invalidAccess address scalar.size)) ∧
      ∀ number,
        (heap.Accessible address scalar.size →
          ∃ last, writeScalar scalar address number heap = .ok () last ∧
            heap.Overwritten address (scalar.encode number) last) ∧
        (¬ heap.Accessible address scalar.size → writeScalar scalar address number heap =
          .error (.invalidAccess address scalar.size) heap)) ∧
    ∀ source, 0 < length →
      (heap.Accessible source length → heap.Accessible address length →
        ∃ bytes last, copy address source length heap = .ok () last ∧ bytes.length = length ∧
          heap.Shows source bytes ∧ heap.Overwritten address bytes last) ∧
      (¬ heap.Accessible source length →
        copy address source length heap = .error (.invalidAccess source length) heap) ∧
      (heap.Accessible source length → ¬ heap.Accessible address length →
        copy address source length heap = .error (.invalidAccess address length) heap) := by
  refine ⟨isLive_iff, ⟨Accessible.read, read_inaccessible⟩,
    fun bytes => ⟨Accessible.write, write_inaccessible⟩,
    fun scalar => ⟨Accessible.readScalar, readScalar_inaccessible, fun number => ?_⟩,
    fun source some => ⟨Accessible.copy, copy_unreadable some, Accessible.copy_unwritable⟩⟩
  -- An integer is written as its digits, of which there are as many as its width has bytes.
  have size : (scalar.encode number).length = scalar.size := toDigits256_length ..
  rw [← size]
  exact ⟨Accessible.write, write_inaccessible⟩

end Heap

end StepMachine
