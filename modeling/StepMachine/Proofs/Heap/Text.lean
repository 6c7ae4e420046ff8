import StepMachine.Proofs.Exec.Run
import StepMachine.Proofs.Heap.RoundTrip
import StepMachine.Proofs.Text.Utf8

/-! Texts in memory: what is written with a zero byte behind it is read back up to its first zero
character. -/

namespace StepMachine

namespace Heap

variable {heap last : Heap} {address : Address}

/-- What a range shows from a place on. -/
theorem Shows.drop {bytes : List UInt8} (shows : heap.Shows address bytes)
    (accessible : heap.Accessible address bytes.length)
    (addressable : heapBase + heap.size ≤ UInt64.size) {offset : Nat}
    (inside : offset < bytes.length) :
    heap.Shows (address + UInt64.ofNat offset) (bytes.drop offset) := by
  -- Counted from its own start, the rest of the range shows the rest of the bytes.
  have start := accessible.toNat_add addressable inside
  have first := accessible.inside 0 accessible.some
  intro index within
  rw [List.length_drop] at within
  have same := shows (offset + index) (by omega)
  rw [start, show address.toNat + offset - heapBase + index =
    address.toNat - heapBase + (offset + index) by omega, same]
  simp

/-- What a range shows is read from it. -/
theorem Shows.read {bytes : List UInt8} (shows : heap.Shows address bytes)
    (accessible : heap.Accessible address bytes.length) :
    heap.read address bytes.length = .ok bytes := by
  -- Byte by byte, what is read is what is shown.
  obtain ⟨found, read, length, seen⟩ := accessible.read
  rw [read]
  refine congrArg Except.ok (List.ext_getElem length fun index inside within => ?_)
  have same := (seen index inside).symm.trans (shows index within)
  simpa [inside, within] using same

/-- From a range with a zero byte, what stands in front of the first one is read, if the search goes
so far. -/
theorem Shows.bytesToZero {bytes : List UInt8} (shows : heap.Shows address bytes)
    (accessible : heap.Accessible address bytes.length)
    (addressable : heapBase + heap.size ≤ UInt64.size) (ends : 0 ∈ bytes) {left : Nat}
    (enough : bytes.length ≤ left) :
    heap.bytesToZero left address = .ok (bytes.takeWhile (· ≠ 0)) := by
  -- Each turn of the search drops one byte of the range.
  induction bytes generalizing address left with
  | nil => cases ends
  | cons byte rest ih =>
    obtain ⟨left, rfl⟩ : ∃ fewer, left = fewer + 1 := ⟨left - 1, by simp at enough; omega⟩
    -- The first byte is read on its own, since it is accessible and shown.
    have here : heap.read address 1 = .ok [byte] := by
      have one : heap.Accessible address 1 := ⟨Nat.one_pos,
        fun index inside => accessible.inside index (by simp; omega),
        fun index inside => accessible.live index (by simp; omega)⟩
      have shown : heap.Shows address [byte] := fun index inside => by
        have first : index = 0 := by simpa using inside
        simpa [first] using shows 0 (by simp)
      exact shown.read one
    rw [Heap.bytesToZero, here]
    show (if byte = 0 then Except.ok [] else do
      return byte :: (← heap.bytesToZero left (address + 1))) = _
    by_cases zero : byte = 0
    · -- At a zero byte the search ends.
      simp [zero]
    · -- Any other byte is kept, and the search goes on behind it.
      have later : 0 ∈ rest := (List.mem_cons.mp ends).resolve_left (Ne.symm zero)
      have some := List.length_pos_of_mem later
      have shown : heap.Shows (address + UInt64.ofNat 1) rest :=
        shows.drop accessible addressable (by simpa using some)
      have next : heap.Accessible (address + UInt64.ofNat 1) rest.length :=
        accessible.part addressable some (by simp; omega)
      have behind := ih shown next later (by simpa using enough)
      rw [if_neg zero, show address + 1 = address + UInt64.ofNat 1 from rfl, behind]
      simp [zero, bind, Except.bind, pure, Except.pure]

/-- A text that stands in memory with a zero byte behind it is read up to its first zero
character. -/
theorem Shows.readText {text : String} (shows : heap.Shows address (utf8Bytes text ++ [0]))
    (accessible : heap.Accessible address ((utf8Bytes text).length + 1))
    (addressable : heapBase + heap.size ≤ UInt64.size) :
    heap.readText address = .ok (cutAtZero text) := by
  -- The range has the bytes of the text and one more.
  have length : (utf8Bytes text ++ [0]).length = (utf8Bytes text).length + 1 := by simp
  have bounds := accessible.inside (utf8Bytes text).length (Nat.lt_succ_self _)
  have first := accessible.inside 0 accessible.some
  rw [← length] at accessible
  -- No more bytes are looked at than the arena has.
  have read := shows.bytesToZero accessible addressable (by simp)
    (show _ ≤ heap.size + 1 by rw [length]; omega)
  rw [Heap.readText, read, takeWhile_utf8Bytes]
  show Except.ok (Utf8.decode (utf8Bytes (cutAtZero text))) = _
  rw [Utf8.decode_utf8Bytes]

/-- What a block shows stays if the block is not touched. -/
theorem Shows.untouched {block : Block} {bytes : List UInt8}
    (shows : heap.Shows block.address bytes) (size : bytes.length = block.size)
    (same : heap.Untouched last block) : last.Shows block.address bytes :=
  fun index inside => (same index (size ▸ inside)).trans (shows index inside)

namespace Holds

variable {blocks : List Block} {block : Block}

/-- A block that is held is accessible in its whole size. -/
theorem accessible (holds : heap.Holds blocks) (member : block ∈ blocks) :
    heap.Accessible block.address block.size := accessible_of_locate (holds.locate member)

/-- Two different blocks that are held lie apart. -/
theorem disjoint (holds : heap.Holds blocks) {other : Block} (member : block ∈ blocks)
    (also : other ∈ blocks) (differ : block ≠ other) :
    block.address.toNat + block.size ≤ other.address.toNat ∨
      other.address.toNat + other.size ≤ block.address.toNat := by
  -- Neither of them starts within the other one.
  have one := holds.bytes_apart member also differ (holds.seated block member).size_pos
  have two := holds.bytes_apart also member differ.symm (holds.seated other also).size_pos
  have first := (holds.seated block member).address
  have second := (holds.seated other also).address
  omega

/-- A text that was written over a block that is held stands there with a zero byte behind it, and
no other block is touched. -/
theorem writeText (holds : heap.Holds blocks) (member : block ∈ blocks) {bytes : List UInt8}
    (size : block.size = bytes.length + 1) (wrote : block.writeText bytes heap = .ok () last) :
    last.Holds blocks ∧ last.Shows block.address (bytes ++ [0]) ∧
      ∀ other ∈ blocks, other ≠ block → heap.Untouched last other := by
  -- The text is written first and the zero byte behind it, each over its own range.
  obtain ⟨_, middle, text, zero⟩ := exists_of_bind_ok wrote
  have changed := Block.write_rewrites block 0 bytes heap
  have again := Block.write_rewrites block bytes.length [0] middle
  rw [Edit.after, text] at changed
  rw [Edit.after, zero] at again
  -- The block lies within the addresses, so its places are plain numbers.
  have whole := holds.accessible member
  have seat := (holds.seated block member).address
  have start := whole.toNat_add holds.addressable (show 0 < block.size by omega)
  have behind := whole.toNat_add holds.addressable (show bytes.length < block.size by omega)
  rw [Block.write_within (by omega)] at text
  rw [Block.write_within (by simp; omega)] at zero
  obtain ⟨-, written⟩ := write_eq_ok text
  obtain ⟨-, ended⟩ := write_eq_ok zero
  refine ⟨(changed.trans again).holds holds, fun index inside => ?_,
    fun other also differ index inside => ?_⟩
  · rw [List.length_append, List.length_singleton] at inside
    -- The last byte is the zero, and all others are the text's.
    by_cases final : index = bytes.length
    · have shown := ended.shows 0 (by simp)
      rw [behind, show block.address.toNat + bytes.length - heapBase + 0 =
        block.address.toNat - heapBase + bytes.length by omega] at shown
      rw [final, shown]
      simp
    · -- The zero byte behind the text leaves the text alone.
      have shown := written.shows index (by omega)
      rw [start, Nat.add_zero] at shown
      rw [ended.others _ (by rw [behind]; simp; omega), shown]
      simp [List.getElem?_append, show index < bytes.length by omega]
  · -- Another block shares no place with this one.
    have apart := holds.disjoint also member differ
    have seated := (holds.seated other also).address
    rw [ended.others _ (by rw [behind]; simp; omega),
      written.others _ (by rw [start]; omega)]

end Holds

end Heap

end StepMachine
