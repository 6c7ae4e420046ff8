import StepMachine.Proofs.Heap.Packed
import StepMachine.Proofs.Heap.Stores
import StepMachine.Proofs.Wary.Basic

/-! The heap with a look before every operation on it that is not always possible. Which units are
live stands in words of 64 bits, and the bytes stand in one array; both are as long as the arena
asks for. Sizes, offsets and addresses are machine words. -/

namespace StepMachine

open Wary (Agrees)

/-- Only a structure is converted to a structure, and it stays as it is. -/
theorem Value.coerce_eq_struct {value : Value} {type : CType} {source : Address}
    {definition : StructDef} (coerced : value.coerce type = .ok (.struct source definition)) :
    value = .struct source definition := by
  -- Only an integer and a structure are converted by a test, and an integer never to a structure.
  cases value with
  | void => cases type <;> cases coerced
  | char c => cases type <;> cases coerced
  | pointer address => cases type <;> cases coerced
  | int n =>
    cases type with
    | pointer target =>
      unfold coerce at coerced
      dsimp only at coerced
      split at coerced <;> cases coerced
    | _ => cases coerced
  | struct address definition =>
    cases type with
    | struct name fields =>
      unfold coerce at coerced
      dsimp only at coerced
      split at coerced <;> cases coerced
      rfl
    | _ => cases coerced

namespace Heap

section Definitions

/-- The number of words that hold a bit for each unit. -/
def words (heap : Heap) : Nat := (heap.units + 63) / 64

/-- Whether a unit is live, if there is a word for it. -/
def bit? (heap : Heap) (unit : Nat) : Option Bool :=
  if unit / 64 < heap.words then some (heap.unitLive unit) else none

/-- Goes through the bits of `count` units from `first` on to change them. -/
def mark? (heap : Heap) (first : Nat) : (count : Nat) → Option Unit
  | 0 => some ()
  | count + 1 => do
    let _ ← heap.bit? first
    heap.mark? (first + 1) count

/-- Whether `count` units from `first` on are all live. -/
def allLive? (heap : Heap) (first : Nat) : (count : Nat) → Option Bool
  | 0 => some true
  | count + 1 => do
    if ← heap.bit? first then heap.allLive? (first + 1) count else return false

/-- How many of `count` units from `first` on are live, beside `found` others. -/
def countLive? (heap : Heap) (first : Nat) : (count found : Nat) → Option Nat
  | 0, found => some found
  | count + 1, found => do
    heap.countLive? (first + 1) count (if ← heap.bit? first then found + 1 else found)

/-- Looks through `left` units from `next` on for a run of `needed` free ones, knowing that the
`length` units from `start` on are free up to there. -/
def findRun? (heap : Heap) (needed : Nat) : (left next start length : Nat) → Option (Option Nat)
  | 0, _, _, _ => some none
  | left + 1, next, start, length => do
    let behind ← word (next + 1)
    if ← heap.bit? next then heap.findRun? needed left behind behind 0
    else
      let length ← word (length + 1)
      if length = needed then return some start
      else heap.findRun? needed left behind start length

/-- Hands out the lowest free run that holds `size` bytes. No more units are used than there are. -/
def allocate? (size : Nat) : Wary MemoryError Heap Block := fun heap =>
  if size = 0 then some (.error .zeroSizedAllocation heap)
  -- The checks stand in the order of the search: for nothing, for too much, for a run.
  else do
    let needed := heap.unitsFor size
    let free ← difference heap.units heap.used
    let available ← word (free * heap.unit)
    if heap.units < needed then return .error (.outOfMemory size available) heap
    match ← heap.findRun? needed heap.units 0 0 0 with
    | none => return .error (.outOfMemory size available) heap
    | some first =>
      let _ ← word (first + needed)
      heap.mark? first needed
      let used ← word (heap.used + needed)
      let _ ← difference heap.units used
      let offset ← word (first * heap.unit)
      let address ← word (heapBase + offset)
      return .ok ⟨UInt64.ofNat address, size, true⟩
        { heap with live := takeUnits first needed heap.live, used }

/-- Frees the units of an owning block; any other block changes nothing. -/
def release? (heap : Heap) (block : Block) : Option Heap :=
  if block.owning ∧ heapBase ≤ block.address.toNat then do
    let first := heap.firstUnit block
    let count := heap.unitsFor block.size
    let last ← word (first + count)
    if heap.units < last then return heap
    let freed ← heap.countLive? first count 0
    heap.mark? first count
    let used ← difference heap.used freed
    return { heap with live := freeUnits first count heap.live, used }
  else some heap

/-- Frees the units of all owning blocks of a list. -/
def releaseAll? (heap : Heap) : List Block → Option Heap
  | [] => some heap
  | block :: blocks => do (← heap.release? block).releaseAll? blocks

/-- Frees the units of blocks as a change to the heap. -/
def free? (blocks : List Block) : Wary ε Heap Unit := fun heap =>
  (heap.releaseAll? blocks).map (.ok ())

/-- Where a range starts within the arena, if it can be accessed. -/
def locate? (heap : Heap) (address : Address) (length : Nat) : Option (Except MemoryError Nat) :=
  let offset := address.toNat - heapBase
  if address.toNat < heapBase ∨ length = 0 ∨ heap.size < offset + length then
    some (.error (.invalidAccess address length))
  else do
    -- The last byte decides which unit is the last one to be looked at.
    let final ← difference (offset + length) 1
    let first := offset / heap.unit
    let last := final / heap.unit
    if ← heap.allLive? first (last + 1 - first) then return .ok offset
    else return .error (.invalidAccess address length)

/-- Takes a range out of the bytes of the arena. -/
def slice? (heap : Heap) (offset length : Nat) : Option Unit := do
  let last ← word (offset + length)
  if last ≤ heap.size then return () else none

/-- Accesses a range of bytes, if it is live. -/
def reach? (heap : Heap) (address : Address) (length : Nat) : Option Unit := do
  match ← heap.locate? address length with
  | .ok offset => heap.slice? offset length
  | .error _ => return ()

/-- Moves bytes between two ranges; to move none accesses neither. -/
def move? (heap : Heap) (target source : Address) (length : Nat) : Option Unit :=
  if length = 0 then some ()
  else do
    heap.reach? source length
    heap.reach? target length

/-- Reads the object of a type at an address. The storage of a structure is not read. -/
def load? (heap : Heap) (address : Address) (type : CType) : Option Unit := do
  let size ← word type.size
  match type with
  | .void => return ()
  | .struct _ _ =>
    let _ ← heap.locate? address size
    return ()
  | _ => heap.reach? address size

/-- Makes the object of a type at an address hold a value. -/
def store? (heap : Heap) (address : Address) (type : CType) (value : Value) : Option Unit :=
  match value.coerce type with
  | .error _ | .ok .void => some ()
  | .ok (.struct source definition) => do heap.move? address source (← word definition.size)
  | .ok other => heap.reach? address other.storedSize

/-- Reads bytes up to a zero byte, of which `offset` are read already. -/
def text? (heap : Heap) : (left offset : Nat) → Address → Option Unit
  | 0, _, _ => some ()
  | left + 1, offset, address => do
    heap.reach? address 1
    match heap.read address 1 with
    | .ok (byte :: _) =>
      if byte = 0 then return () else heap.text? left (← word (offset + 1)) (address + 1)
    | _ => return ()

/-- Reads the text that a zero byte ends. -/
def readText? (heap : Heap) (address : Address) : Option Unit :=
  heap.text? (heap.size + 1) 0 address

end Definitions

/-- A heap whose books are right: no unit behind the arena was ever handed out, those that are live
are counted as used, and every byte has an address. -/
structure Tidy (heap : Heap) : Prop where
  bounded : heap.Bounded
  counted : heap.used = countLive heap.live 0 heap.units 0
  addressable : heapBase + heap.size ≤ UInt64.size

/-- The books are right where the blocks that are held make them up. -/
theorem Holds.tidy {heap : Heap} {blocks : List Block} (holds : heap.Holds blocks) : heap.Tidy :=
  ⟨holds.bounded, holds.used_eq_countLive, holds.addressable⟩

variable {heap : Heap}

namespace Tidy

/-- No more units are used than there are. -/
theorem used_le (tidy : heap.Tidy) : heap.used ≤ heap.units := by
  rw [tidy.counted, countLive_eq_countP, Nat.zero_add]
  exact Nat.le_trans List.countP_le_length (Nat.le_of_eq List.length_range')

/-- Units and bytes can be counted in machine words, with room to spare. -/
theorem small (tidy : heap.Tidy) :
    heap.units ≤ heap.size ∧ heap.size + 1 < UInt64.size ∧ heapBase + heap.size ≤ UInt64.size := by
  -- The addresses in front of the arena leave room for more than one word.
  have addressable := tidy.addressable
  have base : 1 < heapBase := by decide
  exact ⟨Nat.le_mul_of_pos_right _ heap.unit_pos, by omega, addressable⟩

/-- So many units of the arena have their bytes in it. -/
theorem bytes_le {count : Nat} (le : count ≤ heap.units) : count * heap.unit ≤ heap.size :=
  Nat.mul_le_mul_right heap.unit le

end Tidy

/-- There is a bit for every unit of the arena. -/
theorem bit?_eq {unit : Nat} (inside : unit < heap.units) :
    heap.bit? unit = some (heap.unitLive unit) := by
  have there : unit / 64 < heap.words := by
    unfold words
    omega
  exact if_pos there

/-- The bits of units in the arena can be changed. -/
theorem mark?_eq {first count : Nat} (inside : first + count ≤ heap.units) :
    heap.mark? first count = some () := by
  -- The induction is on the units.
  induction count generalizing first with
  | zero => rfl
  | succ count ih =>
    rw [mark?, bit?_eq (by omega)]
    exact ih (by omega)

/-- The bits of units in the arena can be looked at. -/
theorem allLive?_eq {first count : Nat} (inside : first + count ≤ heap.units) :
    heap.allLive? first count = some (allLive heap.live first count) := by
  -- The induction is on the units, in the order in which they are looked at.
  induction count generalizing first with
  | zero => rfl
  | succ count ih =>
    rw [allLive?, allLive, bit?_eq (by omega), ih (by omega)]
    -- A unit that is free settles the question.
    show (if heap.unitLive first then _ else _) = _
    unfold unitLive
    cases heap.live.getD first false <;> rfl

/-- The live units of a part of the arena can be counted. -/
theorem countLive?_eq {first count : Nat} (found : Nat) (inside : first + count ≤ heap.units) :
    heap.countLive? first count found = some (countLive heap.live first count found) := by
  -- The induction is on the units; what was found before is handed on.
  induction count generalizing first found with
  | zero => rfl
  | succ count ih =>
    rw [countLive?, countLive, bit?_eq (by omega)]
    exact ih _ (by omega)

/-- Every unit that is looked at has a bit, and neither a position nor a length leaves its word. -/
theorem findRun?_eq (tidy : heap.Tidy) {needed left next start length : Nat}
    (ahead : next + left = heap.units) (behind : start + length = next) :
    heap.findRun? needed left next start length =
      some (findFreeRun heap.unitLive needed left next start length) := by
  have small := tidy.small
  -- The induction is on the units still to be looked at.
  induction left generalizing next start length with
  | zero => rfl
  | succ left ih =>
    have further := word_eq (show next + 1 < UInt64.size by omega)
    have longer := word_eq (show length + 1 < UInt64.size by omega)
    rw [findRun?, further, bit?_eq (by omega), longer, findFreeRun]
    show (if heap.unitLive next = true then _ else _) = _
    -- The look changes nothing about where the search goes on.
    split
    · exact ih (by omega) (by omega)
    · show (if length + 1 = needed then _ else _) = _
      split
      · rfl
      · exact ih (by omega) (by omega)

/-- To hand out a block is always possible. -/
theorem allocate?_agrees {blocks : List Block} (holds : heap.Holds blocks) (size : Nat) :
    Agrees (allocate? size) (allocate size) heap := by
  have tidy := holds.tidy
  unfold Agrees allocate?
  by_cases empty : size = 0
  · -- Nothing is asked for, so nothing has to be possible.
    rw [if_pos empty, allocate, fit, if_pos empty]
  · have used := tidy.used_le
    have small := tidy.small
    have available := word_eq (Nat.lt_of_le_of_lt
      (Tidy.bytes_le (Nat.sub_le heap.units heap.used)) (by omega : heap.size < UInt64.size))
    have needed := heap.unitsFor_pos (Nat.pos_of_ne_zero empty)
    have search := @findRun?_eq heap tidy (heap.unitsFor size) heap.units 0 0 0
      (Nat.zero_add heap.units) rfl
    rw [findFreeRun_eq tidy.bounded (Nat.zero_add heap.units) rfl needed, Nat.sub_zero] at search
    -- A request for some bytes: the sums, the search and the marks are possible one after the
    -- other.
    rw [if_neg empty]
    dsimp only
    rw [taken (difference_eq used), taken available, taken search]
    cases found : findRun heap.live heap.units (heap.unitsFor size) heap.live.size 0 0 with
    | none =>
      rw [allocate, fit, if_neg empty, found]
      split <;> rfl
    | some first =>
      -- The run lies in the arena, and there is room for it beside what is used.
      obtain ⟨inside, -⟩ :=
        findRun_free holds.bounded (by omega) (fun unit _ upper => by omega) found
      have allocated : allocate size heap = .ok
          ⟨UInt64.ofNat (heapBase + first * heap.unit), size, true⟩
          (heap.take first (heap.unitsFor size)) := by
        rw [allocate, fit, if_neg empty, found]
      have room : heap.used + heap.unitsFor size ≤ heap.units :=
        (allocate_holds holds allocated).used_le
      have before : first * heap.unit < heap.size :=
        (Nat.mul_lt_mul_right heap.unit_pos).mpr (by omega)
      have last := word_eq (show first + heap.unitsFor size < UInt64.size by omega)
      have total := word_eq (show heap.used + heap.unitsFor size < UInt64.size by omega)
      have offset := word_eq (show first * heap.unit < UInt64.size by omega)
      have address := word_eq (show heapBase + first * heap.unit < UInt64.size by omega)
      rw [if_neg (by omega), allocated]
      dsimp only
      rw [taken last, taken (mark?_eq inside), taken total, taken (difference_eq room),
        taken offset, taken address]
      rfl

/-- To free a block that lies in the arena is always possible, and keeps the books right. -/
theorem release?_eq (tidy : heap.Tidy) {block : Block} (inside : heap.Inside block) :
    heap.release? block = some (heap.release block) ∧ (heap.release block).Tidy := by
  have small := tidy.small
  -- What is freed was counted before, so no more is subtracted than is used.
  have counted := countLive_freeUnits inside heap.live
  rw [← tidy.counted] at counted
  have freed := countLive?_eq 0 inside
  unfold Inside at inside
  have last := word_eq (show heap.firstUnit block + heap.unitsFor block.size < UInt64.size by omega)
  by_cases owner : block.owning = true ∧ heapBase ≤ block.address.toNat
  · have released : heap.release block = { heap with
        live := freeUnits (heap.firstUnit block) (heap.unitsFor block.size) heap.live
        used := heap.used -
          countLive heap.live (heap.firstUnit block) (heap.unitsFor block.size) 0 } :=
      if_pos ⟨owner.1, owner.2, inside⟩
    -- The block owns its units, and they lie in the arena.
    refine ⟨?_, released ▸ ⟨?_, ?_, tidy.addressable⟩⟩
    · have proper : ¬ heap.units < heap.firstUnit block + heap.unitsFor block.size := by omega
      rw [release?, if_pos owner]
      dsimp only
      rw [taken last, if_neg proper, taken freed, taken (mark?_eq inside),
        taken (difference_eq (by omega)), released]
      rfl
    · -- No unit behind the arena has been handed out by a release.
      unfold Bounded
      rw [freeUnits_size]
      exact tidy.bounded
    · -- As many units fewer are live as are counted off.
      show heap.used - _ = countLive (freeUnits _ _ heap.live) 0 heap.units 0
      omega
  · -- A block that owns nothing is left alone.
    have kept : heap.release block = heap := if_neg fun all => owner ⟨all.1, all.2.1⟩
    rw [kept]
    exact ⟨if_neg owner, tidy⟩

-- Where the books are wrong, what is freed may be more than what is used.
example : (release? { empty with unit := 8, units := 1, live := #[true], unit_pos := by decide }
    ⟨0x1000, 8, true⟩).isNone = true := by
  decide

/-- To free blocks that lie in the arena is always possible. -/
theorem releaseAll?_eq (tidy : heap.Tidy) {blocks : List Block}
    (inside : ∀ block ∈ blocks, heap.Inside block) :
    heap.releaseAll? blocks = some (heap.releaseAll blocks) := by
  -- The induction is on the blocks, each freed where the one before has left the heap.
  induction blocks generalizing heap with
  | nil => rfl
  | cons block rest ih =>
    obtain ⟨released, kept⟩ := release?_eq tidy (inside block (List.mem_cons_self ..))
    rw [releaseAll?, released]
    -- The other blocks still lie in the arena after the first one is freed.
    exact ih kept fun other member =>
      (heap.release_sameArena block).inside (inside other (List.mem_cons_of_mem _ member))

/-- As a change to the heap, to free blocks that lie in the arena is possible. -/
theorem free?_agrees (tidy : heap.Tidy) {blocks : List Block}
    (inside : ∀ block ∈ blocks, heap.Inside block) :
    Agrees (free? blocks) (modify (·.releaseAll blocks) : Edit ε Unit) heap := by
  -- The wary change is the list of releases, and so is the other one.
  unfold Agrees free?
  rw [releaseAll?_eq tidy inside]
  rfl

/-- Whether a range can be accessed is found by looking at bits of the arena only. -/
theorem locate?_eq (heap : Heap) (address : Address) (length : Nat) :
    heap.locate? address length = some (heap.locate address length) := by
  unfold locate? locate
  dsimp only
  generalize address.toNat - heapBase = offset
  by_cases outside : address.toNat < heapBase ∨ length = 0 ∨ heap.size < offset + length
  · -- A range outside is refused before any bit is looked at.
    rw [if_pos outside, if_pos outside]
  · -- The last byte lies in the arena, and so does the unit that it belongs to.
    have last : (offset + length - 1) / heap.unit < heap.units := by
      rw [Nat.div_lt_iff_lt_mul heap.unit_pos]
      exact Nat.lt_of_lt_of_le (by omega) (Nat.le_of_not_lt fun less =>
        outside (.inr (.inr less)))
    have first : offset / heap.unit ≤ (offset + length - 1) / heap.unit :=
      Nat.div_le_div_right (by omega)
    have bits := @allLive?_eq heap (offset / heap.unit)
      ((offset + length - 1) / heap.unit + 1 - offset / heap.unit) (by omega)
    rw [if_neg outside, if_neg outside, taken (difference_eq (by omega)), taken bits]
    cases allLive heap.live _ _ <;> rfl

/-- A range that can be accessed lies in the arena. -/
theorem locate_within {address : Address} {length offset : Nat}
    (located : heap.locate address length = .ok offset) :
    offset + length ≤ heap.size ∧ address.toNat = heapBase + offset := by
  -- The two tests of the search are passed where a range is found.
  unfold locate at located
  dsimp only at located
  split at located
  · cases located
  · split at located
    · have start := Except.ok.inj located
      omega
    · cases located

/-- To access a range is always possible. -/
theorem reach?_eq (tidy : heap.Tidy) (address : Address) (length : Nat) :
    heap.reach? address length = some () := by
  -- A range that is not found is not sliced either.
  unfold reach?
  rw [locate?_eq]
  cases located : heap.locate address length with
  | error cause => rfl
  | ok offset =>
    have within := (locate_within located).1
    have small := tidy.small
    show heap.slice? offset length = some ()
    rw [slice?, word_eq (by omega)]
    exact if_pos within

/-- To move bytes is always possible: both ranges are looked at first. -/
theorem move?_eq (tidy : heap.Tidy) (target source : Address) (length : Nat) :
    heap.move? target source length = some () := by
  -- Both ranges can be accessed or refused; without bytes neither is looked at.
  unfold move?
  rw [reach?_eq tidy, reach?_eq tidy]
  split <;> rfl

/-- To read an object is possible if the size of its type is a machine word. -/
theorem load?_eq (tidy : heap.Tidy) (address : Address) {type : CType}
    (fits : type.size < UInt64.size) : heap.load? address type = some () := by
  -- The size is checked for every type, and what is done with it depends on the type.
  unfold load?
  rw [word_eq fits]
  cases type with
  | void => rfl
  | struct name fields =>
    show (do let _ ← heap.locate? address _; return ()) = some ()
    rw [locate?_eq]
    rfl
  | int => exact reach?_eq tidy address _
  | char => exact reach?_eq tidy address _
  | pointer target => exact reach?_eq tidy address _

/-- To store a value is possible if its size is a machine word. -/
theorem store?_eq (tidy : heap.Tidy) (address : Address) (type : CType) {value : Value}
    (fits : value.storedSize < UInt64.size) : heap.store? address type value = some () := by
  -- What is stored decides what is written: nothing, a structure's bytes, or a scalar's.
  unfold store?
  split
  · rfl
  · rfl
  · rename_i source definition coerced
    cases Value.coerce_eq_struct coerced
    rw [word_eq (show definition.size < UInt64.size from fits)]
    exact move?_eq tidy address source _
  · exact reach?_eq tidy address _

/-- To read a text is possible: no more bytes are read than there are. -/
theorem text?_eq (tidy : heap.Tidy) {left offset : Nat} (few : offset + left ≤ heap.size + 1)
    (address : Address) : heap.text? left offset address = some () := by
  -- The induction is on the bytes that may still be read.
  induction left generalizing offset address with
  | zero => rfl
  | succ left ih =>
    have small := tidy.small
    rw [text?, reach?_eq tidy]
    show (match heap.read address 1 with
      | .ok (byte :: _) => if byte = 0 then some () else _
      | _ => some ()) = some ()
    -- A byte that is not zero takes the search one further, and the offset is still a word.
    split
    · split
      · rfl
      · rw [word_eq (by omega)]
        exact ih (by omega) (address + 1)
    · rfl

/-- The text at an address can be read, or is refused. -/
theorem readText?_eq (tidy : heap.Tidy) (address : Address) :
    heap.readText? address = some () :=
  text?_eq tidy (by omega) address

end Heap

end StepMachine
