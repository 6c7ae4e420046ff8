import StepMachine.Error

/-! A fixed arena of bytes, handed out in whole units from the lowest free run on. -/

namespace StepMachine

/-- The arena starts at this address, so that low addresses, null among them, are never live. -/
def heapBase : Nat := 0x1000

/-- An arena: its bytes, and which of its units are handed out. -/
structure Heap where
  /-- The number of bytes in a unit. -/
  unit : Nat
  /-- The number of units in the arena. -/
  units : Nat
  /-- The bytes up to the last one that was ever written; all behind them are zero. -/
  bytes : ByteArray
  /-- For each unit up to the last one that was ever handed out, whether it is handed out now; all
  behind them are free. -/
  live : Array Bool
  /-- How many units are handed out. -/
  used : Nat
  unit_pos : 0 < unit

/-- A range of bytes as the holder sees it; giving up an owning block frees its units. -/
structure Block where
  address : Address
  size : Nat
  owning : Bool
  deriving DecidableEq, Inhabited

/-- A change to a heap that may fail part of the way, and then leaves what it has done so far. -/
abbrev Edit (ε : Type) := EStateM ε Heap

/-- Whether `count` units from `first` on are all live. -/
def allLive (live : Array Bool) (first : Nat) : Nat → Bool
  | 0 => true
  | count + 1 => live.getD first false && allLive live (first + 1) count

/-- How many of `count` units from `first` on are live, beside `found` others. -/
def countLive (live : Array Bool) (first : Nat) : (count found : Nat) → Nat
  | 0, found => found
  | count + 1, found =>
    countLive live (first + 1) count (if live.getD first false then found + 1 else found)

/-- Marks a unit as handed out. -/
def takeUnit (live : Array Bool) (index : Nat) : Array Bool :=
  -- Units that were never handed out are not in the array yet.
  if index < live.size then live.setIfInBounds index true
  else (live ++ Array.replicate (index - live.size) false).push true

/-- Marks `count` units from `first` on as handed out. -/
def takeUnits (first : Nat) : Nat → Array Bool → Array Bool
  | 0, live => live
  | count + 1, live => takeUnits (first + 1) count (takeUnit live first)

/-- Marks `count` units from `first` on as free. -/
def freeUnits (first : Nat) : Nat → Array Bool → Array Bool
  | 0, live => live
  | count + 1, live => freeUnits (first + 1) count (live.setIfInBounds first false)

/-- Looks through `left` units from `next` on for a run of `needed` free ones, knowing that those
from `start` on are free up to there. What lies behind the units looked at is free as far as the
arena goes. -/
def findRun (live : Array Bool) (units needed : Nat) : (left next start : Nat) → Option Nat
  | 0, _, start => if start + needed ≤ units then some start else none
  | left + 1, next, start =>
    -- A live unit ends the run, and the next one may start behind it.
    if live.getD next false then findRun live units needed left (next + 1) (next + 1)
    -- The lowest run that is long enough is taken.
    else if next + 1 = start + needed then some start
    else findRun live units needed left (next + 1) start

namespace Heap

/-- A heap without any room. -/
def empty : Heap where
  unit := 1
  units := 0
  bytes := .empty
  live := #[]
  used := 0
  unit_pos := by decide

/-- Without an arena there is the empty one. -/
instance : Inhabited Heap := ⟨empty⟩

/-- The number of bytes in the arena. -/
def size (heap : Heap) : Nat := heap.units * heap.unit

/-- The number of bytes in units that are handed out. -/
def usedBytes (heap : Heap) : Nat := heap.used * heap.unit

/-- The number of bytes in units that are free. -/
def freeBytes (heap : Heap) : Nat := heap.size - heap.usedBytes

/-- How many units it takes to hold `size` bytes. -/
def unitsFor (heap : Heap) (size : Nat) : Nat := (size + heap.unit - 1) / heap.unit

/-- A fresh arena of zero bytes, all of it free. The size must be a positive multiple of the
unit. -/
def create (size unit : Nat) : Except MemoryError Heap :=
  if fits : 0 < unit ∧ 0 < size ∧ size % unit = 0 then
    -- No byte and no unit has been touched, so nothing is stored yet.
    .ok { empty with unit, units := size / unit, unit_pos := fits.1 }
  else .error (.invalidGeometry size unit)

/-- The first unit of the lowest run of free units that holds `size` bytes. -/
def fit (heap : Heap) (size : Nat) : Except MemoryError Nat :=
  if size = 0 then .error .zeroSizedAllocation
  else match findRun heap.live heap.units (heap.unitsFor size) heap.live.size 0 0 with
    | some first => .ok first
    -- What is free in all may be enough and still not lie together.
    | none => .error (.outOfMemory size ((heap.units - heap.used) * heap.unit))

/-- Marks `count` units from `first` on as handed out. -/
def take (heap : Heap) (first count : Nat) : Heap :=
  { heap with live := takeUnits first count heap.live, used := heap.used + count }

/-- Hands out the lowest free run that holds `size` bytes; the bytes stay as they are. -/
def allocate (size : Nat) : Edit MemoryError Block := fun heap =>
  match heap.fit size with
  -- A refused request leaves the heap alone.
  | .error cause => .error cause heap
  | .ok first =>
    .ok ⟨UInt64.ofNat (heapBase + first * heap.unit), size, true⟩
      (heap.take first (heap.unitsFor size))

/-- Frees the units of an owning block and leaves the bytes; any other block changes nothing. -/
def release (heap : Heap) (block : Block) : Heap :=
  let first := (block.address.toNat - heapBase) / heap.unit
  let count := heap.unitsFor block.size
  if block.owning ∧ heapBase ≤ block.address.toNat ∧ first + count ≤ heap.units then
    -- Only units that are live count, so that nothing is subtracted twice.
    let freed := countLive heap.live first count 0
    { heap with live := freeUnits first count heap.live, used := heap.used - freed }
  else heap

/-- Frees the units of all owning blocks of a list. -/
def releaseAll (heap : Heap) (blocks : List Block) : Heap := blocks.foldl release heap

/-- Where a range starts within the arena; fails unless the range is not empty, lies inside and
touches live units only. -/
def locate (heap : Heap) (address : Address) (length : Nat) : Except MemoryError Nat :=
  let offset := address.toNat - heapBase
  if address.toNat < heapBase ∨ length = 0 ∨ heap.size < offset + length then
    .error (.invalidAccess address length)
  else
    -- Liveness is kept by whole units, so a range that ends inside one needs all of it.
    let first := offset / heap.unit
    let last := (offset + length - 1) / heap.unit
    if allLive heap.live first (last + 1 - first) then .ok offset
    else .error (.invalidAccess address length)

/-- Whether every byte of a range that is not empty is live. -/
def isLive (heap : Heap) (address : Address) (length : Nat) : Bool :=
  (heap.locate address length).isOk

end Heap

end StepMachine
