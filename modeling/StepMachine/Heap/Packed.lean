import StepMachine.Heap.Basic

/-! The arena's books as they stand in memory: one bit for each unit, in words of 64 bits. -/

namespace StepMachine

/-- Which units of an arena are handed out, a bit for each, in words of 64 bits. -/
structure Bitmap where
  words : Array UInt64
  deriving DecidableEq

namespace Bitmap

/-- The bits of so many units, all of them free. -/
def clear (units : Nat) : Bitmap := ⟨Array.replicate ((units + 63) / 64) 0⟩

/-- Whether a unit is handed out. -/
def isLive (bitmap : Bitmap) (unit : Nat) : Bool :=
  (bitmap.words.getD (unit / 64) 0 >>> UInt64.ofNat (unit % 64)) &&& 1 = 1

/-- Marks a unit as handed out, or as free. -/
def markUnit (live : Bool) (bitmap : Bitmap) (unit : Nat) : Bitmap :=
  let mask := (1 : UInt64) <<< UInt64.ofNat (unit % 64)
  ⟨bitmap.words.modify (unit / 64) fun word => if live then word ||| mask else word &&& ~~~mask⟩

/-- Marks `count` units from `first` on. -/
def mark (bitmap : Bitmap) (first count : Nat) (live : Bool) : Bitmap :=
  (List.range' first count).foldl (markUnit live) bitmap

end Bitmap

/-- Looks through `left` units from `next` on for a run of `needed` free ones, knowing that the
`length` units from `start` on are free up to there. -/
def findFreeRun (isLive : Nat → Bool) (needed : Nat) : (left next start length : Nat) → Option Nat
  | 0, _, _, _ => none
  | left + 1, next, start, length =>
    if isLive next then findFreeRun isLive needed left (next + 1) (next + 1) 0
    else if length + 1 = needed then some start
    else findFreeRun isLive needed left (next + 1) start (length + 1)

/-- An arena whose books are kept in a bitmap; its bytes are left out. -/
structure PackedHeap where
  /-- The number of bytes in the arena. -/
  size : Nat
  /-- The number of bytes in a unit. -/
  unit : Nat
  /-- The number of units in the arena. -/
  units : Nat
  bitmap : Bitmap
  /-- How many units are handed out. -/
  used : Nat

namespace PackedHeap

/-- How many units it takes to hold `size` bytes. -/
def unitsFor (heap : PackedHeap) (size : Nat) : Nat := (size + heap.unit - 1) / heap.unit

/-- A fresh arena, all of it free. The size must be a positive multiple of the unit. -/
def create (size unit : Nat) : Except MemoryError PackedHeap :=
  if unit = 0 ∨ size = 0 ∨ size % unit ≠ 0 then .error (.invalidGeometry size unit)
  else .ok { size, unit, units := size / unit, bitmap := .clear (size / unit), used := 0 }

/-- Hands out the lowest free run that holds `size` bytes. -/
def allocate (size : Nat) : EStateM MemoryError PackedHeap Block := fun heap =>
  if size = 0 then .error .zeroSizedAllocation heap
  else
    let needed := heap.unitsFor size
    let available := (heap.units - heap.used) * heap.unit
    if heap.units < needed then .error (.outOfMemory size available) heap
    else
      match findFreeRun heap.bitmap.isLive needed heap.units 0 0 0 with
      | none => .error (.outOfMemory size available) heap
      | some first =>
        .ok ⟨UInt64.ofNat (heapBase + first * heap.unit), size, true⟩ { heap with
          bitmap := heap.bitmap.mark first needed true
          used := heap.used + needed }

/-- Frees the units of a range that was handed out. -/
def release (heap : PackedHeap) (address : Address) (size : Nat) : PackedHeap :=
  if address.toNat < heapBase then heap
  else
    let first := (address.toNat - heapBase) / heap.unit
    let count := heap.unitsFor size
    if heap.units < first + count then heap
    else
      -- Only units that are live count, so that nothing is subtracted twice.
      let freed := (List.range' first count).countP heap.bitmap.isLive
      { heap with bitmap := heap.bitmap.mark first count false, used := heap.used - freed }

/-- Where a range starts within the arena; fails unless the range is not empty, lies inside and
touches live units only. -/
def locate (heap : PackedHeap) (address : Address) (length : Nat) : Except MemoryError Nat :=
  let offset := address.toNat - heapBase
  if address.toNat < heapBase then .error (.invalidAccess address length)
  else if length = 0 ∨ heap.size < offset + length then .error (.invalidAccess address length)
  else
    let first := offset / heap.unit
    let last := (offset + length - 1) / heap.unit
    if (List.range' first (last + 1 - first)).all heap.bitmap.isLive then .ok offset
    else .error (.invalidAccess address length)

end PackedHeap

/-- What is asked of an arena's books. -/
inductive BookRequest where
  | allocate (size : Nat)
  /-- Frees the units of a block. -/
  | release (block : Block)
  /-- Looks where a range starts that is to be accessed. -/
  | locate (address : Address) (length : Nat)

/-- What is answered. -/
inductive BookAnswer where
  | allocated (outcome : Except MemoryError Block)
  | released
  | located (outcome : Except MemoryError Nat)

/-- What an arena answers, and what becomes of it. -/
def Heap.serve (heap : Heap) : BookRequest → BookAnswer × Heap
  | .allocate size =>
    match Heap.allocate size heap with
    | .ok block heap => (.allocated (.ok block), heap)
    | .error cause heap => (.allocated (.error cause), heap)
  | .release block => (.released, heap.release block)
  | .locate address length => (.located (heap.locate address length), heap)

/-- The same of an arena whose books are kept in a bitmap. -/
def PackedHeap.serve (heap : PackedHeap) : BookRequest → BookAnswer × PackedHeap
  | .allocate size =>
    match PackedHeap.allocate size heap with
    | .ok block heap => (.allocated (.ok block), heap)
    | .error cause heap => (.allocated (.error cause), heap)
  -- Only a block that owns its units frees them.
  | .release block =>
    (.released, if block.owning then heap.release block.address block.size else heap)
  | .locate address length => (.located (heap.locate address length), heap)

/-- Answers requests one after the other. -/
def Heap.serveAll (heap : Heap) : List BookRequest → List BookAnswer × Heap
  | [] => ([], heap)
  | request :: requests =>
    let served := heap.serve request
    let rest := served.2.serveAll requests
    (served.1 :: rest.1, rest.2)

/-- The same of an arena whose books are kept in a bitmap. -/
def PackedHeap.serveAll (heap : PackedHeap) : List BookRequest → List BookAnswer × PackedHeap
  | [] => ([], heap)
  | request :: requests =>
    let served := heap.serve request
    let rest := served.2.serveAll requests
    (served.1 :: rest.1, rest.2)

end StepMachine
