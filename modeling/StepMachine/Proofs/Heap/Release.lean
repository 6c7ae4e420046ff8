import Mathlib.Algebra.GroupWithZero.Nat
import StepMachine.Proofs.Heap.FirstFit

/-! Blocks are given up in any order with the same result: what one release takes from the count is
what the number of live units goes down by, and so two of them can change places. -/

namespace StepMachine

section Units

/-- Arrays of one length that tell the same of every unit are the same. -/
theorem live_ext {one other : Array Bool} (length : one.size = other.size)
    (same : ∀ unit, one.getD unit false = other.getD unit false) : one = other := by
  -- Both have an answer at each position, and the answers agree.
  apply Array.ext length
  intro unit inside within
  have here := same unit
  rwa [Array.getD_eq_getD_getElem?, Array.getD_eq_getD_getElem?, Array.getElem?_eq_getElem inside,
    Array.getElem?_eq_getElem within] at here

/-- Runs of units are freed in any order. -/
theorem freeUnits_comm (first count start length : Nat) (live : Array Bool) :
    freeUnits start length (freeUnits first count live) =
      freeUnits first count (freeUnits start length live) := by
  -- A unit is free in the end if it was, or if either run covers it.
  apply live_ext
  · simp only [freeUnits_size]
  · intro unit
    simp only [freeUnits_getD]
    split <;> split <;> rfl

/-- Runs that are freed one after the other are counted to the same sum in any order: that by which
there are fewer live units in the end. -/
theorem sub_countLive_comm {first count start length units : Nat} (one : first + count ≤ units)
    (two : start + length ≤ units) (live : Array Bool) (used : Nat) :
    used - countLive live first count 0 - countLive (freeUnits first count live) start length 0 =
      used - countLive live start length 0 -
        countLive (freeUnits start length live) first count 0 := by
  -- Each run takes from the live units what it counts, in both orders, and the sums agree.
  have ones := countLive_freeUnits one live
  have others := countLive_freeUnits two (freeUnits first count live)
  have twos := countLive_freeUnits two live
  have back := countLive_freeUnits one (freeUnits start length live)
  rw [freeUnits_comm] at others
  omega

end Units

namespace Heap

/-- Whether giving a block up frees anything in an arena of this shape. -/
def Frees (heap : Heap) (block : Block) : Prop :=
  block.owning = true ∧ heapBase ≤ block.address.toNat ∧
    heap.firstUnit block + heap.unitsFor block.size ≤ heap.units

/-- What giving up a block that frees something does. -/
theorem release_of_frees {heap : Heap} {block : Block} (frees : heap.Frees block) :
    heap.release block = { heap with
      live := freeUnits (heap.firstUnit block) (heap.unitsFor block.size) heap.live
      used := heap.used -
        countLive heap.live (heap.firstUnit block) (heap.unitsFor block.size) 0 } := by
  -- The test of a release is just that the block frees something.
  unfold Heap.release
  simp only [Frees, firstUnit] at frees ⊢
  rw [if_pos frees]

/-- Giving up any other block changes nothing. -/
theorem release_of_not_frees {heap : Heap} {block : Block} (idle : ¬ heap.Frees block) :
    heap.release block = heap := by
  -- The test of a release fails, so the heap stays.
  unfold Heap.release
  simp only [Frees, firstUnit] at idle ⊢
  rw [if_neg idle]

/-- What a block frees depends on the shape of the arena alone. -/
theorem frees_release {heap : Heap} {block other : Block} :
    (heap.release block).Frees other ↔ heap.Frees other := by
  -- A release keeps the unit and the number of units, and no more is asked.
  have same := heap.release_sameArena block
  unfold Frees firstUnit unitsFor
  rw [same.unit, same.units]

/-- Heaps with the same fields are the same. -/
theorem eq_of_fields {one other : Heap} (unit : one.unit = other.unit)
    (units : one.units = other.units) (bytes : one.bytes = other.bytes)
    (live : one.live = other.live) (used : one.used = other.used) : one = other := by
  cases one
  cases other
  simp_all

/-- Two blocks can be given up in either order, whatever they are. -/
theorem release_comm (heap : Heap) (one other : Block) :
    (heap.release one).release other = (heap.release other).release one := by
  -- Either both blocks free something, or one of them does nothing at any time.
  by_cases first : heap.Frees one
  · by_cases second : heap.Frees other
    · -- The arena is the same for both, so the live units and the count are all there is to
      -- compare.
      rw [release_of_frees (frees_release.mpr second), release_of_frees (frees_release.mpr first),
        release_of_frees first, release_of_frees second]
      exact eq_of_fields rfl rfl rfl (freeUnits_comm ..)
        (sub_countLive_comm first.2.2 second.2.2 heap.live heap.used)
    · -- The second does nothing, before the first or after it.
      rw [release_of_not_frees (mt frees_release.mp second), release_of_not_frees second]
  · -- The first does nothing, before the second or after it.
    rw [release_of_not_frees (mt frees_release.mp first), release_of_not_frees first]

/-- Blocks can be given up in any order. -/
theorem releaseAll_perm (heap : Heap) {one other : List Block} (same : one.Perm other) :
    heap.releaseAll one = heap.releaseAll other :=
  same.foldl_eq' (fun one _ other _ heap => heap.release_comm one other) heap

/-- How many bytes a block takes, rounded up to whole units. -/
def roundedSize (heap : Heap) (block : Block) : Nat :=
  (block.size + heap.unit - 1) / heap.unit * heap.unit

/-- What is used goes down by the rounded sizes of the blocks that are given up. -/
theorem Holds.usedBytes_releaseAll {heap : Heap} {freed kept : List Block}
    (holds : heap.Holds (freed ++ kept)) :
    (heap.releaseAll freed).usedBytes + (freed.map heap.roundedSize).sum = heap.usedBytes := by
  -- What is used is the units of what is held, before the blocks are given up and after.
  have same := heap.releaseAll_sameArena freed
  rw [holds.usedBytes, holds.releaseAll.usedBytes, same.unit]
  clear holds same
  -- The induction is on the blocks given up, each with its own rounded size.
  induction freed with
  | nil => simp
  | cons block freed ih =>
    rw [List.map_cons, List.sum_cons, List.cons_append, List.foldr_cons, ← ih, roundedSize]
    omega

/-- Some of the blocks that are held, each named once, are held beside the rest. -/
theorem Holds.split {heap : Heap} {held some : List Block} (holds : heap.Holds held)
    (once : some.Nodup) (among : ∀ block ∈ some, block ∈ held) :
    ∃ kept, heap.Holds (some ++ kept) := by
  -- Distinct blocks among those that are held are a part of them, up to the order.
  obtain ⟨part, same, inside⟩ := List.subperm_of_subset once among
  obtain ⟨kept, all⟩ := inside.exists_perm_append
  exact ⟨kept, holds.perm (all.trans (same.append_right kept))⟩

end Heap

end StepMachine
