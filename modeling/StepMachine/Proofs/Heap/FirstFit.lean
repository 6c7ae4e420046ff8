import StepMachine.Proofs.Context.Ownership
import StepMachine.Proofs.Context.Reachable
import StepMachine.Proofs.Heap.Custody

/-! A request for memory is answered from the lowest run of free units that is long enough, and is
refused only where there is none. -/

namespace StepMachine

namespace Heap

/-- Units of the arena from `first` on, `count` of them, that are all free. -/
structure FreeRun (heap : Heap) (first count : Nat) : Prop where
  inside : first + count ≤ heap.units
  free : ∀ unit, first ≤ unit → unit < first + count → heap.unitLive unit = false

/-- A search that has passed over no free run, and that stands inside of one that is too short so
far, ends at the lowest free run, or there is none. -/
theorem findRun_lowest {heap : Heap} {needed left next start : Nat}
    (asked : 0 < needed) (short : next < start + needed)
    (passed : ∀ other, heap.FreeRun other needed → start ≤ other) :
    match findRun heap.live heap.units needed left next start with
    | some first => ∀ other, heap.FreeRun other needed → first ≤ other
    | none => ∀ other, ¬ heap.FreeRun other needed := by
  -- One unit is looked at in each turn, and no free run starts in front of `start`.
  induction left generalizing next start with
  | zero =>
    rw [findRun]
    by_cases room : start + needed ≤ heap.units
    · rw [if_pos room]
      exact passed
    · -- Any free run starts no earlier, so it would not end inside the arena.
      rw [if_neg room]
      intro other run
      have late := passed other run
      have inside := run.inside
      omega
  | succ left ih =>
    rw [findRun]
    -- The run under way ends at a live unit, and is begun anew behind it.
    by_cases live : heap.live.getD next false = true
    · rw [if_pos live]
      apply ih (by omega)
      intro other run
      -- A free run that starts at or in front of the live unit would be long enough to reach it.
      by_contra early
      have late := passed other run
      have free := run.free next (by omega) (by omega)
      unfold unitLive at free
      rw [live] at free
      cases free
    · rw [if_neg live]
      by_cases enough : next + 1 = start + needed
      · rw [if_pos enough]
        exact passed
      · rw [if_neg enough]
        exact ih (by omega) passed

/-- The search from the first unit on ends at the lowest free run for a size, or there is none. -/
theorem search_lowest (heap : Heap) {size : Nat} (asked : 0 < size) :
    match findRun heap.live heap.units (heap.unitsFor size) heap.live.size 0 0 with
    | some first => ∀ other, heap.FreeRun other (heap.unitsFor size) → first ≤ other
    | none => ∀ other, ¬ heap.FreeRun other (heap.unitsFor size) := by
  -- Nothing lies in front of the first unit.
  have needed := heap.unitsFor_pos asked
  exact findRun_lowest needed (by omega) fun other _ => Nat.zero_le other

/-- A request that is not empty is answered with the lowest free run that is long enough. -/
theorem fit_eq_ok {heap : Heap} {size first : Nat} (bounded : heap.live.size ≤ heap.units)
    (asked : 0 < size) (fit : heap.fit size = .ok first) :
    heap.FreeRun first (heap.unitsFor size) ∧
      ∀ other, heap.FreeRun other (heap.unitsFor size) → first ≤ other := by
  have lowest := heap.search_lowest asked
  unfold Heap.fit at fit
  rw [if_neg (by omega)] at fit
  cases search : findRun heap.live heap.units (heap.unitsFor size) heap.live.size 0 0 with
  | none =>
    rw [search] at fit
    cases fit
  | some found =>
    rw [search] at fit lowest
    cases fit
    -- The search starts at the first unit, with no unit known to be free yet.
    obtain ⟨inside, free⟩ := findRun_free bounded (by omega) (fun unit _ upper => by omega) search
    exact ⟨⟨inside, free⟩, lowest⟩

/-- A request that is not empty is refused only if no free run is long enough. -/
theorem fit_eq_error {heap : Heap} {size : Nat} {cause : MemoryError} (asked : 0 < size)
    (refused : heap.fit size = .error cause) :
    cause = .outOfMemory size heap.freeBytes ∧
      ∀ first, ¬ heap.FreeRun first (heap.unitsFor size) := by
  have lowest := heap.search_lowest asked
  unfold Heap.fit at refused
  rw [if_neg (by omega)] at refused
  -- An empty search is the only cause of a refusal.
  cases search : findRun heap.live heap.units (heap.unitsFor size) heap.live.size 0 0 with
  | some found =>
    rw [search] at refused
    cases refused
  | none =>
    rw [search] at refused lowest
    cases refused
    -- The free bytes are those of the free units.
    have free : (heap.units - heap.used) * heap.unit = heap.freeBytes := Nat.sub_mul ..
    exact ⟨by rw [free], lowest⟩

/-- What handing out a run does to the heap. -/
structure Granted (heap : Heap) (first count : Nat) (last : Heap) : Prop where
  live : ∀ unit, last.unitLive unit =
    (heap.unitLive unit || (decide (first ≤ unit) && decide (unit < first + count)))
  bytes : last.bytes = heap.bytes
  usedBytes : last.usedBytes = heap.usedBytes + count * heap.unit
  unit : last.unit = heap.unit
  units : last.units = heap.units

/-- The units of the run become live and are counted, and nothing else happens. -/
theorem take_granted (heap : Heap) (first count : Nat) :
    heap.Granted first count (heap.take first count) where
  live unit := by
    -- The new map of live units, by its entries.
    show (takeUnits first count heap.live).getD unit false = _
    rw [takeUnits_getD]
    by_cases inside : first ≤ unit ∧ unit < first + count
    · rw [if_pos inside]
      simp [inside]
    · rw [if_neg inside]
      have outside : (decide (first ≤ unit) && decide (unit < first + count)) = false := by
        simpa using inside
      rw [outside, Bool.or_false]
      rfl
  bytes := rfl
  usedBytes := Nat.add_mul ..
  unit := rfl
  units := rfl

/-- A unit inside the arena of a heap that holds blocks has an address. -/
theorem Holds.toNat_address {heap : Heap} {blocks : List Block} (holds : heap.Holds blocks)
    {first : Nat} (inside : first < heap.units) :
    (UInt64.ofNat (heapBase + first * heap.unit)).toNat = heapBase + first * heap.unit := by
  -- The arena ends at an address that the machine has.
  have addressable := holds.addressable
  have below : first * heap.unit < heap.size := (Nat.mul_lt_mul_right heap.unit_pos).mpr inside
  rw [UInt64.toNat_ofNat', Nat.mod_eq_of_lt]
  exact Nat.lt_of_lt_of_le (Nat.add_lt_add_left below heapBase) addressable

/-- What a heap that holds blocks hands out is the lowest free run that is long enough. -/
theorem Holds.allocate_granted {heap last : Heap} {blocks : List Block} (holds : heap.Holds blocks)
    {size : Nat} {block : Block} (asked : 0 < size)
    (allocated : allocate size heap = .ok block last) :
    ∃ first, heap.FreeRun first (heap.unitsFor size) ∧
      (∀ other, heap.FreeRun other (heap.unitsFor size) → first ≤ other) ∧
      block.address.toNat = heapBase + heap.unit * first ∧
      heap.Granted first (heap.unitsFor size) last := by
  unfold allocate at allocated
  cases fit : heap.fit size with
  | error cause =>
    rw [fit] at allocated
    cases allocated
  | ok first =>
    rw [fit] at allocated
    cases allocated
    obtain ⟨run, lowest⟩ := fit_eq_ok holds.bounded asked fit
    -- The run has a first unit, which lies inside the arena.
    have inside : first < heap.units := by
      have needed := heap.unitsFor_pos asked
      have inside := run.inside
      omega
    refine ⟨first, run, lowest, ?_, heap.take_granted first _⟩
    rw [holds.toNat_address inside, Nat.mul_comm]

/-- A request for which there is room is answered. -/
theorem exists_allocate {heap : Heap} {size first : Nat} (asked : 0 < size)
    (run : heap.FreeRun first (heap.unitsFor size)) :
    ∃ block last, allocate size heap = .ok block last := by
  unfold allocate
  cases fit : heap.fit size with
  | ok first => exact ⟨_, _, rfl⟩
  -- A refusal would say that there is no such run.
  | error cause =>
    have none := (fit_eq_error asked fit).2
    exact absurd run (none first)

/-- A request for which there is no room is refused with what it asked for and what is free. -/
theorem Holds.allocate_full {heap : Heap} {blocks : List Block} (holds : heap.Holds blocks)
    {size : Nat} (asked : 0 < size) (full : ¬ ∃ first, heap.FreeRun first (heap.unitsFor size)) :
    allocate size heap = .error (.outOfMemory size heap.freeBytes) heap := by
  unfold allocate
  cases fit : heap.fit size with
  | ok first =>
    have run := (fit_eq_ok holds.bounded asked fit).1
    -- An answer would be such a run.
    exact absurd ⟨first, run⟩ full
  | error cause =>
    rw [(fit_eq_error asked fit).1]

/-- The heaps that a host makes of a fresh one, call by call, and a program, step by step. -/
inductive Reached (fresh : Heap) : Heap → Prop where
  | host (calls : List HeapCall) : Reached fresh (Custody.run { heap := fresh } calls).heap
  | program {program : Program} {depthLimit grants : Nat} {context : Context}
    (reachable : (Context.start program fresh depthLimit grants).Reachable context) :
    Reached fresh context.heap

/-- In whoever's hands, the books of the heap are right. -/
theorem Reached.holds {fresh heap : Heap} {size unit : Nat}
    (created : create size unit = .ok fresh) (fits : heapBase + size ≤ UInt64.size)
    (reached : fresh.Reached heap) : ∃ blocks, heap.Holds blocks := by
  -- The calls of a host start with no block owned.
  cases reached with
  | host calls =>
    have fresh : (Custody.mk fresh []).heap.Holds (Custody.mk fresh []).owners :=
      create_holds created fits
    exact ⟨_, (Custody.run_holds fresh calls).1⟩
  | program reachable =>
    have owns := reachable.keeps Exec.steps_own (Context.start_owns created fits _ _ _)
    exact ⟨_, owns.holds⟩

/--
Memory is handed out by first fit, exactly, on every heap that a host or a program can make of a
fresh one.

A request is refused as empty just if it asks for no byte.
Any other is answered just if as many units as its size rounded up takes lie together and are free.
What is handed out then is the lowest such run: the block starts at its address, its units and no
others become live, the bytes stay as they are, and what is used grows by the units of the run.
Where there is no such run, the request is refused with its size and with the number of bytes that
are free in all.
A request that is refused leaves the heap as it is.
All that is asked of the heap is that each of its bytes has an address of 64 bits, as in every arena
that a host can make.
-/
theorem allocate_first_fit {size unit : Nat} {fresh heap : Heap}
    (created : create size unit = .ok fresh) (fits : heapBase + size ≤ UInt64.size)
    (reached : fresh.Reached heap) (wanted : Nat) :
    let needed := (wanted + heap.unit - 1) / heap.unit
    ((∃ last, allocate wanted heap = .error .zeroSizedAllocation last) ↔ wanted = 0) ∧
    (0 < wanted →
      ((∃ block last, allocate wanted heap = .ok block last) ↔
        ∃ first, heap.FreeRun first needed) ∧
      (∀ block last, allocate wanted heap = .ok block last →
        ∃ first, heap.FreeRun first needed ∧
          (∀ other, heap.FreeRun other needed → first ≤ other) ∧
          block.address.toNat = heapBase + heap.unit * first ∧ heap.Granted first needed last) ∧
      ((¬ ∃ first, heap.FreeRun first needed) →
        allocate wanted heap = .error (.outOfMemory wanted heap.freeBytes) heap)) ∧
    ∀ cause last, allocate wanted heap = .error cause last → last = heap := by
  intro needed
  -- Whoever has the heap, it holds the blocks that are handed out.
  obtain ⟨blocks, holds⟩ := reached.holds created fits
  refine ⟨⟨?_, ?_⟩, fun asked => ⟨⟨?_, ?_⟩, ?_, ?_⟩, fun cause last refused =>
    allocate_error refused⟩
  · rintro ⟨last, refused⟩
    -- Any other request is answered, or refused for want of room.
    by_contra asked
    by_cases room : ∃ first, heap.FreeRun first (heap.unitsFor wanted)
    · obtain ⟨first, run⟩ := room
      obtain ⟨block, next, answered⟩ := exists_allocate (by omega) run
      rw [answered] at refused
      cases refused
    · rw [holds.allocate_full (by omega) room] at refused
      cases refused
  · -- A request for nothing is refused before anything is looked at.
    rintro rfl
    exact ⟨heap, rfl⟩
  · rintro ⟨block, last, answered⟩
    obtain ⟨first, run, -⟩ := holds.allocate_granted asked answered
    exact ⟨first, run⟩
  · rintro ⟨first, run⟩
    exact exists_allocate asked run
  · intro block last answered
    exact holds.allocate_granted asked answered
  · intro full
    exact holds.allocate_full asked full

/-- A host gives up the first and the third of four blocks: a request for one unit goes to the lower
hole, and one for three is refused, though four units are free. -/
theorem allocate_first_fit_between_holes :
    ∃ fresh, create 64 8 = .ok fresh ∧
      let heap := (Custody.run { heap := fresh }
        [.allocate 8, .allocate 8, .allocate 8, .allocate 24, .drop 0, .drop 1]).heap
      (∃ block last, allocate 5 heap = .ok block last ∧ block.address.toNat = heapBase) ∧
      allocate 17 heap = .error (.outOfMemory 17 32) heap := by
  -- The arena has eight units of eight bytes, and the blocks take all of them but two.
  have created : create 64 8 = .ok _ := rfl
  refine ⟨_, created, ?_⟩
  intro heap
  have first_fit := allocate_first_fit created (by decide) (.host
    [.allocate 8, .allocate 8, .allocate 8, .allocate 24, .drop 0, .drop 1])
  have arena : heap.unit = 8 ∧ heap.units = 8 := by decide +kernel
  refine ⟨?_, ?_⟩
  · -- The unit of the first block is free, and no other lies in front of it.
    have run : heap.FreeRun 0 ((5 + heap.unit - 1) / heap.unit) := by
      rw [arena.1]
      refine ⟨by rw [arena.2]; decide, fun unit _ upper => ?_⟩
      have zero : unit = 0 := by omega
      rw [zero]
      decide +kernel
    obtain ⟨answered, granted, -⟩ := (first_fit 5).2.1 (by decide)
    obtain ⟨block, last, allocated⟩ := answered.mpr ⟨0, run⟩
    obtain ⟨first, -, lowest, address, -⟩ := granted block last allocated
    have least : first = 0 := Nat.le_zero.mp (lowest 0 run)
    exact ⟨block, last, allocated, by rw [address, least]; rfl⟩
  · have free : heap.freeBytes = 32 := by decide +kernel
    rw [← free]
    apply ((first_fit 17).2.1 (by decide)).2.2
    rintro ⟨first, run⟩
    have run : heap.FreeRun first ((17 + heap.unit - 1) / heap.unit) := run
    rw [arena.1] at run
    have inside := run.inside
    rw [arena.2] at inside
    -- Wherever three units lie together, one of them is live.
    have taken : ∀ first < 6, ∃ unit < first + 3, first ≤ unit ∧ heap.unitLive unit = true := by
      decide +kernel
    obtain ⟨unit, upper, lower, live⟩ := taken first (by omega)
    rw [run.free unit lower (by omega)] at live
    cases live

end Heap

end StepMachine
