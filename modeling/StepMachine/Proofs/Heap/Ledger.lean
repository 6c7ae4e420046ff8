import StepMachine.Heap.Block
import StepMachine.Proofs.Heap.Units

/-! A heap and the blocks that are held on it: every live unit belongs to exactly one of them, and
handing out and freeing keep it so. -/

namespace StepMachine

namespace Heap

/-- Whether a unit is handed out. -/
def unitLive (heap : Heap) (unit : Nat) : Bool := heap.live.getD unit false

/-- The unit in which a block starts. -/
def firstUnit (heap : Heap) (block : Block) : Nat := (block.address.toNat - heapBase) / heap.unit

/-- Whether a unit belongs to a block. -/
def covers (heap : Heap) (unit : Nat) (block : Block) : Bool :=
  heap.firstUnit block ≤ unit ∧ unit < heap.firstUnit block + heap.unitsFor block.size

/-- How many units it takes to hold blocks. -/
def unitsOf (heap : Heap) (blocks : List Block) : Nat :=
  blocks.foldr (fun block units => heap.unitsFor block.size + units) 0

/-- A block that owns a range of whole units inside the arena. -/
structure Seats (heap : Heap) (block : Block) : Prop where
  owning : block.owning = true
  size_pos : 0 < block.size
  address : block.address.toNat = heapBase + heap.firstUnit block * heap.unit
  inside : heap.firstUnit block + heap.unitsFor block.size ≤ heap.units

/-- The blocks that are held on a heap: each owns whole units of it, a live unit belongs to exactly
one of them and any other unit to none, and together they make up what is used. -/
structure Holds (heap : Heap) (blocks : List Block) : Prop where
  bounded : heap.live.size ≤ heap.units
  addressable : heapBase + heap.size ≤ UInt64.size
  seated : ∀ block ∈ blocks, heap.Seats block
  ledger : ∀ unit, blocks.countP (heap.covers unit) = if heap.unitLive unit then 1 else 0
  counted : heap.used = heap.unitsOf blocks

/-- The order of blocks does not matter to how many units they take. -/
theorem unitsOf_perm (heap : Heap) {blocks others : List Block} (same : blocks.Perm others) :
    heap.unitsOf blocks = heap.unitsOf others := by
  -- Two neighbours that change places are added in the other order.
  induction same with
  | nil => rfl
  | cons block _ ih => exact congrArg (heap.unitsFor block.size + ·) ih
  | swap one other rest => exact Nat.add_left_comm ..
  | trans _ _ first second => exact first.trans second

/-- A block that is not empty takes at least one unit. -/
theorem unitsFor_pos (heap : Heap) {size : Nat} (pos : 0 < size) : 0 < heap.unitsFor size := by
  unfold unitsFor
  have unit := heap.unit_pos
  -- Rounding up makes at least one unit of it.
  exact Nat.div_pos (by omega) unit

/-- The units of a block have room for it. -/
theorem le_unitsFor_mul (heap : Heap) (size : Nat) : size ≤ heap.unitsFor size * heap.unit := by
  unfold unitsFor
  have unit := heap.unit_pos
  -- What rounding up leaves over is less than a unit.
  have parts := Nat.div_add_mod (size + heap.unit - 1) heap.unit
  have rest := Nat.mod_lt (size + heap.unit - 1) unit
  rw [Nat.mul_comm] at parts
  omega

/-- A block covers a unit just if that lies in the block's run. -/
theorem covers_iff {heap : Heap} {unit : Nat} {block : Block} :
    heap.covers unit block = true ↔
      heap.firstUnit block ≤ unit ∧ unit < heap.firstUnit block + heap.unitsFor block.size := by
  simp [covers]

/-- A block that owns units owns its first one. -/
theorem Seats.covers_first {heap : Heap} {block : Block} (seats : heap.Seats block) :
    heap.covers (heap.firstUnit block) block = true := by
  -- A block that is not empty has a first unit.
  have some := heap.unitsFor_pos seats.size_pos
  rw [covers_iff]
  omega

/-- How often units are covered can be counted unit by unit or block by block. -/
theorem foldr_countP_covers (heap : Heap) (blocks : List Block) (units : List Nat) :
    units.foldr (fun unit total => blocks.countP (heap.covers unit) + total) 0 =
      blocks.foldr (fun block total => units.countP (heap.covers · block) + total) 0 := by
  induction units with
  | nil =>
    -- Without units every block covers none.
    induction blocks with
    | nil => rfl
    | cons block rest ih =>
      rw [List.foldr_cons, ← ih]
      rfl
  | cons unit units ih =>
    rw [List.foldr_cons, ih]
    clear ih
    -- The first unit adds one to each block that covers it.
    induction blocks with
    | nil => rfl
    | cons block rest ih =>
      rw [List.countP_cons, List.foldr_cons, List.foldr_cons, List.countP_cons, ← ih]
      omega

namespace Holds

variable {heap : Heap} {blocks : List Block} {block : Block}

/-- The order of the blocks does not matter. -/
theorem perm (holds : heap.Holds blocks) {others : List Block} (same : blocks.Perm others) :
    heap.Holds others where
  bounded := holds.bounded
  addressable := holds.addressable
  seated other member := holds.seated other (same.mem_iff.mpr member)
  ledger unit := by rw [← same.countP_eq, holds.ledger]
  counted := by rw [holds.counted, heap.unitsOf_perm same]

/-- The bytes do not matter. -/
theorem withBytes (holds : heap.Holds blocks) (bytes : ByteArray) :
    Holds { heap with bytes } blocks where
  bounded := holds.bounded
  addressable := holds.addressable
  seated block member :=
    let seats := holds.seated block member
    ⟨seats.owning, seats.size_pos, seats.address, seats.inside⟩
  ledger := holds.ledger
  counted := holds.counted

/-- A unit of a block that is held is live. -/
theorem live_of_covers (holds : heap.Holds blocks) (member : block ∈ blocks) {unit : Nat}
    (covers : heap.covers unit block = true) : heap.unitLive unit = true := by
  -- The unit belongs to at least one block, so the ledger counts it as live.
  have some : 0 < blocks.countP (heap.covers unit) :=
    List.countP_pos_iff.mpr ⟨block, member, covers⟩
  rw [holds.ledger] at some
  cases live : heap.unitLive unit with
  | true => rfl
  | false => simp [live] at some

/-- No unit behind the arena is live. -/
theorem dead_behind (holds : heap.Holds blocks) {unit : Nat} (behind : heap.units ≤ unit) :
    heap.unitLive unit = false := by
  have none : heap.live[unit]? = none := by
    rw [Array.getElem?_eq_none_iff]
    have bounded := holds.bounded
    omega
  simp [unitLive, Array.getD_eq_getD_getElem?, none]

/-- What is used is the number of live units in the arena. -/
theorem used_eq_countLive (holds : heap.Holds blocks) :
    heap.used = countLive heap.live 0 heap.units 0 := by
  -- By the ledger a unit is live as often as it is covered, and each block covers its own units.
  have byUnit : (List.range' 0 heap.units).countP (heap.live.getD · false) =
      (List.range' 0 heap.units).foldr
        (fun unit total => blocks.countP (heap.covers unit) + total) 0 := by
    generalize List.range' 0 heap.units = units
    induction units with
    | nil => rfl
    | cons unit rest ih =>
      have ledger := holds.ledger unit
      rw [List.countP_cons, List.foldr_cons, ledger, ih, Nat.add_comm]
      rfl
  have byBlock : blocks.foldr (fun block total =>
      (List.range' 0 heap.units).countP (heap.covers · block) + total) 0 =
        heap.unitsOf blocks := by
    have inside := fun block member => (holds.seated block member).inside
    clear holds byUnit
    induction blocks with
    | nil => rfl
    | cons block rest ih =>
      have own : (List.range' 0 heap.units).countP (heap.covers · block) =
          heap.unitsFor block.size := countP_run (inside block (List.mem_cons_self ..))
      rw [List.foldr_cons, own, ih fun other member => inside other (List.mem_cons_of_mem _ member)]
      rfl
  rw [countLive_eq_countP, byUnit, foldr_countP_covers, byBlock, holds.counted, Nat.zero_add]

/-- No more units are used than there are. -/
theorem used_le (holds : heap.Holds blocks) : heap.used ≤ heap.units := by
  -- The units in use are counted among those of the arena.
  rw [holds.used_eq_countLive, countLive_eq_countP, Nat.zero_add]
  exact Nat.le_trans List.countP_le_length (Nat.le_of_eq List.length_range')

/-- Two blocks that are held have no unit in common. -/
theorem apart (holds : heap.Holds blocks) :
    blocks.Pairwise fun one other =>
      ∀ unit, ¬ (heap.covers unit one = true ∧ heap.covers unit other = true) := by
  -- The ledger counts no unit twice, which is all that is needed of it here.
  have atMost : ∀ unit, blocks.countP (heap.covers unit) ≤ 1 := by
    intro unit
    rw [holds.ledger]
    split <;> omega
  clear holds
  induction blocks with
  | nil => exact .nil
  | cons one rest ih =>
    refine .cons (fun other member unit both => ?_) (ih fun unit => ?_)
    · -- A unit of both would be counted twice.
      have again : 0 < rest.countP (heap.covers unit) :=
        List.countP_pos_iff.mpr ⟨other, member, both.2⟩
      have twice := atMost unit
      rw [List.countP_cons, if_pos both.1] at twice
      omega
    · have once := atMost unit
      rw [List.countP_cons] at once
      omega

/-- No two blocks that are held start at the same address. -/
theorem addresses (holds : heap.Holds blocks) :
    blocks.Pairwise fun one other => one.address ≠ other.address := by
  refine holds.apart.imp_of_mem fun {one other} member also apart same => ?_
  -- Blocks that start at one address start in one unit, which both of them own.
  have first : heap.firstUnit other = heap.firstUnit one := by
    unfold firstUnit
    rw [same]
  refine apart (heap.firstUnit one) ⟨(holds.seated one member).covers_first, ?_⟩
  rw [← first]
  exact (holds.seated other also).covers_first

/-- A part of a block that is held can be accessed. -/
theorem locate_part (holds : heap.Holds blocks) (member : block ∈ blocks) {offset length : Nat}
    (some : 0 < length) (within : offset + length ≤ block.size) :
    heap.locate (block.address + UInt64.ofNat offset) length =
      .ok (heap.firstUnit block * heap.unit + offset) := by
  have seats := holds.seated block member
  -- The units of the block lie in the arena, and have room for its size.
  have covered := heap.le_unitsFor_mul block.size
  have room : heap.firstUnit block * heap.unit + block.size ≤ heap.size := by
    have whole := Nat.mul_le_mul_right heap.unit seats.inside
    rw [Nat.add_mul] at whole
    unfold size
    omega
  -- The whole arena has addresses, so the part starts where it should.
  have start : (block.address + UInt64.ofNat offset).toNat =
      heapBase + (heap.firstUnit block * heap.unit + offset) := by
    have addressable := holds.addressable
    have small : offset < UInt64.size := by omega
    rw [UInt64.toNat_add, UInt64.toNat_ofNat', seats.address, Nat.mod_eq_of_lt small,
      Nat.mod_eq_of_lt]
    · omega
    · show _ < UInt64.size
      omega
  have low : ¬ (heapBase + (heap.firstUnit block * heap.unit + offset) < heapBase ∨ length = 0 ∨
      heap.size < heap.firstUnit block * heap.unit + offset + length) := by
    omega
  -- So neither bound refuses it, and it is left to see that the units are live.
  unfold Heap.locate
  simp only [start, Nat.add_sub_cancel_left]
  rw [if_neg low, if_pos]
  -- The first and the last byte lie in units of the block.
  refine allLive_of_all fun unit lower upper => holds.live_of_covers member ?_
  have first : heap.firstUnit block ≤ (heap.firstUnit block * heap.unit + offset) / heap.unit := by
    rw [Nat.le_div_iff_mul_le heap.unit_pos]
    omega
  have last : (heap.firstUnit block * heap.unit + offset + length - 1) / heap.unit <
      heap.firstUnit block + heap.unitsFor block.size := by
    rw [Nat.div_lt_iff_lt_mul heap.unit_pos, Nat.add_mul]
    omega
  rw [covers_iff]
  omega

/-- A block that is held can be accessed in its whole size. -/
theorem locate (holds : heap.Holds blocks) (member : block ∈ blocks) :
    heap.locate block.address block.size = .ok (heap.firstUnit block * heap.unit) := by
  have all := holds.locate_part member (holds.seated block member).size_pos
    (Nat.le_of_eq (Nat.zero_add _))
  rwa [show UInt64.ofNat 0 = 0 from rfl, UInt64.add_zero, Nat.add_zero] at all

/-- Freeing a block that is held leaves the others held. -/
theorem release (holds : heap.Holds (block :: blocks)) : (heap.release block).Holds blocks := by
  have seats := holds.seated block (List.mem_cons_self ..)
  have low : heapBase ≤ block.address.toNat := by
    rw [seats.address]
    omega
  -- All its units are live, so each of them is counted when it is freed.
  have all : ∀ unit, heap.firstUnit block ≤ unit →
      unit < heap.firstUnit block + heap.unitsFor block.size → heap.live.getD unit false = true :=
    fun unit lower upper =>
      holds.live_of_covers (List.mem_cons_self ..) (covers_iff.mpr ⟨lower, upper⟩)
  have freed : countLive heap.live (heap.firstUnit block) (heap.unitsFor block.size) 0 =
      heap.unitsFor block.size := by
    rw [countLive_all 0 all]
    omega
  -- The block passes every check that freeing makes.
  have released : heap.release block = { heap with
      live := freeUnits (heap.firstUnit block) (heap.unitsFor block.size) heap.live
      used := heap.used - heap.unitsFor block.size } := by
    unfold Heap.release
    have proper : block.owning = true ∧ heapBase ≤ block.address.toNat ∧
        heap.firstUnit block + heap.unitsFor block.size ≤ heap.units :=
      ⟨seats.owning, low, seats.inside⟩
    simp only [firstUnit] at proper freed ⊢
    rw [if_pos proper, freed]
  rw [released]
  refine ⟨?_, holds.addressable, fun other member => ?_, fun unit => ?_, ?_⟩
  · rw [freeUnits_size]
    exact holds.bounded
  · -- The other blocks own the same units of the same arena.
    have others := holds.seated other (List.mem_cons_of_mem _ member)
    exact ⟨others.owning, others.size_pos, others.address, others.inside⟩
  · have before := holds.ledger unit
    rw [List.countP_cons] at before
    show blocks.countP (heap.covers unit) =
      if (freeUnits _ _ heap.live).getD unit false then 1 else 0
    rw [freeUnits_getD]
    by_cases inside : heap.covers unit block = true
    · -- A unit of the block was counted for the block, so for no other.
      have range := covers_iff.mp inside
      have live := holds.live_of_covers (List.mem_cons_self ..) inside
      rw [if_pos range]
      rw [if_pos inside, live, if_pos rfl] at before
      simpa using before
    · -- Any other unit is left as it is, by the block and by the heap.
      have range := fun range => inside (covers_iff.mpr range)
      rw [if_neg range]
      rw [if_neg inside] at before
      exact before
  · have counted := holds.counted
    -- What was used for the block is subtracted again.
    rw [unitsOf, List.foldr_cons] at counted
    show heap.used - heap.unitsFor block.size = heap.unitsOf blocks
    rw [counted]
    exact Nat.add_sub_cancel_left ..

/-- Freeing blocks that are held leaves the others held. -/
theorem releaseAll {freed : List Block} (holds : heap.Holds (freed ++ blocks)) :
    (heap.releaseAll freed).Holds blocks := by
  -- One block after the other is freed; those behind it are held meanwhile.
  induction freed generalizing heap with
  | nil => exact holds
  | cons block freed ih => exact ih holds.release

end Holds

/-- What is handed out is a run of free units that holds the size. -/
theorem allocate_ok {heap last : Heap} {size : Nat} {block : Block}
    (bounded : heap.live.size ≤ heap.units) (allocated : allocate size heap = .ok block last) :
    ∃ first, 0 < size ∧ first + heap.unitsFor size ≤ heap.units ∧
      (∀ unit, first ≤ unit → unit < first + heap.unitsFor size → heap.unitLive unit = false) ∧
      block = ⟨UInt64.ofNat (heapBase + first * heap.unit), size, true⟩ ∧
      last = heap.take first (heap.unitsFor size) := by
  unfold allocate fit at allocated
  -- Nothing is handed out for an empty request.
  by_cases empty : size = 0
  · simp [empty] at allocated
  · rw [if_neg empty] at allocated
    cases search : findRun heap.live heap.units (heap.unitsFor size) heap.live.size 0 0 with
    | none => simp [search] at allocated
    | some first =>
      simp only [search] at allocated
      cases allocated
      -- The search starts at the first unit, with no unit known to be free yet.
      obtain ⟨inside, free⟩ := findRun_free bounded (by omega) (fun unit _ upper => by omega) search
      exact ⟨first, by omega, inside, free, rfl, rfl⟩

/-- A refused request leaves the heap as it is. -/
theorem allocate_error {heap last : Heap} {size : Nat} {cause : MemoryError}
    (refused : allocate size heap = .error cause last) : last = heap := by
  unfold allocate at refused
  -- Where there is no room, nothing has been taken yet.
  cases fit : heap.fit size with
  | error cause =>
    simp only [fit] at refused
    cases refused
    rfl
  | ok first =>
    simp only [fit] at refused
    cases refused

/-- A block that is handed out is held with the others. -/
theorem allocate_holds {heap last : Heap} {blocks : List Block} (holds : heap.Holds blocks)
    {size : Nat} {block : Block} (allocated : allocate size heap = .ok block last) :
    last.Holds (block :: blocks) := by
  obtain ⟨first, pos, inside, free, rfl, rfl⟩ := allocate_ok holds.bounded allocated
  have needed := heap.unitsFor_pos pos
  have address : (UInt64.ofNat (heapBase + first * heap.unit)).toNat =
      heapBase + first * heap.unit := by
    -- The run starts inside the arena, and the whole arena has addresses.
    have addressable := holds.addressable
    have below : first * heap.unit < heap.size :=
      (Nat.mul_lt_mul_right heap.unit_pos).mpr (by omega)
    rw [UInt64.toNat_ofNat', Nat.mod_eq_of_lt]
    exact Nat.lt_of_lt_of_le (Nat.add_lt_add_left below heapBase) addressable
  let block : Block := ⟨UInt64.ofNat (heapBase + first * heap.unit), size, true⟩
  -- Seen from its address the block starts with the run that was found.
  have start : heap.firstUnit block = first := by
    unfold firstUnit
    rw [address, Nat.add_sub_cancel_left, Nat.mul_div_cancel _ heap.unit_pos]
  refine ⟨takeUnits_size_le inside holds.bounded, holds.addressable, ?_, fun unit => ?_, ?_⟩
  · -- The new block owns the run, and the others own what they did.
    intro other member
    rcases List.mem_cons.mp member with rfl | member
    · exact ⟨rfl, pos, by rw [address]; exact congrArg (heapBase + · * heap.unit) start.symm,
        by show heap.firstUnit block + _ ≤ _; rw [start]; exact inside⟩
    · have seats := holds.seated other member
      exact ⟨seats.owning, seats.size_pos, seats.address, seats.inside⟩
  · have before := holds.ledger unit
    rw [List.countP_cons]
    -- The new block is counted beside the others, in a heap that has taken its run.
    show blocks.countP (heap.covers unit) + (if heap.covers unit block = true then 1 else 0) =
      if (takeUnits first (heap.unitsFor size) heap.live).getD unit false then 1 else 0
    rw [takeUnits_getD, before]
    by_cases range : first ≤ unit ∧ unit < first + heap.unitsFor size
    · -- A unit of the run was free, so no other block has it.
      have covers : heap.covers unit block = true := by
        rw [covers_iff, start]
        exact range
      rw [if_pos range, if_pos covers, free unit range.1 range.2]
      rfl
    · -- Any other unit is not of the block, and is live just if it was.
      have covers : ¬ heap.covers unit block = true := by
        rw [covers_iff, start]
        exact range
      rw [if_neg range, if_neg covers, Nat.add_zero]
      rfl
  · have counted := holds.counted
    -- What is taken for the block is added to what is used.
    show heap.used + heap.unitsFor size = heap.unitsFor size + heap.unitsOf blocks
    omega

/-- A fresh arena that has addresses holds nothing. -/
theorem create_holds {heap : Heap} {size unit : Nat} (created : create size unit = .ok heap)
    (fits : heapBase + size ≤ UInt64.size) : heap.Holds [] := by
  unfold create at created
  split at created
  · rename_i proper
    cases created
    refine ⟨Nat.zero_le _, ?_, nofun, fun unit => ?_, rfl⟩
    · -- The size is a whole number of units, so the units make up all of it.
      have whole : size / unit * unit = size :=
        Nat.div_mul_cancel (Nat.dvd_of_mod_eq_zero proper.2.2)
      show heapBase + size / unit * unit ≤ UInt64.size
      rw [whole]
      exact fits
    · -- No unit of a fresh arena is live.
      simp [unitLive, empty]
  · cases created

/-- The second heap is the first one with other bytes. -/
def Rewritten (heap last : Heap) : Prop := ∃ bytes, last = { heap with bytes }

namespace Rewritten

/-- A heap is itself with its own bytes. -/
theorem refl (heap : Heap) : heap.Rewritten heap := ⟨heap.bytes, rfl⟩

/-- Bytes that are changed twice are changed. -/
theorem trans {first second third : Heap} (one : first.Rewritten second)
    (two : second.Rewritten third) : first.Rewritten third := by
  -- The later bytes are those that stay.
  obtain ⟨bytes, rfl⟩ := one
  obtain ⟨bytes', rfl⟩ := two
  exact ⟨bytes', rfl⟩

/-- Blocks that are held stay so when bytes are written. -/
theorem holds {heap last : Heap} (rewritten : heap.Rewritten last) {blocks : List Block}
    (holds : heap.Holds blocks) : last.Holds blocks := by
  obtain ⟨bytes, rfl⟩ := rewritten
  exact holds.withBytes bytes

end Rewritten

end Heap

/-- The heap that an edit leaves, whether it succeeds or fails. -/
def Edit.after (edit : Edit ε α) (heap : Heap) : Heap :=
  match edit heap with
  | .ok _ last => last
  | .error _ last => last

namespace Heap

/-- Writing changes nothing but bytes. -/
theorem write_rewrites (address : Address) (bytes : List UInt8) (heap : Heap) :
    heap.Rewritten (Edit.after (write address bytes) heap) := by
  unfold Edit.after write
  -- A write that is out of bounds writes nothing.
  cases heap.locate address bytes.length with
  | error cause => exact .refl heap
  | ok offset => exact ⟨_, rfl⟩

/-- Clearing changes nothing but bytes. -/
theorem clear_rewrites (address : Address) (length : Nat) (heap : Heap) :
    heap.Rewritten (Edit.after (clear address length) heap) := by
  unfold Edit.after clear
  cases heap.locate address length with
  | error cause => exact .refl heap
  | ok offset => exact ⟨_, rfl⟩

/-- Copying changes nothing but bytes. -/
theorem copy_rewrites (target source : Address) (length : Nat) (heap : Heap) :
    heap.Rewritten (Edit.after (copy target source length) heap) := by
  unfold Edit.after copy
  -- Copying nothing does not even look at the addresses.
  by_cases none : length = 0
  · rw [if_pos none]
    exact .refl heap
  · rw [if_neg none]
    -- What is copied is read first, and then written like anything else.
    cases heap.read source length with
    | error cause => exact .refl heap
    | ok bytes => exact write_rewrites target bytes heap

end Heap

namespace Block

/-- Writing through a block changes nothing but bytes. -/
theorem write_rewrites (block : Block) (offset : Nat) (bytes : List UInt8) (heap : Heap) :
    heap.Rewritten (Edit.after (block.write offset bytes) heap) := by
  unfold Edit.after write
  cases block.part offset bytes.length with
  | error cause => exact .refl heap
  | ok address => exact Heap.write_rewrites address bytes heap

/-- Filling a block changes nothing but bytes. -/
theorem fillFrom_rewrites (block : Block) (source : Address) (length : Nat) (heap : Heap) :
    heap.Rewritten (Edit.after (block.fillFrom source length) heap) := by
  unfold Edit.after fillFrom
  -- What fills the block is read first.
  cases heap.read source length with
  | error cause => exact .refl heap
  | ok bytes => exact write_rewrites block 0 bytes heap

end Block

end StepMachine
