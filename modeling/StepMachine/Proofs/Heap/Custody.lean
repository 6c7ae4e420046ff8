import Mathlib.Data.List.Perm.Basic
import StepMachine.Proofs.Heap.Growth

/-! A heap in the hands of a host, who asks for blocks, cuts parts from them, reads, writes and
copies as it likes, and gives blocks up in any order: the books of the heap stay right. -/

namespace StepMachine

/-- What a host can ask of a heap. A block in its hands is named by its position among them. -/
inductive HeapCall where
  | allocate (size : Nat)
  /-- Cuts a part from a block, which may itself be a part of another one. -/
  | slice (index offset length : Nat)
  /-- Gives a block up. -/
  | drop (index : Nat)
  | read (address : Address) (length : Nat)
  | write (address : Address) (bytes : List UInt8)
  | readScalar (scalar : Scalar) (address : Address)
  | writeScalar (scalar : Scalar) (address : Address) (number : Int)
  | copy (target source : Address) (length : Nat)
  /-- Reads a part of a block. -/
  | readPart (index offset length : Nat)
  /-- Overwrites a part of a block. -/
  | writePart (index offset : Nat) (bytes : List UInt8)
  /-- Overwrites a block with zeros. -/
  | clear (index : Nat)
  /-- Copies bytes from elsewhere to the start of a block. -/
  | fill (index : Nat) (source : Address) (length : Nat)
  deriving DecidableEq

/-- A heap, and the blocks of it that are in the hands of a host. -/
structure Custody where
  heap : Heap
  blocks : List Block := []

namespace Custody

/-- The blocks whose giving up frees units. -/
def owners (custody : Custody) : List Block := custody.blocks.filter (·.owning)

/-- Changes the heap, whether the change succeeds or fails. -/
def edit (custody : Custody) (change : Edit MemoryError Unit) : Custody :=
  { custody with heap := Edit.after change custody.heap }

/-- Changes the heap through a block, if there is one of that name. -/
def through (custody : Custody) (index : Nat) (change : Block → Edit MemoryError Unit) : Custody :=
  match custody.blocks[index]? with
  | some block => custody.edit (change block)
  | none => custody

/-- What is left after a call, whether it succeeds or fails. -/
def step (custody : Custody) : HeapCall → Custody
  | .allocate size =>
    match Heap.allocate size custody.heap with
    | .ok block heap => { heap, blocks := custody.blocks ++ [block] }
    | .error _ heap => { custody with heap }
  | .slice index offset length =>
    match custody.blocks[index]? with
    | some block =>
      match block.slice offset length with
      | .ok part => { custody with blocks := custody.blocks ++ [part] }
      | .error _ => custody
    | none => custody
  | .drop index =>
    match custody.blocks[index]? with
    | some block =>
      { heap := custody.heap.release block, blocks := custody.blocks.eraseIdx index }
    | none => custody
  -- Whatever is read, the heap is the same.
  | .read _ _ | .readScalar _ _ | .readPart _ _ _ => custody
  | .write address bytes => custody.edit (Heap.write address bytes)
  | .writeScalar scalar address number => custody.edit (Heap.writeScalar scalar address number)
  | .copy target source length => custody.edit (Heap.copy target source length)
  | .writePart index offset bytes => custody.through index (·.write offset bytes)
  | .clear index => custody.through index (·.clear)
  | .fill index source length => custody.through index (·.fillFrom source length)

/-- What is left after calls one after the other. -/
def run (custody : Custody) (calls : List HeapCall) : Custody := calls.foldl step custody

/-- A call that neither hands out a block nor takes one back changes bytes only; at most it adds
blocks that own nothing. -/
structure Mild (before after : Custody) : Prop where
  rewritten : before.heap.Rewritten after.heap
  owners : after.owners = before.owners
  kept : ∀ (index : Nat) block, before.blocks[index]? = some block →
    after.blocks[index]? = some block

namespace Mild

/-- A call that changes nothing is mild. -/
theorem refl (custody : Custody) : custody.Mild custody := ⟨.refl _, rfl, fun _ _ => id⟩

/-- An edit that writes bytes only is mild. -/
theorem edit (custody : Custody) {change : Edit MemoryError Unit}
    (rewritten : custody.heap.Rewritten (Edit.after change custody.heap)) :
    custody.Mild (custody.edit change) :=
  ⟨rewritten, rfl, fun _ _ => id⟩

/-- So is one that goes through a block. -/
theorem through (custody : Custody) (index : Nat) {change : Block → Edit MemoryError Unit}
    (rewritten : ∀ block, custody.heap.Rewritten (Edit.after (change block) custody.heap)) :
    custody.Mild (custody.through index change) := by
  -- If there is no such block, nothing is done.
  unfold Custody.through
  split
  · exact edit custody (rewritten _)
  · exact refl custody

/-- A part that is cut from a block owns nothing. -/
theorem slice (custody : Custody) {block part : Block} {offset length : Nat}
    (cut : block.slice offset length = .ok part) :
    custody.Mild { custody with blocks := custody.blocks ++ [part] } := by
  -- What a cut hands on is marked as owning nothing.
  have idle : part.owning = false := by
    unfold Block.slice at cut
    cases located : block.part offset length with
    | error cause =>
      rw [located] at cut
      cases cut
    | ok address =>
      rw [located] at cut
      cases cut
      rfl
  -- The part stands behind all others, so every other block keeps its position.
  refine ⟨.refl _, by simp [Custody.owners, idle], fun index other found => ?_⟩
  have inside := (List.getElem?_eq_some_iff.mp found).1
  show (custody.blocks ++ [part])[index]? = some other
  rw [List.getElem?_append_left inside, found]

end Mild

/-- All that a call can do: hand out a block, take one back, or something mild. -/
theorem step_cases (custody : Custody) (call : HeapCall) :
    (∃ size block heap, call = .allocate size ∧
      Heap.allocate size custody.heap = .ok block heap ∧
      custody.step call = { heap, blocks := custody.blocks ++ [block] }) ∨
    (∃ index block, call = .drop index ∧ custody.blocks[index]? = some block ∧
      custody.step call =
        { heap := custody.heap.release block, blocks := custody.blocks.eraseIdx index }) ∨
    custody.Mild (custody.step call) := by
  -- Only asking for a block and giving one up do more than write.
  cases call with
  | allocate size =>
    simp only [step]
    split
    · rename_i block heap allocated
      exact .inl ⟨size, block, heap, rfl, allocated, rfl⟩
    · -- A refused request leaves the heap as it is.
      rename_i cause heap refused
      rw [Heap.allocate_error refused]
      exact .inr (.inr (.refl custody))
  | slice index offset length =>
    simp only [step]
    -- A part that can be cut stands behind the others, and one that cannot is not made.
    split
    · split
      · rename_i cut
        exact .inr (.inr (.slice custody cut))
      · exact .inr (.inr (.refl custody))
    · exact .inr (.inr (.refl custody))
  | drop index =>
    simp only [step]
    -- A position without a block gives up nothing.
    split
    · rename_i block found
      exact .inr (.inl ⟨index, block, rfl, found, rfl⟩)
    · exact .inr (.inr (.refl custody))
  | read _ _ | readScalar _ _ | readPart _ _ _ => exact .inr (.inr (.refl custody))
  | write address bytes => exact .inr (.inr (.edit custody (Heap.write_rewrites ..)))
  | writeScalar scalar address number =>
    exact .inr (.inr (.edit custody (Heap.write_rewrites ..)))
  | copy target source length => exact .inr (.inr (.edit custody (Heap.copy_rewrites ..)))
  -- What is done through a block writes in the arena and nowhere else.
  | writePart index offset bytes =>
    exact .inr (.inr (.through custody index fun block => block.write_rewrites ..))
  | clear index =>
    exact .inr (.inr (.through custody index fun block => Heap.clear_rewrites ..))
  | fill index source length =>
    exact .inr (.inr (.through custody index fun block => block.fillFrom_rewrites ..))

variable {custody : Custody}

/-- A block that is taken out of the hands of the host is one of the owners, or none of them. -/
theorem owners_perm {index : Nat} {block : Block} (found : custody.blocks[index]? = some block) :
    custody.owners.Perm ([block].filter (·.owning) ++
      (custody.blocks.eraseIdx index).filter (·.owning)) := by
  -- The block stands at its position, so the list is that block and the others in another order.
  obtain ⟨inside, rfl⟩ := List.getElem?_eq_some_iff.mp found
  have split := (List.getElem_cons_eraseIdx_perm inside).symm.filter (·.owning)
  rwa [← List.singleton_append, List.filter_append] at split

/-- Giving up a block that owns nothing changes nothing. -/
theorem release_idle {heap : Heap} {block : Block} (idle : block.owning = false) :
    heap.release block = heap := by
  unfold Heap.release
  simp [idle]

/-- After every call the heap holds just the owners, in an arena of the same shape. -/
theorem step_holds (holds : custody.heap.Holds custody.owners) (call : HeapCall) :
    (custody.step call).heap.Holds (custody.step call).owners ∧
      custody.heap.SameArena (custody.step call).heap := by
  -- A block is handed out, taken back, or something mild is done.
  rcases custody.step_cases call with
    ⟨size, block, heap, rfl, allocated, next⟩ | ⟨index, block, rfl, found, next⟩ | mild
  · rw [next]
    refine ⟨(Heap.allocate_holds holds allocated).perm ?_,
      (Heap.allocate_inside holds.bounded allocated).1⟩
    -- The new block owns its units, and stands behind the others.
    have owning : block.owning = true :=
      ((Heap.allocate_holds holds allocated).seated block (List.mem_cons_self ..)).owning
    have last : Custody.owners { heap, blocks := custody.blocks ++ [block] } =
        custody.owners ++ [block] := by
      simp [owners, owning]
    rw [last]
    exact (List.perm_append_singleton ..).symm
  · rw [next]
    refine ⟨?_, custody.heap.release_sameArena block⟩
    have split := owners_perm found
    cases owning : block.owning with
    | true =>
      rw [List.filter_cons, if_pos owning] at split
      exact (holds.perm split).release
    | false =>
      rw [release_idle owning]
      rw [List.filter_cons, if_neg (by simp [owning])] at split
      exact holds.perm split
  · -- What is mild keeps the owners.
    rw [mild.owners]
    exact ⟨mild.rewritten.holds holds, .of_rewritten mild.rewritten⟩

/-- So it does after any calls. -/
theorem run_holds (holds : custody.heap.Holds custody.owners) (calls : List HeapCall) :
    (custody.run calls).heap.Holds (custody.run calls).owners ∧
      custody.heap.SameArena (custody.run calls).heap := by
  -- The calls are made in order, each on what the one before it has left.
  induction calls generalizing custody with
  | nil => exact ⟨holds, .refl _⟩
  | cons call calls ih =>
    obtain ⟨next, same⟩ := step_holds holds call
    obtain ⟨last, further⟩ := ih next
    exact ⟨last, same.trans further⟩

/-- A block that is not given up itself is still in the hands of the host after a call. -/
theorem mem_owners_step {index : Nat} {other : Block}
    (found : custody.blocks[index]? = some other) (owning : other.owning = true) {call : HeapCall}
    (kept : call ≠ .drop index) : other ∈ (custody.step call).owners := by
  -- Whatever the call does, the block stays in the host's hands.
  have still : other ∈ (custody.step call).blocks := by
    rcases custody.step_cases call with
      ⟨size, block, heap, rfl, allocated, next⟩ | ⟨given, block, rfl, -, next⟩ | mild
    · rw [next]
      exact List.mem_append_left _ (List.mem_of_getElem? found)
    · -- Another position is given up.
      rw [next]
      have apart : index ≠ given := fun same => kept (by rw [same])
      exact List.mem_eraseIdx_iff_getElem?.mpr ⟨index, apart, found⟩
    · exact List.mem_of_getElem? (mild.kept index other found)
  exact List.mem_filter.mpr ⟨still, owning⟩

/-- Giving up an owner frees its units and no others. -/
theorem unitLive_release {heap : Heap} {blocks : List Block} (holds : heap.Holds blocks)
    {block : Block} (member : block ∈ blocks) (unit : Nat) :
    (heap.release block).unitLive unit = (heap.unitLive unit && !heap.covers unit block) := by
  -- It has an owner's seat, so its giving up is carried out.
  have seats := holds.seated block member
  have proper : block.owning = true ∧ heapBase ≤ block.address.toNat ∧
      heap.firstUnit block + heap.unitsFor block.size ≤ heap.units :=
    ⟨seats.owning, by rw [seats.address]; omega, seats.inside⟩
  have freed : (heap.release block).unitLive unit =
      (freeUnits (heap.firstUnit block) (heap.unitsFor block.size) heap.live).getD unit false := by
    unfold Heap.release
    simp only [Heap.firstUnit] at proper ⊢
    rw [if_pos proper]
    rfl
  rw [freed, freeUnits_getD]
  -- A unit that the block covers is freed, and any other keeps its mark.
  cases covered : heap.covers unit block with
  | true => rw [if_pos (Heap.covers_iff.mp covered), Bool.not_true, Bool.and_false]
  | false =>
    have outside := fun range => Bool.false_ne_true (covered.symm.trans (Heap.covers_iff.mpr range))
    rw [if_neg outside, Bool.not_false, Bool.and_true]
    rfl

/-- A fresh heap has as many units as make up the size that was asked for. -/
theorem create_geometry {size unit : Nat} {heap : Heap}
    (created : Heap.create size unit = .ok heap) :
    heap.unit = unit ∧ heap.units = size / unit ∧ size / unit * unit = size := by
  -- Both numbers are read off the settings that were accepted.
  unfold Heap.create at created
  split at created
  · rename_i proper
    cases created
    exact ⟨rfl, rfl, Nat.div_mul_cancel (Nat.dvd_of_mod_eq_zero proper.2.2)⟩
  · cases created

/-- What is used and what is free make up the whole arena. -/
theorem usedBytes_add_freeBytes {heap : Heap} {blocks : List Block} (holds : heap.Holds blocks) :
    heap.usedBytes + heap.freeBytes = heap.size := by
  -- No more units are used than there are.
  have fits : heap.usedBytes ≤ heap.size := Nat.mul_le_mul_right heap.unit holds.used_le
  unfold Heap.freeBytes
  omega

/--
Whatever a host does with a fresh heap, in whatever order, the books of the heap are right.

The owning blocks in its hands lie on whole units inside the arena, each on as many as its size
rounded up takes, and no two have a unit in common.
A unit is live just if one of them covers it.
What is used is the number of live units in the arena, none behind the arena is live, and what is
used and what is free make up the size that the heap was made with.
Giving up a part changes nothing; giving up an owner frees just its own units.
And no call makes a unit of an owner free, or live, unless it gives up that owner.
All that is asked of the heap is that each of its bytes has an address of 64 bits, as in every arena
that a host can make.
-/
theorem books_stay_right {size unit : Nat} {heap : Heap}
    (created : Heap.create size unit = .ok heap) (fits : heapBase + size ≤ UInt64.size)
    (calls : List HeapCall) :
    let custody := Custody.run { heap } calls
    custody.heap.unit = unit ∧
    (∀ block ∈ custody.owners, 0 < block.size ∧
      block.address.toNat = heapBase + custody.heap.firstUnit block * unit ∧
      custody.heap.firstUnit block + (block.size + unit - 1) / unit ≤ size / unit) ∧
    (custody.owners.Pairwise fun one other =>
      ∀ index, ¬ (custody.heap.covers index one = true ∧
        custody.heap.covers index other = true)) ∧
    (∀ index, custody.heap.unitLive index = true ↔
      ∃ block ∈ custody.owners, custody.heap.covers index block = true) ∧
    custody.heap.used = countLive custody.heap.live 0 (size / unit) 0 ∧
    (∀ index, size / unit ≤ index → custody.heap.unitLive index = false) ∧
    custody.heap.usedBytes + custody.heap.freeBytes = size ∧
    (∀ (position : Nat) block, custody.blocks[position]? = some block →
      (block.owning = false → (custody.step (.drop position)).heap = custody.heap) ∧
      (block.owning = true → ∀ index, (custody.step (.drop position)).heap.unitLive index =
        (custody.heap.unitLive index && !custody.heap.covers index block))) ∧
    ∀ call (position : Nat) other, custody.blocks[position]? = some other →
      other.owning = true → call ≠ .drop position →
      ∀ index, custody.heap.covers index other = true →
        (custody.step call).heap.unitLive index = custody.heap.unitLive index := by
  intro custody
  -- A fresh heap holds nothing, and every call keeps the books.
  have fresh : (Custody.mk heap []).heap.Holds (Custody.mk heap []).owners :=
    Heap.create_holds created fits
  obtain ⟨holds, same⟩ := run_holds fresh calls
  obtain ⟨unitSize, units, sized⟩ := create_geometry created
  have unit_eq : custody.heap.unit = unit := same.unit.trans unitSize
  have units_eq : custody.heap.units = size / unit := same.units.trans units
  refine ⟨unit_eq, fun block member => ?_, holds.apart, fun index => ?_, ?_, fun index behind => ?_,
    ?_, fun position block found => ⟨fun idle => ?_, fun owning index => ?_⟩,
    fun call position other found owning kept index covered => ?_⟩
  · -- The seat of a block tells all three.
    have seats := holds.seated block member
    have inside := seats.inside
    rw [Heap.unitsFor, unit_eq, units_eq] at inside
    refine ⟨seats.size_pos, ?_, inside⟩
    rw [seats.address, unit_eq]
  · -- The ledger counts how many blocks cover a unit: one if it is live, else none.
    rw [← List.countP_pos_iff, holds.ledger]
    cases custody.heap.unitLive index <;> simp
  · rw [← units_eq]
    exact holds.used_eq_countLive
  · exact holds.dead_behind (units_eq ▸ behind)
  · rw [usedBytes_add_freeBytes holds, Heap.size, units_eq, unit_eq]
    exact sized
  · -- Giving up what owns nothing is not carried out.
    simp only [step, found]
    exact release_idle idle
  · -- Giving up an owner frees what it covers.
    simp only [step, found]
    have member : block ∈ custody.owners :=
      List.mem_filter.mpr ⟨List.mem_of_getElem? found, owning⟩
    exact unitLive_release holds member index
  · -- Before and after the call the block is held, and so its units are live.
    have member : other ∈ custody.owners :=
      List.mem_filter.mpr ⟨List.mem_of_getElem? found, owning⟩
    obtain ⟨next, shape⟩ := step_holds holds call
    have still : (custody.step call).heap.covers index other = true := by
      rw [← covered]
      unfold Heap.covers Heap.firstUnit Heap.unitsFor
      rw [shape.unit]
    rw [holds.live_of_covers member covered,
      next.live_of_covers (mem_owners_step found owning kept) still]

/-- A block is given up before the part of a part of it, and a larger one is handed out behind: the
small block between them keeps its unit, whatever becomes of the others. -/
theorem books_stay_right_between_neighbours :
    ∃ heap, Heap.create 64 8 = .ok heap ∧
      let custody := Custody.run { heap }
        [.allocate 20, .allocate 5, .slice 0 4 8, .slice 2 0 4, .drop 0, .allocate 30]
      custody.blocks.map (fun block => (block.size, block.owning)) =
        [(5, true), (8, false), (4, false), (30, true)] ∧
      custody.heap.used = countLive custody.heap.live 0 8 0 ∧ custody.heap.used = 5 ∧
      (custody.step (.drop 2)).heap = custody.heap ∧
      (custody.step (.drop 3)).heap.unitLive 7 = false ∧
      (custody.step (.drop 3)).heap.unitLive 3 = true := by
  have created : Heap.create 64 8 = .ok _ := rfl
  refine ⟨_, created, ?_⟩
  intro custody
  -- The calls are made once, and the blocks that are left are listed.
  have sizes : custody.blocks.map (fun block => (block.size, block.owning)) =
      [(5, true), (8, false), (4, false), (30, true)] := by
    decide +kernel
  -- The theorem says which units are live after the last of these calls.
  obtain ⟨-, -, -, -, counted, -, -, given, others⟩ := books_stay_right created (by decide)
    [.allocate 20, .allocate 5, .slice 0 4 8, .slice 2 0 4, .drop 0, .allocate 30]
  have small : custody.blocks[0]? = some ⟨0x1018, 5, true⟩ := by decide +kernel
  have part : custody.blocks[2]? = some ⟨0x1004, 4, false⟩ := by decide +kernel
  have large : custody.blocks[3]? = some ⟨0x1020, 30, true⟩ := by decide +kernel
  -- A part frees nothing, and the last block frees its own units only.
  refine ⟨sizes, counted, by decide +kernel, (given 2 _ part).1 rfl, ?_, ?_⟩
  · rw [(given 3 _ large).2 rfl 7]
    decide +kernel
  · rw [others (.drop 3) 0 _ small rfl (by decide) 3 (by decide +kernel)]
    decide +kernel

end Custody

end StepMachine
