import StepMachine.Proofs.Context.Account
import StepMachine.Proofs.Exec.Unordered

/-! What is held can be given up in any order: the heap that is left is the same, and so is all that
comes later. -/

namespace StepMachine

/-- A heap that a host makes of a fresh one, call by call, or a program, step by step, and the
owning blocks that are held on it then. -/
inductive Heap.ReachedHolding (fresh : Heap) : Heap → List Block → Prop where
  | host (calls : List HeapCall) :
    ReachedHolding fresh (Custody.run { heap := fresh } calls).heap
      (Custody.run { heap := fresh } calls).owners
  | program {program : Program} {depthLimit grants : Nat} {context : Context}
    (reachable : (Context.start program fresh depthLimit grants).Reachable context) :
    ReachedHolding fresh context.heap context.owned

/-- A program that can be reached from its start on a fresh heap holds its own. -/
theorem Context.Reachable.owns {fresh : Heap} {size unit : Nat}
    (created : Heap.create size unit = .ok fresh) (fits : heapBase + size ≤ UInt64.size)
    {program : Program} {depthLimit grants : Nat} {context : Context}
    (reachable : (Context.start program fresh depthLimit grants).Reachable context) :
    context.Owns :=
  reachable.keeps Exec.steps_own (Context.start_owns created fits _ _ _)

/-- In whoever's hands, the heap holds just these blocks. -/
theorem Heap.ReachedHolding.holds {fresh heap : Heap} {held : List Block} {size unit : Nat}
    (created : create size unit = .ok fresh) (fits : heapBase + size ≤ UInt64.size)
    (reached : fresh.ReachedHolding heap held) : heap.Holds held := by
  -- Either the calls of a host or the steps of a program have led here, and both keep the books.
  cases reached with
  | host calls =>
    have start : (Custody.mk fresh []).heap.Holds (Custody.mk fresh []).owners :=
      create_holds created fits
    exact (Custody.run_holds start calls).1
  | program reachable => exact (reachable.owns created fits).holds

/--
The order in which things are given up never shows.

Any of the owning blocks that are held on a heap, be it in the hands of a host or of a program,
leave the same heap behind in whatever order they are given up: the same units are live, the same
number of them is counted, and the bytes are as they were.
What is used goes down by the sum of their sizes, each rounded up to whole units.
Whatever a host does then has the same course.
A program may list the bindings of each scope, and the blocks that it was given, in any order.
Closing a block, leaving a function, giving up what it was given together with its global names, and
freeing everything that it holds end in the same way and leave the same heap.
So does all that is done to it later, and new objects and new blocks are put at the same addresses.
All that is asked of the heap is that each of its bytes has an address of 64 bits, as in every arena
that a host can make.
-/
theorem given_up_in_any_order {size unit : Nat} {fresh : Heap}
    (created : Heap.create size unit = .ok fresh) (fits : heapBase + size ≤ UInt64.size) :
    (∀ heap held, fresh.ReachedHolding heap held →
      ∀ freed other : List Block, freed.Nodup → (∀ block ∈ freed, block ∈ held) →
        freed.Perm other →
        heap.releaseAll other = heap.releaseAll freed ∧
        (heap.releaseAll freed).bytes = heap.bytes ∧
        (heap.releaseAll freed).usedBytes + (freed.map heap.roundedSize).sum = heap.usedBytes ∧
        ∀ kept calls, Custody.run ⟨heap.releaseAll other, kept⟩ calls =
          Custody.run ⟨heap.releaseAll freed, kept⟩ calls) ∧
    ∀ program depthLimit grants context other,
      (Context.start program fresh depthLimit grants).Reachable context →
      context.Reordered other →
        Exec.Alike Eq (Exec.popScope context) (Exec.popScope other) ∧
        Exec.Alike Frame.Reordered (Exec.popFrame context) (Exec.popFrame other) ∧
        other.heap.releaseAll (other.dynamic ++ other.globals.blocks) =
          context.heap.releaseAll (context.dynamic ++ context.globals.blocks) ∧
        other.tearDown.heap = context.tearDown.heap ∧
        ∀ operations,
          let one := Operation.performAll operations context
          let two := Operation.performAll operations other
          one.Reordered two ∧
          (∀ size, Exec.Alike Eq (Exec.malloc size one) (Exec.malloc size two)) ∧
          ∀ name type init, Exec.Alike Eq (Exec.declare name type init one)
            (Exec.declare name type init two) := by
  refine ⟨fun heap held reached freed other once among same => ?_,
    fun program depthLimit grants context other reachable same => ?_⟩
  · -- The blocks are held beside some others, so that each release counts just its own units.
    obtain ⟨kept, holds⟩ := (reached.holds created fits).split once among
    have order := heap.releaseAll_perm same
    refine ⟨order.symm, heap.releaseAll_bytes freed, holds.usedBytes_releaseAll,
      fun kept calls => ?_⟩
    rw [order]
  · -- No two blocks overlap and no name stands twice, in this state and in all that follow.
    have owns := reachable.owns created fits
    refine ⟨Exec.popScope_unordered.alike context other owns same,
      Exec.popFrame_unordered.alike context other owns same, ?_, same.tearDown.heap,
      fun operations => ?_⟩
    · -- The blocks under an address and the variables come in other orders, each among themselves.
      rw [same.heap]
      exact (context.heap.releaseAll_perm (same.dynamic.append same.globals.blocks)).symm
    · -- What follows keeps the two states alike, so that what can be asked of them then agrees.
      have later := Operation.performAll_unordered operations owns same
      have held := Operation.performAll_owns operations owns
      exact ⟨later, fun size => (Exec.malloc_unordered size).alike _ _ held later,
        fun name type init => (Exec.declare_unordered name type init).alike _ _ held later⟩

/-- Of three blocks that a host holds, the first and the last are given up in either order.
A program with two names and two given blocks may list them backwards: what it gives up leaves the
same heap, and when it has freed one of the blocks, the next that it is given has the same
address. -/
theorem given_up_in_any_order_backwards :
    ∃ fresh, Heap.create 64 8 = .ok fresh ∧
      (let heap := (Custody.run { heap := fresh } [.allocate 8, .allocate 20, .allocate 5]).heap
        let first : Block := ⟨0x1000, 8, true⟩
        let last : Block := ⟨0x1020, 5, true⟩
        heap.releaseAll [last, first] = heap.releaseAll [first, last] ∧
          (heap.releaseAll [first, last]).usedBytes + 16 = heap.usedBytes) ∧
      (let context := Step.walk [.declare "x" .int none, .declare "y" .char none, .malloc 10,
          .malloc 3] (Context.start {} fresh 4 0)
        let other := { context with
          globals := ⟨context.globals.bindings.reverse⟩
          dynamic := context.dynamic.reverse }
        other.dynamic ≠ context.dynamic ∧
          other.heap.releaseAll (other.dynamic ++ other.globals.blocks) =
            context.heap.releaseAll (context.dynamic ++ context.globals.blocks) ∧
          ∃ one two,
            Exec.malloc 8 (Operation.performAll [.free 0x1010] context) = .ok 0x1010 one ∧
            Exec.malloc 8 (Operation.performAll [.free 0x1010] other) = .ok 0x1010 two) := by
  have created : Heap.create 64 8 = .ok _ := rfl
  -- The host's blocks are given up in two orders, and the program lists what it has in two.
  refine ⟨_, created, ?_, ?_⟩
  · -- Both of the blocks are held, and the order of the two is changed.
    intro heap first last
    obtain ⟨blocks, -⟩ := given_up_in_any_order created (by decide)
    obtain ⟨same, -, used, -⟩ := blocks _ _ (.host [.allocate 8, .allocate 20, .allocate 5])
      [first, last] [last, first] (by decide) (by decide +kernel) (.swap ..)
    have rounded : ([first, last].map heap.roundedSize).sum = 16 := by decide +kernel
    exact ⟨same, rounded ▸ used⟩
  · -- The state with both lists backwards differs from the first in their order only.
    intro context other
    obtain ⟨-, programs⟩ := given_up_in_any_order created (by decide)
    have backwards : context.Reordered other := {
      program := rfl, heap := rfl, stack := ⟨.nil, rfl⟩, active := rfl, temporaries := rfl
      strings := rfl, refused := rfl, terminal := rfl, cursor := rfl, grants := rfl
      globals := (List.reverse_perm _).symm, dynamic := (List.reverse_perm _).symm
      journal := .off }
    obtain ⟨-, -, given, -, later⟩ := programs {} 4 0 context other (Step.walk_reachable .start _)
      backwards
    obtain ⟨-, malloc, -⟩ := later [.free 0x1010]
    -- The next block is put where the one that was freed has been.
    have address : (match Exec.malloc 8 (Operation.performAll [.free 0x1010] context) with
        | .ok address _ => decide (address = 0x1010)
        | .error _ _ => false) = true := by
      decide +kernel
    have alike := malloc 8
    generalize Exec.malloc 8 (Operation.performAll [.free 0x1010] context) = one,
      Exec.malloc 8 (Operation.performAll [.free 0x1010] other) = two at alike address
    refine ⟨by decide +kernel, given, ?_⟩
    cases alike with
    | error reason same => cases address
    | ok results same =>
      rw [← results, of_decide_eq_true address]
      exact ⟨_, _, rfl, rfl⟩

end StepMachine
