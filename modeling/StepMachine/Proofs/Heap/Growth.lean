import StepMachine.Eval.Format
import StepMachine.Proofs.Exec.Run
import StepMachine.Proofs.Stack.Variable

/-! A heap and the same heap with a longer arena: what is found, read, written and freed in the one
is so in the other, as long as there is room in the shorter one. -/

namespace StepMachine

/-- Whether an operation on memory failed for want of room. -/
def MemoryError.wantsRoom : MemoryError → Bool
  | outOfMemory _ _ => true
  | _ => false

/-- Whether a rule of frames was broken for want of room. -/
def StackError.wantsRoom : StackError → Bool
  | overflow _ => true
  | _ => false

/-- Whether a program was stopped for want of room, in memory or on the stack. -/
def RuntimeError.wantsRoom : RuntimeError → Bool
  | memory cause => cause.wantsRoom
  | stack cause => cause.wantsRoom
  | _ => false

namespace Heap

/-- The heap with more units in its arena, all of them free and zero. -/
def grown (heap : Heap) (more : Nat) : Heap := { heap with units := heap.units + more }

/-- No unit behind the arena was ever handed out. -/
def Bounded (heap : Heap) : Prop := heap.live.size ≤ heap.units

/-- The units of a block lie in the arena. -/
def Inside (heap : Heap) (block : Block) : Prop :=
  heap.firstUnit block + heap.unitsFor block.size ≤ heap.units

/-- Two heaps with an arena of the same shape, of which the second one is bounded if the first one
is. -/
structure SameArena (before after : Heap) : Prop where
  unit : after.unit = before.unit
  units : after.units = before.units
  bounded : before.Bounded → after.Bounded

namespace SameArena

/-- Nothing has changed yet. -/
theorem refl (heap : Heap) : heap.SameArena heap := ⟨rfl, rfl, id⟩

/-- What stays the same twice stays the same. -/
theorem trans {first second third : Heap} (one : first.SameArena second)
    (two : second.SameArena third) : first.SameArena third :=
  ⟨two.unit.trans one.unit, two.units.trans one.units, two.bounded ∘ one.bounded⟩

/-- Where a block lies depends on the shape of the arena only. -/
theorem inside {before after : Heap} (same : before.SameArena after) {block : Block}
    (inside : before.Inside block) : after.Inside block := by
  -- The first unit and the number of units are computed from the shape alone.
  unfold Inside firstUnit unitsFor at inside ⊢
  rw [same.unit, same.units]
  exact inside

/-- Writing bytes leaves the arena as it is. -/
theorem of_rewritten {before after : Heap} (rewritten : before.Rewritten after) :
    before.SameArena after := by
  obtain ⟨bytes, rfl⟩ := rewritten
  exact ⟨rfl, rfl, id⟩

end SameArena

/-- Freeing a block leaves the arena as it is. -/
theorem release_sameArena (heap : Heap) (block : Block) : heap.SameArena (heap.release block) := by
  unfold release
  dsimp only
  -- A block that owns nothing, or lies elsewhere, changes nothing at all.
  split
  · refine ⟨rfl, rfl, fun bounded => ?_⟩
    unfold Bounded
    rw [freeUnits_size]
    exact bounded
  · exact .refl heap

/-- Freeing blocks leaves the arena as it is. -/
theorem releaseAll_sameArena (heap : Heap) (blocks : List Block) :
    heap.SameArena (heap.releaseAll blocks) := by
  -- The blocks are freed one after the other, and each leaves the arena as it is.
  unfold releaseAll
  induction blocks generalizing heap with
  | nil => exact .refl heap
  | cons block rest ih => exact (heap.release_sameArena block).trans (ih (heap.release block))

/-- What is handed out lies in the arena, which stays as it is. -/
theorem allocate_inside {heap last : Heap} {size : Nat} {block : Block} (bounded : heap.Bounded)
    (allocated : allocate size heap = .ok block last) :
    heap.SameArena last ∧ last.Inside block := by
  -- The block starts at the unit that was found.
  obtain ⟨first, -, inside, -, rfl, rfl⟩ := allocate_ok bounded allocated
  refine ⟨⟨rfl, rfl, fun bounded => takeUnits_size_le inside bounded⟩, ?_⟩
  -- Where an address has not enough bits for the run, it names a unit further down.
  have lower : ((UInt64.ofNat (heapBase + first * heap.unit)).toNat - heapBase) / heap.unit ≤
      first := by
    have below : (heapBase + first * heap.unit) % UInt64.size ≤ heapBase + first * heap.unit :=
      Nat.mod_le _ _
    calc ((UInt64.ofNat (heapBase + first * heap.unit)).toNat - heapBase) / heap.unit
        ≤ first * heap.unit / heap.unit := by
          rw [UInt64.toNat_ofNat']
          exact Nat.div_le_div_right (by omega)
      _ = first := Nat.mul_div_cancel _ heap.unit_pos
  exact Nat.le_trans (Nat.add_le_add_right lower _) inside

section Grown

variable {heap : Heap} (bounded : heap.Bounded) (more : Nat)

include bounded

/-- A range is accessible in a longer arena just if it was: what was behind the arena is free. -/
theorem locate_grown (address : Address) (length : Nat) :
    (heap.grown more).locate address length = heap.locate address length := by
  have size : (heap.grown more).size = heap.size + more * heap.unit := Nat.add_mul ..
  have live : (heap.grown more).live = heap.live := rfl
  have unit : (heap.grown more).unit = heap.unit := rfl
  unfold locate
  simp only [size, live, unit]
  by_cases outside : address.toNat < heapBase ∨ length = 0
  · simp only [← or_assoc, outside, true_or, if_true]
  by_cases beyond : heap.size < address.toNat - heapBase + length
  · -- The last unit of the range was never handed out, so the range is not live.
    have dead : ¬ allLive heap.live ((address.toNat - heapBase) / heap.unit)
        ((address.toNat - heapBase + length - 1) / heap.unit + 1 -
          (address.toNat - heapBase) / heap.unit) = true := by
      intro all
      have ordered : (address.toNat - heapBase) / heap.unit ≤
          (address.toNat - heapBase + length - 1) / heap.unit := Nat.div_le_div_right (by omega)
      have last := live_of_allLive all ordered (by omega)
      have behind : heap.units ≤ (address.toNat - heapBase + length - 1) / heap.unit := by
        rw [Nat.le_div_iff_mul_le heap.unit_pos]
        unfold Heap.size at beyond
        omega
      have missing : heap.live[(address.toNat - heapBase + length - 1) / heap.unit]? = none := by
        rw [Array.getElem?_eq_none_iff]
        exact Nat.le_trans bounded behind
      simp [Array.getD_eq_getD_getElem?, missing] at last
    simp only [← or_assoc, outside, false_or, beyond, if_neg dead, ite_self]
  · have further : ¬ heap.size + more * heap.unit < address.toNat - heapBase + length := by omega
    simp only [← or_assoc, outside, false_or, beyond, further, if_false]

/-- A range is live in a longer arena just if it was. -/
theorem isLive_grown (address : Address) (length : Nat) :
    (heap.grown more).isLive address length = heap.isLive address length := by
  unfold isLive
  rw [locate_grown bounded]

omit bounded in
/-- Bytes are listed alike, since no byte has moved. -/
theorem bytesAt_grown (position count : Nat) (behind : List UInt8) :
    (heap.grown more).bytesAt position count behind = heap.bytesAt position count behind := by
  -- The last byte goes in front of the others, so what is behind varies.
  induction count generalizing behind with
  | zero => rfl
  | succ count ih => exact ih _

omit bounded in
/-- So is the number that they stand for. -/
theorem numberAt_grown (position count : Nat) :
    (heap.grown more).numberAt position count = heap.numberAt position count := by
  -- The induction is on the bytes, least first.
  induction count generalizing position with
  | zero => rfl
  | succ count ih =>
    rw [numberAt, numberAt, ih]
    rfl

/-- What is read in a longer arena is the same. -/
theorem read_grown (address : Address) (length : Nat) :
    (heap.grown more).read address length = heap.read address length := by
  unfold read
  simp only [locate_grown bounded, bytesAt_grown]

/-- So is an integer that is read. -/
theorem readScalar_grown (scalar : Scalar) (address : Address) :
    (heap.grown more).readScalar scalar address = heap.readScalar scalar address := by
  unfold readScalar
  simp only [locate_grown bounded, numberAt_grown]

/-- So is a value that is loaded. -/
theorem load_grown (address : Address) (type : CType) :
    (heap.grown more).load address type = heap.load address type := by
  -- A scalar is read, and a structure has to be live.
  unfold load
  simp only [readScalar_grown bounded, isLive_grown bounded]

/-- Looking for a zero byte takes no more turns in a longer arena: what lies behind it is not live,
so that the search is over before its turns are. -/
theorem bytesToZero_grown {left : Nat} {address : Address} (some : 0 < left)
    (enough : address.toNat < heapBase ∨ heapBase + heap.size < address.toNat + left)
    (extra : Nat) :
    (heap.grown more).bytesToZero (left + extra) address = heap.bytesToZero left address := by
  -- Each turn reads the byte in front and leaves one turn less.
  induction left generalizing address with
  | zero => omega
  | succ left ih =>
    rw [Nat.add_right_comm, bytesToZero, bytesToZero, read_grown bounded]
    cases found : heap.read address 1 with
    | error cause => simp only [bind, Except.bind]
    | ok bytes =>
      -- The byte that was read lies in the arena, so the next one does or the search ends there.
      have inside : heapBase ≤ address.toNat ∧ address.toNat < heapBase + heap.size := by
        unfold read locate at found
        dsimp only at found
        split at found
        · cases found
        · omega
      have next : (address + 1).toNat < heapBase ∨
          heapBase + heap.size < (address + 1).toNat + left := by
        rw [UInt64.toNat_add, UInt64.toNat_one]
        have low : 0 < heapBase := Nat.succ_pos _
        have last : address.toNat + 1 ≤ 2 ^ 64 := address.toNat_lt
        rcases Nat.lt_or_eq_of_le last with fits | top
        · rw [Nat.mod_eq_of_lt fits]
          omega
        · -- Past the last address the search starts over below the arena.
          rw [top, Nat.mod_self]
          exact .inl low
      have rest := @ih (address + 1) (by omega) next
      simp only [bind, Except.bind, rest]

/-- A text is read alike in a longer arena. -/
theorem readText_grown (address : Address) :
    (heap.grown more).readText address = heap.readText address := by
  -- The search has more turns there, of which it takes none.
  have size : (heap.grown more).size + 1 = heap.size + 1 + more * heap.unit := by
    have longer : (heap.grown more).size = heap.size + more * heap.unit := Nat.add_mul ..
    omega
  unfold readText
  rw [size, bytesToZero_grown bounded more (by omega) (by omega)]

end Grown

end Heap

/-- The outcome of an edit, with more units in the arena that it leaves. -/
def Edit.grown (more : Nat) : EStateM.Result ε Heap α → EStateM.Result ε Heap α
  | .ok result last => .ok result (last.grown more)
  | .error cause last => .error cause (last.grown more)

/-- An edit that does the same in a longer arena does so whatever its failures are called. -/
theorem liftMemory_grown {edit : Edit MemoryError α} {heap : Heap} {more : Nat}
    (same : edit (heap.grown more) = Edit.grown more (edit heap)) :
    liftMemory edit (heap.grown more) = Edit.grown more (liftMemory edit heap) := by
  -- Only how a failure is called is changed.
  unfold liftMemory
  rw [same]
  cases edit heap <;> rfl

section Edits

variable {heap : Heap} (bounded : heap.Bounded) (more : Nat)

include bounded

namespace Heap

/-- Bytes are written alike in a longer arena. -/
theorem write_grown (address : Address) (bytes : List UInt8) :
    write address bytes (heap.grown more) = Edit.grown more (write address bytes heap) := by
  -- The check is the same, and what is written behind it too.
  unfold write
  rw [locate_grown bounded]
  cases heap.locate address bytes.length <;> rfl

/-- Bytes are set to zero alike. -/
theorem clear_grown (address : Address) (length : Nat) :
    clear address length (heap.grown more) = Edit.grown more (clear address length heap) := by
  unfold clear
  rw [locate_grown bounded]
  cases heap.locate address length <;> rfl

/-- Bytes are copied alike. -/
theorem copy_grown (target source : Address) (length : Nat) :
    copy target source length (heap.grown more) =
      Edit.grown more (copy target source length heap) := by
  unfold copy
  -- To move nothing does not even look at the arena.
  by_cases none : length = 0
  · rw [if_pos none, if_pos none]
    rfl
  · rw [if_neg none, if_neg none, read_grown bounded]
    cases heap.read source length with
    | error cause => rfl
    | ok bytes => exact write_grown bounded more target bytes

/-- A value is stored alike. -/
theorem store_grown (address : Address) (type : CType) (value : Value) :
    store address type value (heap.grown more) =
      Edit.grown more (store address type value heap) := by
  unfold store
  -- A value that does not fit its type is refused before the arena is looked at.
  cases value.coerce type with
  | error cause => rfl
  | ok value =>
    cases value with
    | void => rfl
    | int n => exact liftMemory_grown (write_grown bounded more address _)
    | char c => exact liftMemory_grown (write_grown bounded more address _)
    | pointer target => exact liftMemory_grown (write_grown bounded more address _)
    | struct source definition => exact liftMemory_grown (copy_grown bounded more address source _)

omit bounded in
/-- A request that is not refused for want of room is answered alike in a longer arena. -/
theorem allocate_grown {size : Nat} (roomy : ∀ cause last,
      allocate size heap = .error cause last → cause.wantsRoom = false) :
    allocate size (heap.grown more) = Edit.grown more (allocate size heap) := by
  unfold allocate fit at roomy ⊢
  by_cases empty : size = 0
  · rw [if_pos empty, if_pos empty]
    -- The search for a run either finds one, which it finds first in a longer arena as well, or
    -- fails.
    rfl
  · rw [if_neg empty] at roomy ⊢
    rw [if_neg empty]
    have units : (heap.grown more).units = heap.units + more := rfl
    have needed : (heap.grown more).unitsFor size = heap.unitsFor size := rfl
    have live : (heap.grown more).live = heap.live := rfl
    rw [units, needed, live]
    cases search : findRun heap.live heap.units (heap.unitsFor size) heap.live.size 0 0 with
    | some first =>
      rw [findRun_longer search]
      rfl
    | none =>
      -- There was no room, which is ruled out.
      rw [search] at roomy
      cases roomy _ _ rfl

omit bounded in
/-- Freeing a block of the arena frees the same units of a longer one. -/
theorem release_grown {block : Block} (inside : heap.Inside block) :
    (heap.grown more).release block = (heap.release block).grown more := by
  -- What the release looks at is the same in both.
  by_cases owner : block.owning = true ∧ heapBase ≤ block.address.toNat
  · have freed {heap : Heap} (inside : heap.Inside block) : heap.release block = { heap with
        live := freeUnits (heap.firstUnit block) (heap.unitsFor block.size) heap.live
        used := heap.used -
          countLive heap.live (heap.firstUnit block) (heap.unitsFor block.size) 0 } :=
      if_pos ⟨owner.1, owner.2, inside⟩
    have longer : (heap.grown more).Inside block := Nat.le_add_right_of_le inside
    rw [freed inside, freed longer]
    rfl
  · -- A block that owns nothing changes neither of the two.
    have kept (heap : Heap) : heap.release block = heap :=
      if_neg fun all => owner ⟨all.1, all.2.1⟩
    rw [kept, kept]

omit bounded in
/-- Freeing blocks of the arena frees the same units of a longer one. -/
theorem releaseAll_grown {blocks : List Block} (inside : ∀ block ∈ blocks, heap.Inside block) :
    (heap.grown more).releaseAll blocks = (heap.releaseAll blocks).grown more := by
  unfold releaseAll
  induction blocks generalizing heap with
  | nil => rfl
  | cons block rest ih =>
    rw [List.foldl_cons, List.foldl_cons, release_grown more (inside block (by simp))]
    -- The others still lie in the arena when the first one is freed.
    exact ih fun other member =>
      (heap.release_sameArena block).inside (inside other (List.mem_cons_of_mem _ member))

end Heap

/-- Bytes are written to a part of a block alike. -/
theorem Block.write_grown (block : Block) (offset : Nat) (bytes : List UInt8) :
    block.write offset bytes (heap.grown more) =
      Edit.grown more (block.write offset bytes heap) := by
  -- Whether the part lies in the block is no matter of the arena.
  unfold write
  cases block.part offset bytes.length with
  | error cause => rfl
  | ok address => exact Heap.write_grown bounded more address bytes

/-- A text is written to a block alike. -/
theorem Block.writeText_grown (block : Block) (bytes : List UInt8) :
    block.writeText bytes (heap.grown more) =
      Edit.grown more (block.writeText bytes heap) := by
  -- The zero byte is written in the arena that the text has left.
  have text := Heap.SameArena.of_rewritten (block.write_rewrites 0 bytes heap)
  unfold Edit.after at text
  simp only [writeText, bind_run, block.write_grown bounded]
  cases wrote : block.write 0 bytes heap with
  | error cause last => rfl
  | ok _ middle =>
    rw [wrote] at text
    exact block.write_grown (text.bounded bounded) more bytes.length [0]

/-- A block is filled from elsewhere alike. -/
theorem Block.fillFrom_grown (block : Block) (source : Address) (length : Nat) :
    block.fillFrom source length (heap.grown more) =
      Edit.grown more (block.fillFrom source length heap) := by
  -- The bytes are read first, and both steps are alike.
  unfold fillFrom
  rw [Heap.read_grown bounded]
  cases heap.read source length with
  | error cause => rfl
  | ok bytes => exact write_grown bounded more block 0 bytes

namespace Variable

/-- A new object lies in the arena, which stays as it is. -/
theorem allocate_inside (type : CType) : match allocate type heap with
    | .ok object last => heap.SameArena last ∧ last.Inside object.block
    | .error _ last => heap.SameArena last := by
  -- An object without bytes takes no block.
  rw [allocate_run]
  by_cases empty : type.size = 0
  · rw [if_pos empty]
    exact Heap.SameArena.refl heap
  · rw [if_neg empty]
    cases allocated : Heap.allocate type.size heap with
    | error cause last =>
      rw [Heap.allocate_error allocated]
      exact Heap.SameArena.refl heap
    | ok block middle =>
      obtain ⟨same, inside⟩ := Heap.allocate_inside bounded allocated
      -- Clearing the block writes bytes, whether it succeeds or fails.
      have cleared := Heap.SameArena.of_rewritten
        (Heap.clear_rewrites block.address block.size middle)
      unfold Edit.after at cleared
      simp only [Block.clear]
      cases ran : Heap.clear block.address block.size middle with
      | ok _ last =>
        rw [ran] at cleared
        exact ⟨same.trans cleared, cleared.inside inside⟩
      | error cause last =>
        rw [ran] at cleared
        exact same.trans cleared

/-- An object that is not refused for want of room is made alike in a longer arena. -/
theorem allocate_grown {type : CType} (roomy : ∀ cause last,
      allocate type heap = .error cause last → cause.wantsRoom = false) :
    allocate type (heap.grown more) = Edit.grown more (allocate type heap) := by
  -- The block is asked for first, and then it is cleared.
  rw [allocate_run] at roomy
  rw [allocate_run, allocate_run]
  by_cases empty : type.size = 0
  · rw [if_pos empty, if_pos empty]
    rfl
  · rw [if_neg empty] at roomy ⊢
    rw [if_neg empty, Heap.allocate_grown]
    · cases allocated : Heap.allocate type.size heap with
      | error cause last => rfl
      | ok block middle =>
        -- The block is cleared in an arena that is still bounded.
        have same := (Heap.allocate_inside bounded allocated).1
        simp only [Edit.grown, Block.clear, Heap.clear_grown (same.bounded bounded)]
        cases Heap.clear block.address block.size middle <;> rfl
    · intro cause last failed
      rw [failed] at roomy
      exact roomy _ _ rfl

/-- A new object with an initial value lies in the arena, which stays as it is. -/
theorem create_inside (type : CType) (init : Option Value) : match create type init heap with
    | .ok object last => heap.SameArena last ∧ last.Inside object.block
    | .error _ last => heap.SameArena last := by
  have allocated := allocate_inside bounded type
  -- An object is made, and then its initial value is stored in it.
  rw [create_run]
  cases made : allocate type heap with
  | error cause last =>
    rw [made] at allocated
    exact allocated
  | ok object middle =>
    rw [made] at allocated
    cases init with
    | none => exact allocated
    | some value =>
      have stored := Heap.SameArena.of_rewritten
        (Heap.store_rewrites object.address object.type value middle)
      unfold Edit.after at stored
      simp only [store]
      cases ran : Heap.store object.address object.type value middle with
      | ok _ last =>
        rw [ran] at stored
        exact ⟨allocated.1.trans stored, stored.inside allocated.2⟩
      | error cause last =>
        rw [ran] at stored
        exact (allocated.1.trans stored).trans (last.release_sameArena object.block)

/-- An object with an initial value that is not refused for want of room is made alike in a longer
arena. -/
theorem create_grown {type : CType} {init : Option Value} (roomy : ∀ cause last,
      create type init heap = .error cause last → cause.wantsRoom = false) :
    create type init (heap.grown more) = Edit.grown more (create type init heap) := by
  -- Both steps are alike, and the first one leaves a bounded arena.
  rw [create_run] at roomy
  rw [create_run, create_run]
  have inside := allocate_inside bounded type
  rw [allocate_grown bounded]
  · cases made : allocate type heap with
    | error cause last => rfl
    | ok object middle =>
      rw [made] at inside
      cases init with
      | none => rfl
      | some value =>
        have stored := Heap.SameArena.of_rewritten
          (Heap.store_rewrites object.address object.type value middle)
        unfold Edit.after at stored
        simp only [Edit.grown, store, Heap.store_grown (inside.1.bounded bounded)]
        cases ran : Heap.store object.address object.type value middle with
        | ok _ last => rfl
        | error cause last =>
          -- The block that is given back lies in the arena.
          rw [ran] at stored
          exact congrArg (EStateM.Result.error cause)
            (Heap.release_grown more (stored.inside inside.2))
  · intro cause last failed
    rw [failed] at roomy
    exact roomy _ _ rfl

end Variable

end Edits

section Text

variable {heap : Heap} (bounded : heap.Bounded) (more : Nat)

include bounded

/-- A directive writes alike in a longer arena. -/
theorem Directive.write_grown (argument : Value) (directive : Directive) :
    directive.write (heap.grown more) argument = directive.write heap argument := by
  -- Only a text is read from memory.
  cases directive <;> simp only [write, Heap.readText_grown bounded]

/-- A format is expanded alike. -/
theorem Format.expand_grown (format : List Char) (arguments : List Value) :
    expand (heap.grown more) format arguments = expand heap format arguments := by
  -- The letter decides, and a directive that is found writes alike.
  have each (letter : Char) (arguments : List Value) :
      directive (heap.grown more) letter arguments = directive heap letter arguments := by
    unfold directive
    simp only [Directive.write_grown bounded]
  fun_induction expand heap format arguments with
  | case1 => rw [expand]
  | case2 => rw [expand, if_pos rfl]
  | case3 arguments letter rest ih =>
    simp only [expand, each, if_true]
    -- What a directive leaves over goes to the rest of the format.
    cases directive heap letter arguments with
    | error cause => simp only [bind, Except.bind]
    | ok written => simp only [bind, Except.bind, ih]
  | case4 letter rest arguments plain ih =>
    rw [expand.eq_def]
    simp only [ih, if_neg plain]

end Text

end StepMachine
