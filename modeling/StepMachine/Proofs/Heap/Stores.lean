import StepMachine.Proofs.Heap.Bytes

/-! Which bytes a store changes: as many as the value takes, from the address on. That is no more
than the object has, unless the value is a structure with a larger definition. -/

namespace StepMachine

namespace Value

/-- The number of bytes that are written when a value is stored as it is. -/
def storedSize : Value → Nat
  | void => 0
  | int _ => Scalar.int.size
  | char _ => Scalar.char.size
  | pointer _ => Scalar.pointer.size
  | struct _ definition => definition.size

/-- The number of bytes that a value takes in an object of a type: a structure is measured by its
own definition, and any other value takes the form that the type asks for. -/
def extent (value : Value) (type : CType) : Nat :=
  match value with
  | struct _ definition => definition.size
  | _ => type.size

/-- A value takes no more bytes than an object of the type has. -/
def Fits (value : Value) (type : CType) : Prop := value.extent type ≤ type.size

/-- Whether a value fits is a comparison of two sizes. -/
instance (value : Value) (type : CType) : Decidable (value.Fits type) :=
  inferInstanceAs (Decidable (_ ≤ _))

/-- What a value is converted to takes the bytes that the value takes in an object of the type. -/
theorem storedSize_of_coerce {value converted : Value} {type : CType}
    (coerced : value.coerce type = .ok converted) : converted.storedSize = value.extent type := by
  -- Each conversion that succeeds leads to the form of the type.
  cases value with
  | void =>
    cases type <;> cases coerced
    rfl
  | char c => cases type <;> cases coerced <;> rfl
  | pointer address =>
    cases type <;> cases coerced
    rfl
  | int n =>
    cases type with
    | int =>
      cases coerced
      rfl
    | char =>
      cases coerced
      rfl
    | pointer target =>
      -- Of the integers only zero is a pointer.
      unfold coerce at coerced
      dsimp only at coerced
      split at coerced <;> cases coerced
      rfl
    | _ => cases coerced
  | struct address definition =>
    cases type with
    | struct name fields =>
      unfold coerce at coerced
      dsimp only at coerced
      split at coerced <;> cases coerced
      rfl
    | _ => cases coerced

end Value

/-- What an edit does does not depend on how its failures are told. -/
theorem Edit.ok_of_liftMemory {edit : Edit MemoryError α} {heap last : Heap} {result : α}
    (ran : liftMemory edit heap = .ok result last) : edit heap = .ok result last := by
  -- The cause of a failure is all that is changed.
  unfold liftMemory at ran
  cases edited : edit heap with
  | ok result last =>
    rw [edited] at ran
    cases ran
    rfl
  | error cause last =>
    rw [edited] at ran
    cases ran

namespace Heap

/-- Every byte that is not the same in a later heap has an address in a range. -/
def ChangedWithin (heap last : Heap) (address : Address) (size : Nat) : Prop :=
  ∀ position, last.byteAt position ≠ heap.byteAt position →
    address.toNat ≤ heapBase + position ∧ heapBase + position < address.toNat + size

namespace ChangedWithin

variable {address : Address} {size : Nat}

/-- Where the bytes are the same, none has changed. -/
theorem of_bytes {heap last : Heap} (same : last.bytes = heap.bytes) :
    heap.ChangedWithin last address size := by
  -- The bytes that can be told apart are those of the arena.
  intro position changed
  rw [byteAt_eq, byteAt_eq, same] at changed
  exact absurd rfl changed

/-- Changes one after the other stay in a range that none of them leaves. -/
theorem trans {first second third : Heap} (one : first.ChangedWithin second address size)
    (two : second.ChangedWithin third address size) : first.ChangedWithin third address size := by
  intro position changed
  -- A byte that the later change left alone was changed by the earlier one.
  by_cases later : third.byteAt position = second.byteAt position
  · exact one position (by rwa [later] at changed)
  · exact two position later

/-- Changes within a range are changes within a longer one. -/
theorem mono {heap last : Heap} (changed : heap.ChangedWithin last address size) {more : Nat}
    (le : size ≤ more) : heap.ChangedWithin last address more := by
  intro position different
  have inside := changed position different
  omega

end ChangedWithin

/-- Where an access starts in the arena. -/
theorem locate_ok {heap : Heap} {address : Address} {length offset : Nat}
    (located : heap.locate address length = .ok offset) :
    heapBase + offset = address.toNat := by
  unfold locate at located
  -- An access that is answered has gone through both tests.
  dsimp only at located
  split at located
  · cases located
  · rename_i proper
    split at located
    · have start := Except.ok.inj located
      omega
    · cases located

/-- Bytes are put in front of what is there already. -/
theorem bytesAt_length (heap : Heap) (position count : Nat) (behind : List UInt8) :
    (heap.bytesAt position count behind).length = count + behind.length := by
  induction count generalizing behind with
  | zero =>
    rw [bytesAt]
    omega
  | succ count ih =>
    rw [bytesAt, ih, List.length_cons]
    omega

/-- As many bytes are read as were asked for. -/
theorem read_length {heap : Heap} {address : Address} {length : Nat} {bytes : List UInt8}
    (read : heap.read address length = .ok bytes) : bytes.length = length := by
  unfold Heap.read at read
  cases located : heap.locate address length with
  | error cause =>
    rw [located] at read
    cases read
  | ok offset =>
    rw [located] at read
    cases read
    -- What is read is as long as what was asked for, wherever it lies.
    exact heap.bytesAt_length offset length []

variable {heap last : Heap} {address : Address}

/-- Writing changes what is written over. -/
theorem write_changes {bytes : List UInt8} (wrote : write address bytes heap = .ok () last) :
    heap.ChangedWithin last address bytes.length := by
  unfold write at wrote
  -- Only a range that is accessible is written to.
  cases located : heap.locate address bytes.length with
  | error cause => simp [located] at wrote
  | ok offset =>
    simp only [located] at wrote
    cases wrote
    intro position changed
    rw [byteAt_eq, byteAt_eq, put, byteOr0_overlay] at changed
    -- A byte that lies elsewhere is what it was.
    split at changed
    · have start := locate_ok located
      omega
    · exact absurd rfl changed

/-- Clearing changes what is cleared. -/
theorem clear_changes {length : Nat} (cleared : clear address length heap = .ok () last) :
    heap.ChangedWithin last address length := by
  unfold clear at cleared
  cases located : heap.locate address length with
  | error cause => simp [located] at cleared
  | ok offset =>
    simp only [located] at cleared
    -- Clearing is a write of zero bytes, and is told from the others by its range only.
    cases cleared
    intro position changed
    rw [byteAt_eq, byteAt_eq, byteOr0_zeroBytes] at changed
    split at changed
    · have start := locate_ok located
      omega
    · exact absurd rfl changed

/-- Copying changes what is copied over. -/
theorem copy_changes {source : Address} {length : Nat}
    (copied : copy address source length heap = .ok () last) :
    heap.ChangedWithin last address length := by
  unfold copy at copied
  split at copied
  · -- Nothing is copied.
    cases copied
    exact .of_bytes rfl
  · -- What is copied is read first, and then written as any other bytes are.
    cases read : heap.read source length with
    | error cause => simp [read] at copied
    | ok bytes =>
      simp only [read] at copied
      have changed := write_changes copied
      rwa [read_length read] at changed

/-- Writing an integer changes as many bytes as its format has. -/
theorem writeScalar_changes {scalar : Scalar} {number : Int}
    (wrote : liftMemory (writeScalar scalar address number) heap = .ok () last) :
    heap.ChangedWithin last address scalar.size := by
  -- The bytes that are written are the digits of the number, as many as the format has.
  have changed := write_changes (Edit.ok_of_liftMemory wrote)
  rwa [show (scalar.encode number).length = scalar.size from toDigits256_length ..] at changed

/-- A store changes as many bytes as the value takes. -/
theorem store_changes {type : CType} {value : Value}
    (stored : store address type value heap = .ok () last) :
    heap.ChangedWithin last address (value.extent type) := by
  -- The value is converted first, and it is the converted one whose form is stored.
  unfold store at stored
  cases coerced : value.coerce type with
  | error cause =>
    rw [coerced] at stored
    cases stored
  | ok converted =>
    rw [coerced] at stored
    rw [← Value.storedSize_of_coerce coerced]
    cases converted with
    | void => cases stored
    | int n => exact writeScalar_changes stored
    | char c => exact writeScalar_changes stored
    | pointer target => exact writeScalar_changes stored
    -- A structure is copied from where it lies.
    | struct source definition => exact copy_changes (Edit.ok_of_liftMemory stored)

/-- What changes within a part of a block that is held touches no other block that is. -/
theorem Holds.untouched {blocks : List Block} (holds : heap.Holds blocks) {block : Block}
    (member : block ∈ blocks) {offset size : Nat}
    (part : block.part offset size = .ok address) {before : Heap}
    (changed : before.ChangedWithin last address size) :
    ∀ other ∈ blocks, other ≠ block → before.Untouched last other := by
  intro other also differ index inside
  -- A byte that differs lies within the part, by what was written.
  refine Decidable.byContradiction fun different => ?_
  have range := changed _ different
  unfold Block.part at part
  dsimp only at part
  split at part
  case isFalse => cases part
  case isTrue within =>
    cases part
    -- A byte that changed makes the part one that is not empty, and so one with an address.
    have start := locate_ok (holds.locate_part member (by omega) within)
    have first := (holds.seated block member).address
    have other := (holds.seated other also).address
    exact holds.bytes_apart also member differ inside (by omega)

end Heap

namespace Variable

/-- The block of an object is as large as its type asks for. -/
def Sized (object : Variable) : Prop := object.block.size = object.type.size

/-- A new object is of the type that was asked for, is as large as that, and nothing but its own
bytes has changed. -/
theorem allocate_changes {type : CType} {heap last : Heap} {object : Variable}
    (allocated : allocate type heap = .ok object last) :
    object.type = type ∧ object.Sized ∧ heap.ChangedWithin last object.address type.size := by
  -- Memory is asked for first, then all of it is cleared.
  rw [allocate_run] at allocated
  split at allocated
  · cases allocated
  · cases made : Heap.allocate type.size heap with
    | error cause middle => simp [made] at allocated
    | ok block middle =>
      simp only [made] at allocated
      cases cleared : block.clear middle with
      | error cause last => simp [cleared] at allocated
      | ok _ final =>
        simp only [cleared] at allocated
        cases allocated
        -- To be handed out leaves the bytes as they are.
        have taken : block.size = type.size ∧ middle.bytes = heap.bytes := by
          unfold Heap.allocate at made
          split at made
          · cases made
          · cases made
            exact ⟨rfl, rfl⟩
        have zeroed := Heap.clear_changes cleared
        rw [taken.1] at zeroed
        exact ⟨rfl, taken.1, (Heap.ChangedWithin.of_bytes taken.2).trans zeroed⟩

/-- The same for an object with an initial value that fits. -/
theorem create_changes {type : CType} {init : Option Value} {heap last : Heap} {object : Variable}
    (created : create type init heap = .ok object last) :
    object.type = type ∧ object.Sized ∧ ((∀ value ∈ init, value.Fits type) →
      heap.ChangedWithin last object.address type.size) := by
  -- The object is there before the value is, and a value that is stored comes over its bytes.
  rw [create_run] at created
  cases made : allocate type heap with
  | error cause middle => simp [made] at created
  | ok fresh middle =>
    obtain ⟨typed, sized, changed⟩ := allocate_changes made
    simp only [made] at created
    -- Without an initial value the zeroed storage is all there is.
    cases init with
    | none =>
      cases created
      exact ⟨typed, sized, fun _ => changed⟩
    | some value =>
      simp only at created
      cases stored : fresh.store value middle with
      | error cause last => simp [stored] at created
      | ok _ final =>
        simp only [stored] at created
        cases created
        refine ⟨typed, sized, fun fits => changed.trans ?_⟩
        -- The value is stored where the object lies, and takes no more than that has.
        have written := Heap.store_changes stored
        rw [typed] at written
        exact written.mono (fits value rfl)

end Variable

end StepMachine
