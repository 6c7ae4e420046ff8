import StepMachine.Proofs.Heap.Bytes
import StepMachine.Proofs.Lexical.Interpreter

/-! Numbers in memory: what an object of a numeric type holds, and what reading it, storing to it
and making it do. -/

namespace StepMachine

/-- Whether a cause is a lack of memory. -/
def RuntimeError.isOutOfMemory : RuntimeError → Bool
  | memory (.outOfMemory _ _) => true
  | _ => false

/-- A request that is not empty is refused for a lack of memory only. -/
theorem Heap.allocate_refused {size : Nat} (some : size ≠ 0) {heap last : Heap}
    {cause : MemoryError} (refused : allocate size heap = .error cause last) :
    ∃ free, cause = .outOfMemory size free := by
  -- Of the two reasons for a refusal, an empty request is excluded.
  unfold allocate fit at refused
  rw [if_neg some] at refused
  cases search : findRun heap.live heap.units (heap.unitsFor size) heap.live.size 0 0 with
  | some first =>
    simp only [search] at refused
    cases refused
  | none =>
    simp only [search] at refused
    cases refused
    exact ⟨_, rfl⟩

/-- What a number is converted to is a number of the type. -/
theorem Value.coerce_numeric {type : CType} (numeric : type.isNumeric = true) {value kept : Value}
    (converted : value.coerce type = .ok kept) :
    (type = .int ∧ ∃ n, kept = .int n) ∨ type = .char ∧ ∃ c, kept = .char c := by
  unfold coerce at converted
  -- Only integers and characters are converted to a number.
  cases type with
  | int =>
    refine .inl ⟨rfl, ?_⟩
    cases value <;> cases converted <;> exact ⟨_, rfl⟩
  | char =>
    refine .inr ⟨rfl, ?_⟩
    cases value <;> cases converted <;> exact ⟨_, rfl⟩
  | void | pointer | struct => cases numeric

namespace Variable

/-- A number that fills its block. -/
structure Numeric (object : Variable) : Prop where
  type : object.type.isNumeric = true
  size : object.block.size = object.type.size

/-- The value that the bytes of a number stand for. -/
def content (heap : Heap) (object : Variable) : Value :=
  let position := object.address.toNat - heapBase
  -- The bytes from the start of the object on, read in the format of its type.
  match object.type with
  | .int => .int (Int32.ofInt (Scalar.int.ofResidue (heap.numberAt position Scalar.int.size)))
  | .char => .char (Int8.ofInt (Scalar.char.ofResidue (heap.numberAt position Scalar.char.size)))
  -- Nothing else is a number.
  | _ => .void

/-- A number whose block is not touched keeps its value. -/
theorem content_untouched {object : Variable} (numeric : object.Numeric) {heap last : Heap}
    (untouched : heap.Untouched last object.block) : object.content last = object.content heap := by
  -- The bytes that make up the number are those of its block, and no others.
  have same := Heap.numberAt_congr untouched
  rw [numeric.size] at same
  unfold content address
  cases type : object.type with
  | int =>
    rw [type] at same
    exact congrArg (fun number => Value.int (Int32.ofInt (Scalar.int.ofResidue number))) same
  | char =>
    rw [type] at same
    exact congrArg (fun number => Value.char (Int8.ofInt (Scalar.char.ofResidue number))) same
  | void | pointer | struct => rfl

/-- The value of a number depends on the bytes of the heap only. -/
theorem content_bytes (object : Variable) {heap last : Heap} (same : last.bytes = heap.bytes) :
    object.content last = object.content heap := by
  -- A number is made of bytes, and those are the same.
  have numbers (position count : Nat) :
      last.numberAt position count = heap.numberAt position count :=
    Heap.numberAt_congr fun index _ => by rw [Heap.byteAt_eq, Heap.byteAt_eq, same]
  unfold content
  simp only [numbers]

variable {heap : Heap} {blocks : List Block}

/-- A number that is held is read as what its bytes stand for. -/
theorem load_content {object : Variable} (numeric : object.Numeric) (holds : heap.Holds blocks)
    (member : object.block ∈ blocks) : object.load heap = .ok (object.content heap) := by
  -- All its bytes are live, so that the access is not refused.
  have located := holds.locate_address member
  rw [numeric.size] at located
  have proper := numeric.type
  unfold load content Heap.load address
  cases type : object.type with
  | int =>
    rw [type] at located
    have read : heap.readScalar .int object.block.address = .ok _ := congrArg (· >>= _) located
    rw [read]
    rfl
  | char =>
    rw [type] at located
    have read : heap.readScalar .char object.block.address = .ok _ := congrArg (· >>= _) located
    rw [read]
    rfl
  | void | pointer | struct =>
    rw [type] at proper
    cases proper

/-- A number that is held takes a value if that can be converted, and no other block that is held is
touched. -/
theorem store_content {object : Variable} (numeric : object.Numeric) (holds : heap.Holds blocks)
    (member : object.block ∈ blocks) (value : Value) :
    match value.coerce object.type with
    | .error cause => object.store value heap = .error cause heap
    | .ok kept => ∃ last, object.store value heap = .ok () last ∧ object.content last = kept ∧
        ∀ other ∈ blocks, other ≠ object.block → heap.Untouched last other := by
  -- Where the value cannot be converted nothing was written.
  have size := numeric.size
  unfold store Heap.store content address
  cases converted : value.coerce object.type with
  | error cause => rfl
  | ok kept =>
    -- What is written has the format of the type, and every number of it is read back.
    rcases Value.coerce_numeric numeric.type converted with ⟨type, n, rfl⟩ | ⟨type, c, rfl⟩
    · rw [type] at size ⊢
      obtain ⟨last, ran, number, others⟩ := holds.writeScalar member .int size.symm n.toInt
      refine ⟨last, by simp only [liftMemory, ran], ?_, others⟩
      dsimp only
      rw [number, Scalar.int_ofResidue, Int32.ofInt_toInt]
    · rw [type] at size ⊢
      obtain ⟨last, ran, number, others⟩ := holds.writeScalar member .char size.symm c.toInt
      refine ⟨last, by simp only [liftMemory, ran], ?_, others⟩
      dsimp only
      rw [number, Scalar.char_ofResidue, Int8.ofInt_toInt]

/-- A new number is zero and touches nothing that is held; only a lack of memory stops it. -/
theorem allocate_content {type : CType} (numeric : type.isNumeric = true)
    (holds : heap.Holds blocks) :
    match allocate type heap with
    | .ok object last => object.type = type ∧ object.Numeric ∧
        type.initial none = .ok (object.content last) ∧
        ∀ block ∈ blocks, block ≠ object.block ∧ heap.Untouched last block
    | .error cause _ => cause.isOutOfMemory = true := by
  -- No type of numbers is of size zero.
  have some : type.size ≠ 0 := by
    cases type with
    | int | char => decide
    | void | pointer | struct => cases numeric
  rw [allocate_run, if_neg some]
  cases allocated : Heap.allocate type.size heap with
  | error cause last =>
    -- The request is not empty, so that only a lack of memory refuses it.
    obtain ⟨free, rfl⟩ := Heap.allocate_refused some allocated
    rfl
  | ok block middle =>
    have held := Heap.allocate_holds holds allocated
    obtain ⟨first, -, -, -, rfl, rfl⟩ := Heap.allocate_ok holds.bounded allocated
    -- The block is held, so clearing it succeeds.
    obtain ⟨last, cleared, zero, others⟩ := held.clear (List.mem_cons_self ..)
    simp only [cleared]
    refine ⟨trivial, ⟨numeric, rfl⟩, ?_, fun other member => ?_⟩
    · -- All its bytes are zero, and so is the number that they stand for.
      have none := Heap.numberAt_zero zero
      cases type with
      | int =>
        exact congrArg (fun n => Except.ok (Value.int (Int32.ofInt (Scalar.int.ofResidue n))))
          none.symm
      | char =>
        exact congrArg (fun n => Except.ok (Value.char (Int8.ofInt (Scalar.char.ofResidue n))))
          none.symm
      | void | pointer | struct => cases numeric
    · have differ := held.ne_first member
      exact ⟨differ, others other (List.mem_cons_of_mem _ member) differ⟩

/-- A new number has its initial value and touches nothing that is held; only a lack of memory stops
it, and a value that cannot be converted. -/
theorem create_content {type : CType} (numeric : type.isNumeric = true) (init : Option Value)
    (holds : heap.Holds blocks) :
    match create type init heap with
    | .ok object last => object.type = type ∧ object.Numeric ∧
        type.initial init = .ok (object.content last) ∧
        ∀ block ∈ blocks, heap.Untouched last block
    | .error cause _ => cause.isOutOfMemory = true ∨ type.initial init = .error cause := by
  have made := allocate_content numeric holds
  have held := allocate_holds type holds
  -- A new number is made first, and it is zero until the initial value is stored.
  rw [create_run]
  cases allocated : allocate type heap with
  | error cause last =>
    rw [allocated] at made
    exact .inl made
  | ok object middle =>
    rw [allocated] at made held
    obtain ⟨rfl, proper, zero, others⟩ := made
    cases init with
    | none => exact ⟨rfl, proper, zero, fun block member => (others block member).2⟩
    | some value =>
      -- The value is stored over the zero, in a block that is held beside the others by then.
      have stored := store_content proper held (List.mem_cons_self ..) value
      unfold CType.initial
      cases converted : value.coerce object.type with
      | error cause =>
        rw [converted] at stored
        simp only [stored]
        exact .inr converted
      | ok kept =>
        rw [converted] at stored
        obtain ⟨last, ran, same, apart⟩ := stored
        simp only [ran]
        refine ⟨trivial, proper, by rw [same]; exact converted, fun block member => ?_⟩
        obtain ⟨differ, untouched⟩ := others block member
        exact untouched.trans (apart block (List.mem_cons_of_mem _ member) differ)

end Variable

end StepMachine
