import StepMachine.Eval.Expression
import StepMachine.Proofs.Context.Stores
import StepMachine.Proofs.Wary.Heap

/-! Blocks, objects, members and formatted text with a look before every operation that is not
always possible. -/

namespace StepMachine

open Wary (Agrees)

/-- A wary change to the heap that fails for a memory error fails the surrounding one for the same
cause. -/
def Wary.liftMemory (edit : Wary MemoryError Heap α) : Wary RuntimeError Heap α := fun heap =>
  (edit heap).map fun
    | .ok result last => .ok result last
    | .error cause last => .error (.memory cause) last

/-- A change to memory that is possible is possible as a change of the program. -/
theorem Wary.Agrees.liftMemory {wary : Wary MemoryError Heap α} {edit : Edit MemoryError α}
    {heap : Heap} (agrees : Agrees wary edit heap) :
    Agrees (Wary.liftMemory wary) (StepMachine.liftMemory edit) heap := by
  -- The cause is wrapped, and nothing else is done.
  unfold Agrees Wary.liftMemory StepMachine.liftMemory
  rw [agrees]
  cases edit heap <;> rfl

namespace Block

section Definitions

/-- The address of a part of the block. -/
def part? (block : Block) (offset length : Nat) : Option (Except MemoryError Address) :=
  if offset + length ≤ block.size then do
    let address ← word (block.address.toNat + offset)
    return .ok (UInt64.ofNat address)
  -- The address that a refusal names may wrap around.
  else some (block.part offset length)

/-- A part of the block as a block of its own. -/
def slice? (block : Block) (offset length : Nat) : Option (Except MemoryError Block) := do
  match ← block.part? offset length with
  | .ok address => return .ok ⟨address, length, false⟩
  | .error cause => return .error cause

/-- Overwrites a part of the block. -/
def write? (block : Block) (offset : Nat) (bytes : List UInt8) (heap : Heap) : Option Unit := do
  match ← block.part? offset bytes.length with
  | .ok address => heap.reach? address bytes.length
  | .error _ => return ()

/-- Copies bytes from elsewhere to the start of the block. -/
def fill? (block : Block) (source : Address) (length : Nat) (heap : Heap) : Option Unit := do
  heap.reach? source length
  match heap.read source length with
  | .ok bytes => block.write? 0 bytes heap
  | .error _ => return ()

end Definitions

/-- The bytes of a block have addresses, and so has what lies right behind them. -/
def Addressed (block : Block) : Prop := block.address.toNat + block.size < UInt64.size

variable {block : Block} {heap : Heap}

/-- No part of a block starts past the last address. -/
theorem part?_eq (addressed : block.Addressed) (offset length : Nat) :
    block.part? offset length = some (block.part offset length) := by
  -- Within the block its sum is within the addresses; a refusal asks for no sum.
  unfold Addressed at addressed
  unfold part? part
  by_cases within : offset + length ≤ block.size
  · rw [if_pos within, if_pos within, taken (word_eq (by omega)), UInt64.ofNat_add,
      UInt64.ofNat_toNat]
    rfl
  · rw [if_neg within, if_neg within]

/-- No slice of a block starts past the last address. -/
theorem slice?_eq (addressed : block.Addressed) (offset length : Nat) :
    block.slice? offset length = some (block.slice offset length) := by
  -- A slice is the part that was found, as a block of its own.
  unfold slice? slice
  rw [taken (part?_eq addressed offset length)]
  cases block.part offset length <;> rfl

/-- To write into a block is possible, or the bound of the block refuses it. -/
theorem write?_eq (tidy : heap.Tidy) (addressed : block.Addressed) (offset : Nat)
    (bytes : List UInt8) : block.write? offset bytes heap = some () := by
  unfold write?
  -- Memory is accessed only for a part within the block.
  rw [taken (part?_eq addressed offset bytes.length)]
  cases block.part offset bytes.length with
  | ok address => exact Heap.reach?_eq tidy address _
  | error cause => rfl

/-- To fill a block from elsewhere is possible, or is refused. -/
theorem fill?_eq (tidy : heap.Tidy) (addressed : block.Addressed) (source : Address)
    (length : Nat) : block.fill? source length heap = some () := by
  unfold fill?
  -- The source is read first, and what was read is written as any bytes are.
  rw [taken (Heap.reach?_eq tidy source length)]
  cases heap.read source length with
  | ok bytes => exact write?_eq tidy addressed 0 bytes
  | error cause => rfl

end Block

/-- A block that owns units of the arena lies in it. -/
theorem Heap.Seats.within {heap : Heap} {block : Block} (seats : heap.Seats block) :
    block.address.toNat + block.size ≤ heapBase + heap.size := by
  -- The rounded size covers the block, and its units end within the arena.
  have covered := heap.le_unitsFor_mul block.size
  have whole := Nat.mul_le_mul_right heap.unit seats.inside
  rw [Nat.add_mul] at whole
  rw [seats.address]
  unfold Heap.size
  omega

namespace Variable

section Definitions

/-- A new object of zero bytes. -/
def allocate? (type : CType) : Wary RuntimeError Heap Variable := do
  let size ← Wary.possibly (word type.size)
  if size = 0 then Wary.step (throw (notStorable type))
  else
    let block ← Wary.liftMemory (Heap.allocate? size)
    Wary.looking (·.reach? block.address block.size) (liftMemory block.clear)
    return ⟨type, block⟩

/-- A new object that holds an initial value, or zero bytes when there is none. -/
def create? (type : CType) (init : Option Value) : Wary RuntimeError Heap Variable := do
  let object ← allocate? type
  match init with
  | none => return object
  | some value =>
    Wary.handling (Wary.looking (·.store? object.address object.type value) (object.store value))
      fun cause => do
        Heap.free? [object.block]
        Wary.step (throw cause)
    return object

end Definitions

variable {heap : Heap} {blocks : List Block} {type : CType}

/-- To make an object is possible if the size of its type is a machine word. -/
theorem allocate?_agrees (holds : heap.Holds blocks) (fits : type.size < UInt64.size) :
    Agrees (allocate? type) (allocate type) heap := by
  -- The size is looked at first, then memory, which is cleared as a whole.
  unfold allocate? allocate
  refine .given (word_eq fits) ?_
  by_cases empty : type.size = 0
  · rw [if_pos empty, if_pos empty]
    rfl
  · rw [if_neg empty, if_neg empty]
    refine .bind (Heap.allocate?_agrees holds type.size).liftMemory fun block middle allocated => ?_
    -- The new block is held, and can be cleared.
    have held := Heap.allocate_holds holds (Edit.ok_of_liftMemory allocated)
    refine .bind (.looking ?_ _) fun _ _ _ => rfl
    exact Heap.reach?_eq held.tidy block.address block.size

/-- The same for an object with an initial value, whose size has to be a machine word as well. -/
theorem create?_agrees (holds : heap.Holds blocks) (fits : type.size < UInt64.size)
    {init : Option Value} (small : ∀ value ∈ init, value.storedSize < UInt64.size) :
    Agrees (create? type init) (create type init) heap := by
  -- The object is made first; its value is stored, or its storage given back.
  refine .bind (allocate?_agrees holds fits) fun object middle allocated => ?_
  have held := allocate_holds type holds
  rw [allocated] at held
  cases init with
  | none => rfl
  | some value =>
    refine .bind (.handling (.looking ?_ _) fun cause last failed => ?_) fun _ _ _ => rfl
    · exact Heap.store?_eq held.tidy object.address object.type (small value rfl)
    -- A value that cannot be stored has written bytes at most, so the block can be given back.
    have stored := Heap.store_rewrites object.address object.type value middle
    unfold Edit.after at stored
    rw [show Heap.store object.address object.type value middle = .error cause last from failed]
      at stored
    have still := stored.holds held
    refine .bind (Heap.free?_agrees still.tidy fun block member => ?_) fun _ _ _ => rfl
    cases List.mem_singleton.mp member
    exact (still.seated object.block (List.mem_cons_self ..)).inside

end Variable

namespace Value

/-- The member of a structure: the sizes in front of it add up to no more than that of the whole,
and its address is that of the structure and the offset. -/
def member? (object : Value) (field : String) : Option (Except RuntimeError Place) :=
  match object with
  | struct address definition => do
    let _ ← word definition.size
    match definition.field? field with
    | some (offset, type) =>
      let address ← word (address.toNat + offset)
      return .ok ⟨UInt64.ofNat address, type⟩
    | none => return .error (.missingField definition.name field)
  | other => some (other.member field)

/-- A value that, if it is a structure, lies in an arena of so many bytes. -/
def Lies (size : Nat) : Value → Prop
  | struct address definition => address.toNat + definition.size ≤ heapBase + size
  | _ => True

variable {size : Nat} {value : Value}

/-- What lies in an arena takes no more bytes than a machine word counts. -/
theorem Lies.storedSize_lt (lies : value.Lies size) (room : heapBase + size < UInt64.size) :
    value.storedSize < UInt64.size := by
  -- A scalar has a size of its own; a structure is as large as its part of the arena.
  cases value with
  | struct address definition =>
    have within : address.toNat + definition.size ≤ heapBase + size := lies
    show definition.size < UInt64.size
    omega
  | void => exact (by decide : 0 < UInt64.size)
  | int n => exact (by decide : 4 < UInt64.size)
  | char c => exact (by decide : 1 < UInt64.size)
  | pointer target => exact (by decide : 8 < UInt64.size)

/-- A value that is converted lies where it lay. -/
theorem Lies.coerce (lies : value.Lies size) {type : CType} {converted : Value}
    (coerced : value.coerce type = .ok converted) : converted.Lies size := by
  -- A conversion to a structure keeps the value as it is.
  cases converted with
  | struct address definition =>
    cases coerce_eq_struct coerced
    exact lies
  | _ => trivial

/-- No member of a structure in the arena starts past the last address, and none is larger than the
arena. -/
theorem Lies.member?_eq (lies : value.Lies size) (room : heapBase + size < UInt64.size)
    (field : String) :
    value.member? field = some (value.member field) ∧
      ∀ place, value.member field = .ok place → place.type.size < UInt64.size := by
  -- Only a structure has members, and any other value is refused without a look.
  cases value with
  | struct address definition =>
    have within : address.toNat + definition.size ≤ heapBase + size := lies
    unfold member? member
    dsimp only
    rw [taken (word_eq (by omega))]
    cases found : definition.field? field with
    | none => exact ⟨rfl, nofun⟩
    | some member =>
      obtain ⟨offset, type⟩ := member
      -- A member ends where its structure ends, at the latest.
      have inside : offset + type.size ≤ definition.size := Fields.find?_within found
      dsimp only
      rw [taken (word_eq (by omega)), UInt64.ofNat_add, UInt64.ofNat_toNat]
      refine ⟨rfl, fun place same => ?_⟩
      cases same
      show type.size < UInt64.size
      omega
  | _ => exact ⟨rfl, nofun⟩

-- Where a structure reaches past the last address, its second member cannot be found.
example : (Value.struct 0xFFFFFFFFFFFFFFFC ⟨"S", .ofList [("a", .int), ("b", .int)]⟩).member? "b" =
    none := by
  decide

/-- Applies an operator whose operands are both evaluated. The others never come here. -/
def binary? (op : BinaryOp) (left right : Value) : Option (Except RuntimeError Value) :=
  match op with
  | .arithmetic op => some (arithmetic op left right)
  | .comparison op => some (compare op left right)
  | .connective _ => none

section Operators

/-- A result of a sequence comes from a result of its first part. -/
theorem exists_of_ok {first : Except RuntimeError α} {next : α → Except RuntimeError β}
    {result : β} (ran : (first >>= next) = .ok result) :
    ∃ middle, first = .ok middle ∧ next middle = .ok result := by
  -- A failure of the first part is the failure of the sequence.
  cases first with
  | ok middle => exact ⟨middle, rfl, ran⟩
  | error cause => cases ran

variable {left right : Value}

/-- Arithmetic yields a number. -/
theorem arithmetic_number {op : ArithmeticOp} (computed : arithmetic op left right = .ok value) :
    ∃ n, value = .int n := by
  unfold arithmetic at computed
  -- Pointers are refused, so both operands are read as numbers.
  split at computed
  · obtain ⟨_, -, rest⟩ := exists_of_ok computed
    obtain ⟨_, -, rest⟩ := exists_of_ok rest
    cases rest
  · obtain ⟨_, -, rest⟩ := exists_of_ok computed
    obtain ⟨_, -, rest⟩ := exists_of_ok rest
    obtain ⟨_, -, rest⟩ := exists_of_ok rest
    cases rest
    exact ⟨_, rfl⟩

/-- A truth is a number. -/
theorem ofBool_number (truth : Bool) : ∃ n, ofBool truth = .int n := ⟨_, rfl⟩

/-- Comparison yields a number, whether of addresses or of numbers. -/
theorem compare_number {op : Comparison} (computed : compare op left right = .ok value) :
    ∃ n, value = .int n := by
  unfold compare at computed
  -- Either way both operands are read before the truth is told.
  split at computed
  all_goals
    obtain ⟨_, -, rest⟩ := exists_of_ok computed
    obtain ⟨_, -, rest⟩ := exists_of_ok rest
    cases rest
    exact ofBool_number _

/-- An operator with one operand yields a number. -/
theorem unary_number {op : UnaryOp} (computed : unary op left = .ok value) :
    ∃ n, value = .int n := by
  unfold unary at computed
  cases op with
  | neg =>
    obtain ⟨_, -, rest⟩ := exists_of_ok computed
    obtain ⟨_, -, rest⟩ := exists_of_ok rest
    cases rest
    exact ⟨_, rfl⟩
  | not =>
    obtain ⟨_, -, rest⟩ := exists_of_ok computed
    cases rest
    exact ofBool_number _

/-- A value that is no structure. -/
def Plain : Value → Prop
  | struct _ _ => False
  | _ => True

/-- A number is no structure. -/
theorem plain_of_number (number : ∃ n, value = .int n) : value.Plain := by
  obtain ⟨n, rfl⟩ := number
  trivial

/-- What is no structure takes no part in the arena. -/
theorem Plain.lies (plain : value.Plain) (size : Nat) : value.Lies size := by
  cases value with
  | struct address definition => exact plain.elim
  | _ => trivial

end Operators

end Value

section Definitions

/-- Writes one argument of a format; only a text is read from memory. -/
def Directive.write? (heap : Heap) (argument : Value) : Directive → Option Unit
  | text => match argument.asPointer with
    | .ok address => if address = 0 then some () else heap.readText? address
    | .error _ => some ()
  | _ => some ()

/-- What the letter behind a percent sign writes. -/
def Format.directive? (heap : Heap) (letter : Char) (arguments : List Value) : Option Unit :=
  if letter = '%' then some ()
  else match Directive.ofLetter? letter, arguments with
    | some directive, argument :: _ => directive.write? heap argument
    | _, _ => some ()

/-- Expands the directives of a format from left to right. -/
def Format.expand? (heap : Heap) : List Char → List Value → Option Unit
  | [], _ => some ()
  | c :: rest, arguments =>
    if c = '%' then
      match rest with
      | [] => some ()
      | letter :: rest => do
        directive? heap letter arguments
        match directive heap letter arguments with
        | .ok (_, arguments) => expand? heap rest arguments
        | .error _ => return ()
    else expand? heap rest arguments

/-- Reads the text at the address that a value stands for. -/
def Heap.textAt? (heap : Heap) (pointer : Value) : Option Unit :=
  match pointer.asPointer with
  | .ok address => heap.readText? address
  | .error _ => some ()

/-- Reads a format at the address that a value stands for, and expands it. -/
def Heap.print? (heap : Heap) (format : Value) (arguments : List Value) : Option Unit := do
  heap.textAt? format
  match format.asPointer >>= fun address => heap.readText address with
  | .ok text => Format.expand? heap text.toList arguments
  | .error _ => return ()

end Definitions

section Texts

variable {heap : Heap} (tidy : heap.Tidy)

include tidy

/-- What stands behind a percent sign can be written out, or is refused. -/
theorem Format.directive?_eq (letter : Char) (arguments : List Value) :
    directive? heap letter arguments = some () := by
  unfold directive?
  -- Memory is read only for a text that is not null, if there is an argument for it.
  split
  · rfl
  · split
    · unfold Directive.write?
      split
      · split
        · split
          · rfl
          · exact Heap.readText?_eq tidy _
        · rfl
      · rfl
    · rfl

/-- To expand a format is always possible. -/
theorem Format.expand?_eq (format : List Char) (arguments : List Value) :
    expand? heap format arguments = some () := by
  -- The induction follows the scan of the format, one piece a case.
  fun_induction expand? heap format arguments with
  | case1 => rfl
  | case2 => rfl
  | case3 arguments letter rest ih =>
    rw [taken (directive?_eq tidy letter arguments)]
    -- What a directive leaves over goes to the rest of the format.
    cases written : directive heap letter arguments with
    | ok made => exact ih made.2
    | error cause => rfl
  | case4 letter rest arguments plain ih => exact ih

/-- The text at a value can be read, or the value is refused. -/
theorem Heap.textAt?_eq (pointer : Value) : heap.textAt? pointer = some () := by
  unfold textAt?
  -- A value that is no address has no text to be read.
  split
  · exact readText?_eq tidy _
  · rfl

/-- A format can be read and written out, or is refused. -/
theorem Heap.print?_eq (format : Value) (arguments : List Value) :
    heap.print? format arguments = some () := by
  unfold print?
  -- The format is read before its directives are, and may not be readable at all.
  rw [taken (textAt?_eq tidy format)]
  split
  · exact Format.expand?_eq tidy _ arguments
  · rfl

end Texts

end StepMachine
