import StepMachine.Heap.Scalar

/-! Access through a block, confined to the bytes that its holder asked for. -/

namespace StepMachine

namespace Block

/-- The address of a part of the block; fails unless the part lies within the block's size. -/
def part (block : Block) (offset length : Nat) : Except MemoryError Address :=
  -- The size is what was asked for, which may end inside a unit.
  let address := block.address + UInt64.ofNat offset
  if offset + length ≤ block.size then .ok address
  else .error (.invalidAccess address length)

/-- A part of the block as a block of its own, which owns nothing. -/
def slice (block : Block) (offset length : Nat) : Except MemoryError Block := do
  -- Giving up the part frees nothing.
  return ⟨← block.part offset length, length, false⟩

/-- The bytes of a part of the block. -/
def read (block : Block) (heap : Heap) (offset length : Nat) : Except MemoryError (List UInt8) := do
  heap.read (← block.part offset length) length

/-- Overwrites a part of the block. -/
def write (block : Block) (offset : Nat) (bytes : List UInt8) : Edit MemoryError Unit :=
  match block.part offset bytes.length with
  | .error cause => throw cause
  | .ok address => Heap.write address bytes

/-- Reads an integer from a part of the block. -/
def readScalar (block : Block) (heap : Heap) (scalar : Scalar) (offset : Nat) :
    Except MemoryError Int := do
  heap.readScalar scalar (← block.part offset scalar.size)

/-- Writes an integer over a part of the block. -/
def writeScalar (block : Block) (scalar : Scalar) (offset : Nat) (number : Int) :
    Edit MemoryError Unit :=
  match block.part offset scalar.size with
  | .error cause => throw cause
  | .ok address => Heap.writeScalar scalar address number

/-- Overwrites the block with zeros. -/
def clear (block : Block) : Edit MemoryError Unit :=
  Heap.clear block.address block.size

/-- Copies `length` bytes from elsewhere to the start of the block. -/
def fillFrom (block : Block) (source : Address) (length : Nat) : Edit MemoryError Unit :=
  fun heap =>
    match heap.read source length with
    | .error cause => .error cause heap
    | .ok bytes => block.write 0 bytes heap

end Block

end StepMachine
