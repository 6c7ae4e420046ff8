import StepMachine.Heap.Basic
import StepMachine.Text.Utf8

/-! Reading and writing live bytes of a heap. -/

namespace StepMachine

/-- Appends zero bytes. -/
def padZeros : Nat → ByteArray → ByteArray
  | 0, bytes => bytes
  | count + 1, bytes => padZeros count (bytes.push 0)

/-- Sets a byte, where bytes that are not there count as zero. -/
def setByte (bytes : ByteArray) (index : Nat) (byte : UInt8) : ByteArray :=
  if inside : index < bytes.size then bytes.set index byte
  -- Bytes up to there were never written, and are zero.
  else (padZeros (index - bytes.size) bytes).push byte

/-- Lays bytes over others from a position on. -/
def overlay (under : ByteArray) (position : Nat) : List UInt8 → ByteArray
  | [] => under
  | byte :: rest => overlay (setByte under position byte) (position + 1) rest

/-- Sets `count` bytes from a position on to zero, of those that are there. -/
def zeroBytes (position : Nat) : Nat → ByteArray → ByteArray
  | 0, bytes => bytes
  | count + 1, bytes =>
    zeroBytes (position + 1) count
      (if inside : position < bytes.size then bytes.set position 0 else bytes)

namespace Heap

/-- The byte at a position of the arena. -/
def byteAt (heap : Heap) (position : Nat) : UInt8 :=
  if inside : position < heap.bytes.size then heap.bytes[position] else 0

/-- The `count` bytes from a position on, in front of others. -/
def bytesAt (heap : Heap) (position : Nat) : (count : Nat) → List UInt8 → List UInt8
  | 0, behind => behind
  | count + 1, behind => heap.bytesAt position count (heap.byteAt (position + count) :: behind)

/-- The bytes of a live range. -/
def read (heap : Heap) (address : Address) (length : Nat) : Except MemoryError (List UInt8) := do
  let offset ← heap.locate address length
  return heap.bytesAt offset length []

/-- Puts bytes into the arena, live or not. -/
def put (heap : Heap) (offset : Nat) (bytes : List UInt8) : Heap :=
  { heap with bytes := overlay heap.bytes offset bytes }

/-- Overwrites a live range, which may not be empty. -/
def write (address : Address) (bytes : List UInt8) : Edit MemoryError Unit := fun heap =>
  match heap.locate address bytes.length with
  | .error cause => .error cause heap
  | .ok offset => .ok () (heap.put offset bytes)

/-- Sets a live range, which may not be empty, to zero. -/
def clear (address : Address) (length : Nat) : Edit MemoryError Unit := fun heap =>
  match heap.locate address length with
  | .error cause => .error cause heap
  | .ok offset =>
    -- Bytes that were never written are zero already.
    let count := min length (heap.bytes.size - offset)
    .ok () { heap with bytes := zeroBytes offset count heap.bytes }

/-- Moves bytes between two live ranges, which may overlap; to move none always succeeds. -/
def copy (target source : Address) (length : Nat) : Edit MemoryError Unit := fun heap =>
  -- Neither address is looked at.
  if length = 0 then .ok () heap
  -- All bytes are read before the first is written, so that ranges may overlap.
  else match heap.read source length with
    | .error cause => .error cause heap
    | .ok bytes => write target bytes heap

/-- The bytes in front of the first zero byte from an address on, where at most `left` bytes are
looked at. -/
def bytesToZero (heap : Heap) : (left : Nat) → Address → Except MemoryError (List UInt8)
  | 0, address => .error (.invalidAccess address 1)
  | left + 1, address => do
    -- Each byte has to be live by itself, up to the zero byte.
    let bytes ← heap.read address 1
    match bytes with
    | byte :: _ =>
      if byte = 0 then return []
      else return byte :: (← heap.bytesToZero left (address + 1))
    | [] => return []

/-- The text that a zero byte ends. Past the last byte of the arena nothing is live, so that
looking at one byte more than there are is enough. -/
def readText (heap : Heap) (address : Address) : Except MemoryError String := do
  return Utf8.decode (← heap.bytesToZero (heap.size + 1) address)

end Heap

namespace Address

/-- The address `offset` bytes on; there is none past the last 64-bit number. -/
def shift (address : Address) (offset length : Nat) : Except MemoryError Address :=
  if address.toNat + offset < UInt64.size then .ok (address + UInt64.ofNat offset)
  else .error (.invalidAccess address length)

end Address

end StepMachine
