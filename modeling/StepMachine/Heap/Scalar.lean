import StepMachine.Heap.Access

/-! Integers of fixed width in memory, least byte first, negative ones in two's complement. -/

namespace StepMachine

/-- How many bytes an integer takes. -/
inductive Width where
  | one
  | two
  | four
  | eight
  deriving DecidableEq

namespace Width

/-- The number of bytes of a width. -/
def bytes : Width → Nat
  | one => 1
  | two => 2
  | four => 4
  | eight => 8

end Width

/-- The least `count` base-256 digits of a number, least first. -/
def toDigits256 : (count number : Nat) → List UInt8
  | 0, _ => []
  | count + 1, number => UInt8.ofNat number :: toDigits256 count (number / 256)

/-- The number with the given base-256 digits, least first. -/
def ofDigits256 : List UInt8 → Nat
  | [] => 0
  | digit :: rest => digit.toNat + 256 * ofDigits256 rest

/-- How many numbers `count` base-256 digits tell apart. -/
def span256 : (count : Nat) → Nat
  | 0 => 1
  | count + 1 => 256 * span256 count

/-- The least natural number that differs from a number by a multiple of `span`. -/
def residue (span : Nat) : Int → Nat
  | .ofNat n => n % span
  -- Negative numbers count down from the span.
  | .negSucc n => span - 1 - n % span

/-- A fixed-width integer format. -/
structure Scalar where
  width : Width
  signed : Bool
  deriving DecidableEq

namespace Scalar

/-- The number of bytes of the format. -/
def size (scalar : Scalar) : Nat := scalar.width.bytes

/-- The bytes of a number, taken modulo the range of the format. -/
def encode (scalar : Scalar) (number : Int) : List UInt8 :=
  toDigits256 scalar.size (residue (span256 scalar.size) number)

/-- The number of the format that a residue stands for. -/
def ofResidue (scalar : Scalar) (number : Nat) : Int :=
  let span := span256 scalar.size
  -- The upper half of the residues stands for the negative numbers.
  if scalar.signed ∧ span ≤ 2 * number then -((span - number : Nat) : Int) else number

/-- The number that bytes stand for. -/
def decode (scalar : Scalar) (bytes : List UInt8) : Int := scalar.ofResidue (ofDigits256 bytes)

/-- The format of an `int` object. -/
def int : Scalar := ⟨.four, true⟩

/-- The format of a `char` object. -/
def char : Scalar := ⟨.one, true⟩

/-- The format of a pointer object. -/
def pointer : Scalar := ⟨.eight, false⟩

end Scalar

namespace Heap

/-- The number whose base-256 digits, least first, are the `count` bytes from a position on. -/
def numberAt (heap : Heap) (position : Nat) : (count : Nat) → Nat
  | 0 => 0
  | count + 1 => (heap.byteAt position).toNat + 256 * heap.numberAt (position + 1) count

/-- Reads an integer from live bytes. -/
def readScalar (heap : Heap) (scalar : Scalar) (address : Address) : Except MemoryError Int := do
  return scalar.ofResidue (heap.numberAt (← heap.locate address scalar.size) scalar.size)

/-- Writes an integer over live bytes. -/
def writeScalar (scalar : Scalar) (address : Address) (number : Int) : Edit MemoryError Unit :=
  write address (scalar.encode number)

end Heap

end StepMachine
