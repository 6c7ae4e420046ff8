import StepMachine.Heap.Block
import StepMachine.Heap.Scalar
import StepMachine.Value.Convert

/-! Values in memory. -/

namespace StepMachine

/-- A type of which no object can be stored. -/
def notStorable (type : CType) : RuntimeError := .typeMismatch .object (.type type)

/-- An edit that fails for a memory error fails the surrounding edit for the same cause. -/
def liftMemory (edit : Edit MemoryError α) : Edit RuntimeError α := fun heap =>
  match edit heap with
  | .ok result heap => .ok result heap
  | .error cause heap => .error (.memory cause) heap

/-- Edits of the heap that fail for memory errors may be parts of ones that fail for others. -/
instance : MonadLift (Edit MemoryError) (Edit RuntimeError) := ⟨liftMemory⟩

/-- Reads of the heap that fail for memory errors may be parts of ones that fail for others. -/
instance : MonadLift (Except MemoryError) (Except RuntimeError) :=
  ⟨fun result => result.mapError .memory⟩

namespace Heap

/-- The value of the object of a type at an address. A structure is not read, but its storage
must be live. -/
def load (heap : Heap) (address : Address) (type : CType) : Except RuntimeError Value :=
  match type with
  | .int => do return .int (Int32.ofInt (← heap.readScalar .int address))
  | .char => do return .char (Int8.ofInt (← heap.readScalar .char address))
  | .pointer _ => do return .pointer (UInt64.ofInt (← heap.readScalar .pointer address))
  | .struct name fields =>
    if heap.isLive address fields.size then .ok (.struct address ⟨name, fields⟩)
    else .error (.memory (.invalidAccess address fields.size))
  | .void => .error (notStorable .void)

/-- Makes the object of a type at an address hold a value, converted to the type. A structure is
copied whole, as its own definition measures it. -/
def store (address : Address) (type : CType) (value : Value) : Edit RuntimeError Unit :=
  match value.coerce type with
  | .error cause => throw cause
  | .ok (.int n) => liftMemory (writeScalar .int address n.toInt)
  | .ok (.char c) => liftMemory (writeScalar .char address c.toInt)
  | .ok (.pointer target) => liftMemory (writeScalar .pointer address target.toNat)
  | .ok (.struct source definition) => liftMemory (copy address source definition.size)
  | .ok .void => throw (notStorable .void)

end Heap

end StepMachine
