import StepMachine.Value.Storage

/-! Objects that own their storage. -/

namespace StepMachine

/-- An object of a type and the block that holds it. -/
structure Variable where
  type : CType
  block : Block
  deriving DecidableEq, Inhabited

namespace Variable

/-- The address of the object. -/
def address (object : Variable) : Address := object.block.address

/-- The value that the object holds. -/
def load (object : Variable) (heap : Heap) : Except RuntimeError Value :=
  heap.load object.address object.type

/-- Makes the object hold a value. -/
def store (object : Variable) (value : Value) : Edit RuntimeError Unit :=
  Heap.store object.address object.type value

/-- A new object of zero bytes. -/
def allocate (type : CType) : Edit RuntimeError Variable := do
  if type.size = 0 then throw (notStorable type)
  else
    let block ← Heap.allocate type.size
    block.clear
    return ⟨type, block⟩

/-- A new object that holds an initial value, or zero bytes when there is none; if the value does
not fit, the storage is given back. -/
def create (type : CType) (init : Option Value) : Edit RuntimeError Variable := do
  let object ← allocate type
  match init with
  | none => return object
  | some value =>
    try object.store value
    catch cause =>
      modify (·.release object.block)
      throw cause
    return object

end Variable

end StepMachine
