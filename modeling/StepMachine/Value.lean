import StepMachine.CType

/-! Values that expressions yield. -/

namespace StepMachine

/-- Addresses name bytes of memory; zero is the null address. -/
abbrev Address := UInt64

/-- A scalar stands for itself, a structure for the storage that holds it. -/
inductive Value where
  | void
  | int (n : Int32)
  | char (c : Int8)
  | pointer (address : Address)
  | struct (address : Address) (definition : StructDef)
  deriving DecidableEq, Inhabited

namespace Value

/-- Only a pointer to address zero is null. -/
def isNull : Value → Bool
  | pointer address => address = 0
  | _ => false

/-- Whether the value is a pointer. -/
def isPointer : Value → Bool
  | pointer _ => true
  | _ => false

/-- Truth as an integer. -/
def ofBool (b : Bool) : Value := .int (if b then 1 else 0)

/-- The status that a program which returned this value exits with. -/
def exitStatus : Value → Int32
  | int n => n
  | char c => c.toInt32
  | _ => 0

end Value

end StepMachine
