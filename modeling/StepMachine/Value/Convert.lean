import StepMachine.Error

/-! The conversions that a value undergoes when it is used or assigned. -/

namespace StepMachine

namespace Value

/-- A value where another kind was expected. -/
def mismatch (value : Value) (expected : Expectation) : Except RuntimeError α :=
  .error (.typeMismatch expected (.value value))

/-- The integer that a value stands for; characters are widened. -/
def asInt : Value → Except RuntimeError Int32
  | int n => .ok n
  | char c => .ok c.toInt32
  | other => other.mismatch .int

/-- The address that a value stands for; the integer zero is the null address. -/
def asPointer : Value → Except RuntimeError Address
  | pointer address => .ok address
  | int n => if n = 0 then .ok 0 else (int n).mismatch .pointer
  | other => other.mismatch .pointer

/-- Scalars other than zero and pointers other than null are true. -/
def isTruthy : Value → Except RuntimeError Bool
  | int n => .ok (n != 0)
  | char c => .ok (c != 0)
  | pointer address => .ok (address != 0)
  | other => other.mismatch .scalar

/-- The value as an object of a type would hold it. Structures of one name are compatible, and
the value keeps its own definition. -/
def coerce (value : Value) (type : CType) : Except RuntimeError Value :=
  match value, type with
  | int n, .int => .ok (.int n)
  | char c, .int => .ok (.int c.toInt32)
  -- The upper bits are cut off.
  | int n, .char => .ok (.char n.toInt8)
  | char c, .char => .ok (.char c)
  | pointer address, .pointer _ => .ok (.pointer address)
  | int n, .pointer _ => if n = 0 then .ok (.pointer 0) else value.mismatch (.type type)
  | struct address definition, .struct name _ =>
    -- Members are not compared.
    if definition.name = name then .ok (.struct address definition)
    else value.mismatch (.type type)
  | void, .void => .ok .void
  | _, _ => value.mismatch (.type type)

end Value

end StepMachine
