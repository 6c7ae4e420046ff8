import StepMachine.Value.Convert

/-! Operators on values: exact integer arithmetic, or a failure that names the operation. -/

namespace StepMachine

/-- An exact result as an integer of the machine, if it is one. -/
def machineInt (operation : Arithmetic) (exact : Int) : Except RuntimeError Int32 :=
  if -0x80000000 ≤ exact ∧ exact ≤ 0x7FFFFFFF then .ok (Int32.ofInt exact)
  else .error (.integerOverflow operation)

namespace ArithmeticOp

/-- Computes with two integers. Quotients are cut off toward zero, and a remainder exists only
where the quotient does. -/
def apply (op : ArithmeticOp) (a b : Int32) : Except RuntimeError Int32 :=
  match op with
  | add => machineInt (.binary add) (a.toInt + b.toInt)
  | sub => machineInt (.binary sub) (a.toInt - b.toInt)
  | mul => machineInt (.binary mul) (a.toInt * b.toInt)
  | div =>
    if b = 0 then .error (.divisionByZero (.binary div))
    else machineInt (.binary div) (a.toInt.tdiv b.toInt)
  | mod =>
    if b = 0 then .error (.divisionByZero (.binary mod))
    else do
      -- The remainder itself would fit, but is refused where the quotient does not.
      let _ ← machineInt (.binary mod) (a.toInt.tdiv b.toInt)
      machineInt (.binary mod) (a.toInt.tmod b.toInt)

end ArithmeticOp

namespace Comparison

/-- Whether two numbers compare as the operator asks. -/
def holds (op : Comparison) (a b : Int) : Bool :=
  match op with
  | eq => a = b
  | ne => a ≠ b
  | lt => a < b
  | le => a ≤ b
  | gt => b < a
  | ge => b ≤ a

end Comparison

namespace Value

/-- Applies an arithmetic operator. Pointers can only be compared. -/
def arithmetic (op : ArithmeticOp) (left right : Value) : Except RuntimeError Value := do
  if left.isPointer || right.isPointer then
    -- An operand that is no pointer at all is reported first.
    let _ ← left.asPointer
    let _ ← right.asPointer
    throw (.typeMismatch .intOperands (.operation left op right))
  else
    return .int (← op.apply (← left.asInt) (← right.asInt))

/-- Compares two pointers, one of which may be the integer zero, or two integers. -/
def compare (op : Comparison) (left right : Value) : Except RuntimeError Value := do
  if left.isPointer || right.isPointer then
    let a ← left.asPointer
    let b ← right.asPointer
    return .ofBool (op.holds a.toNat b.toNat)
  else
    let a ← left.asInt
    let b ← right.asInt
    return .ofBool (op.holds a.toInt b.toInt)

/-- Applies an operator with one operand. -/
def unary (op : UnaryOp) (value : Value) : Except RuntimeError Value :=
  match op with
  | .neg => do return .int (← machineInt .negation (-(← value.asInt).toInt))
  | .not => do return .ofBool (!(← value.isTruthy))

end Value

end StepMachine
