import StepMachine.Location
import StepMachine.Text.Hex
import StepMachine.Value.Text

/-! Causes of failure and their wording. -/

namespace StepMachine

/-- Why an operation on memory failed. -/
inductive MemoryError where
  | outOfMemory (requested available : Nat)
  | invalidAccess (address : Address) (length : Nat)
  | zeroSizedAllocation
  | invalidGeometry (size unit : Nat)
  deriving DecidableEq

/-- Which rule of frames and scopes was broken. -/
inductive StackError where
  | overflow (limit : Nat)
  | underflow
  | noActiveFrame
  | alreadyReturned
  deriving DecidableEq

/-- What a value was needed for. -/
inductive Expectation where
  | int
  | pointer
  | scalar
  | struct
  /-- A type of which objects can be stored. -/
  | object
  /-- Integers on both sides of an operator. -/
  | intOperands
  | type (wanted : CType)
  deriving DecidableEq

/-- What stood where something else was expected. -/
inductive Found where
  | value (seen : Value)
  | type (seen : CType)
  | operation (left : Value) (op : ArithmeticOp) (right : Value)
  deriving DecidableEq

/-- The arithmetic that an error names. -/
inductive Arithmetic where
  | binary (op : ArithmeticOp)
  | negation
  deriving DecidableEq

/-- Why a format was refused. -/
inductive FormatError where
  | noFormat
  | missingArgument (directive : Char)
  | unsupported (directive : Char)
  deriving DecidableEq

/-- Everything that can stop a running program. -/
inductive RuntimeError where
  | memory (cause : MemoryError)
  | stack (cause : StackError)
  | noEntryPoint (name : String)
  | undefinedVariable (name : String)
  | undefinedFunction (name : String)
  | argumentCount (function : String) (expected got : Nat)
  | typeMismatch (expected : Expectation) (found : Found)
  | divisionByZero (operation : Arithmetic)
  | integerOverflow (operation : Arithmetic)
  | notAssignable
  | missingField (struct field : String)
  | invalidFree (address : Address)
  | invalidMallocSize (size : Int32)
  | undefinedString (index : Nat)
  | invalidFormat (cause : FormatError)
  deriving DecidableEq

namespace MemoryError

/-- The wording of a memory error. -/
def message : MemoryError → String
  | outOfMemory requested available =>
    s!"out of memory: requested {requested} bytes, {available} bytes free"
  | invalidAccess address length =>
    s!"invalid memory access: {length} byte(s) at 0x" ++ hex address.toNat
  | zeroSizedAllocation => "allocation size must be greater than zero"
  | invalidGeometry size unit => s!"invalid heap geometry: size {size}, unit {unit}"

end MemoryError

namespace StackError

/-- The wording of a stack error. -/
def message : StackError → String
  | overflow limit => s!"stack overflow: call depth limit of {limit} exceeded"
  | underflow => "stack underflow: nothing to pop"
  | noActiveFrame => "no active function frame"
  | alreadyReturned => "function has already returned"

end StackError

namespace Expectation

/-- The wording of an expectation. -/
def text : Expectation → String
  | int => "int"
  | pointer => "pointer"
  | scalar => "scalar"
  | struct => "struct"
  | object => "object type"
  | intOperands => "int operands"
  | type wanted => wanted.text

end Expectation

namespace Found

/-- Values are spelled out, and the name of a type stands in quotes. -/
def text : Found → String
  | value seen => seen.inspect
  | type seen => quoted seen.text
  | operation left op right => left.inspect ++ " " ++ op.inspect ++ " " ++ right.inspect

end Found

namespace Arithmetic

/-- The name of an operation. -/
def text : Arithmetic → String
  | binary .add => "addition"
  | binary .sub => "subtraction"
  | binary .mul => "multiplication"
  | binary .div => "division"
  | binary .mod => "modulo"
  | negation => "negation"

end Arithmetic

namespace FormatError

/-- The wording of a refused format. -/
def message : FormatError → String
  | noFormat => "printf requires at least one argument"
  | missingArgument directive => "missing argument for %" ++ directive.toString
  | unsupported directive => "unsupported format specifier %" ++ directive.toString

end FormatError

namespace RuntimeError

/-- The wording of a runtime error. -/
def message : RuntimeError → String
  | memory cause => cause.message
  | stack cause => cause.message
  | noEntryPoint name => "no entry point: function '" ++ name ++ "' not found"
  | undefinedVariable name => "undefined variable '" ++ name ++ "'"
  | undefinedFunction name => "undefined function '" ++ name ++ "'"
  | argumentCount function expected got =>
    "function '" ++ function ++ s!"' expects {expected} argument(s), got {got}"
  | typeMismatch expected found =>
    "type error: expected " ++ expected.text ++ ", got " ++ found.text
  | divisionByZero operation => operation.text ++ " by zero"
  | integerOverflow operation => "integer overflow in " ++ operation.text
  | notAssignable => "expression is not assignable"
  | missingField struct field => "struct '" ++ struct ++ "' has no field '" ++ field ++ "'"
  | invalidFree address => "invalid free of address 0x" ++ hex address.toNat
  | invalidMallocSize size => s!"invalid malloc size: {size.toInt} (must be positive)"
  | undefinedString index => s!"string literal #{index} is not in the string table"
  | invalidFormat cause => "invalid printf format: " ++ cause.message

end RuntimeError

/-- A runtime error and the statement it is laid to. -/
structure Fault where
  error : RuntimeError
  location : Option Location
  deriving DecidableEq

namespace Fault

/-- The wording of a fault names the line where one is known. -/
def message (fault : Fault) : String :=
  match fault.location with
  | some location => fault.error.message ++ s!" at line {location.line}"
  | none => fault.error.message

end Fault

end StepMachine
