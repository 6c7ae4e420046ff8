import StepMachine.Eval.Format
import StepMachine.Exec

/-! Functions that every program can call without defining them. -/

namespace StepMachine

/-- The functions that the machine provides. -/
inductive Builtin where
  | printf
  | puts
  | putchar
  | malloc
  | free
  deriving DecidableEq

namespace Builtin

/-- The name a program calls the function by. -/
def name : Builtin → String
  | printf => "printf"
  | puts => "puts"
  | putchar => "putchar"
  | malloc => "malloc"
  | free => "free"

/-- The function of a name. -/
def ofName? (name : String) : Option Builtin :=
  [printf, puts, putchar, malloc, free].find? (·.name = name)

/-- The type of what the function yields. -/
def result : Builtin → CType
  | printf | puts | putchar => .int
  | malloc => .pointer .void
  | free => .void

/-- Hands out a block that the program gives back itself, or the null pointer when there is no
room for it. -/
def mallocOrNull (size : Nat) : Exec Value := do
  try pure (.pointer (← Exec.malloc size))
  catch
    -- Only a lack of memory is answered, and counted; any other failure goes on.
    | .fault (.memory (.outOfMemory _ _)) => do
      modify fun context => { context with refused := context.refused + 1 }
      pure (.pointer 0)
    | reason => throw reason

/-- The text at the address that a value stands for. -/
def textAt (pointer : Value) : Exec String := do
  (← get).heap.readText (← pointer.asPointer)

/-- Calls the function. Except for formatted output, all of them take one argument. -/
def call : Builtin → List Value → Exec Value
  | printf, [] => Exec.fail (.invalidFormat .noFormat)
  | printf, format :: arguments => do
    let format ← textAt format
    -- The whole text is made before any of it is printed.
    let text := String.ofList (← Format.expand (← get).heap format.toList arguments)
    Exec.print text
    -- The result is the number of bytes, not of characters.
    return .int (Int32.ofNat text.utf8ByteSize)
  | puts, [argument] => do
    let text ← textAt argument
    Exec.print (text ++ "\n")
    return .int 0
  | putchar, [argument] => do
    -- An integer is cut down to its least byte.
    let byte := lowByte (← argument.asInt)
    Exec.print (Char.ofNat byte).toString
    return .int (Int32.ofNat byte)
  | malloc, [argument] => do
    let size ← argument.asInt
    -- A size that is not positive is a fault of the program, unlike a lack of memory.
    if size ≤ 0 then Exec.fail (.invalidMallocSize size) else mallocOrNull size.toInt.toNat
  | free, [argument] => do
    let address ← argument.asPointer
    -- To give back null does nothing.
    if address = 0 then return .void
    else
      Exec.free address
      return .void
  | other, arguments => Exec.fail (.argumentCount other.name 1 arguments.length)

end Builtin

end StepMachine
