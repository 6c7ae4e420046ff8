import StepMachine.Heap.Access
import StepMachine.Value.Operator
import StepMachine.Value.Storage

/-! Formatted text: a percent sign and a letter stand for the next argument. -/

namespace StepMachine

/-- The least eight bits of an integer. -/
def lowByte (n : Int32) : Nat := n.toUInt32.toNat % 256

/-- How a directive writes its argument. -/
inductive Directive where
  | signed
  | unsigned
  | hexadecimal
  | character
  | text
  | pointer
  deriving DecidableEq

namespace Directive

/-- The directive that a letter stands for. -/
def ofLetter? (letter : Char) : Option Directive :=
  if letter = 'd' ∨ letter = 'i' then some signed
  else if letter = 'u' then some unsigned
  else if letter = 'x' then some hexadecimal
  else if letter = 'c' then some character
  else if letter = 's' then some text
  else if letter = 'p' then some pointer
  else none

/-- Writes one argument. A character is the one with the argument's low byte as its number, and
the null text has a name of its own. -/
def write (heap : Heap) (argument : Value) : Directive → Except RuntimeError String
  | signed => do return toString (← argument.asInt).toInt
  -- A negative number is read as the unsigned one with the same bits.
  | unsigned => do return toString (← argument.asInt).toUInt32.toNat
  | hexadecimal => do return hex (← argument.asInt).toUInt32.toNat
  | character => do return (Char.ofNat (lowByte (← argument.asInt))).toString
  | text => do
    let address ← argument.asPointer
    if address = 0 then return "(null)" else heap.readText address
  | pointer => do return "0x" ++ hex (← argument.asPointer).toNat

end Directive

namespace Format

/-- What the letter behind a percent sign writes, and the arguments that it leaves over. -/
def directive (heap : Heap) (letter : Char) (arguments : List Value) :
    Except RuntimeError (String × List Value) :=
  -- A doubled percent sign takes no argument.
  if letter = '%' then .ok ("%", arguments)
  else match Directive.ofLetter? letter, arguments with
    | some directive, argument :: rest => do return (← directive.write heap argument, rest)
    -- A known letter without an argument is told apart from an unknown one.
    | some _, [] => .error (.invalidFormat (.missingArgument letter))
    | none, _ => .error (.invalidFormat (.unsupported letter))

/-- Expands the directives of a format from left to right. A percent sign at the very end stands
for itself, and surplus arguments are ignored. -/
def expand (heap : Heap) : List Char → List Value → Except RuntimeError (List Char)
  | [], _ => .ok []
  | c :: rest, arguments =>
    if c = '%' then
      match rest with
      -- Nothing follows that could name a directive.
      | [] => .ok ['%']
      | letter :: rest => do
        let (text, arguments) ← directive heap letter arguments
        return text.toList ++ (← expand heap rest arguments)
    else do return c :: (← expand heap rest arguments)

end Format

end StepMachine
