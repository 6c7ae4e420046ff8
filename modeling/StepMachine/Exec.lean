import StepMachine.Context

/-! Steps of a running program: each either yields a result or unwinds, and in both cases leaves
the state as far as it came. -/

namespace StepMachine

/-- Why control leaves a statement early. -/
inductive Unwind where
  | fault (cause : RuntimeError)
  /-- The program may not go on; this is what the host sees of it at that moment. -/
  | suspended (view : View)
  deriving Inhabited

/-- Computations on the state of a running program. -/
abbrev Exec := EStateM Unwind Context

namespace Exec

/-- Stops the program for a cause. -/
def fail (cause : RuntimeError) : Exec α := throw (.fault cause)

/-- Changes the heap of the program. -/
@[inline] def edit (change : Edit RuntimeError α) : Exec α := fun context =>
  -- The heap is taken out meanwhile, so that it has one holder and changes in place.
  let heap := context.heap
  let rest := { context with heap := .empty }
  match change heap with
  | .ok result heap => .ok result { rest with heap }
  | .error cause heap => .error (.fault cause) { rest with heap }

/-- A program edits its heap. -/
instance : MonadLift (Edit RuntimeError) Exec := ⟨edit⟩

/-- A memory error of an edit is a fault of the program. -/
instance : MonadLift (Edit MemoryError) Exec := ⟨fun change => edit (liftMemory change)⟩

/-- A failed computation is a fault of the program. -/
instance : MonadLift (Except RuntimeError) Exec where
  monadLift
    | .ok result => pure result
    | .error cause => fail cause

/-- A memory error is a fault of the program. -/
instance : MonadLift (Except MemoryError) Exec where
  monadLift
    | .ok result => pure result
    | .error cause => fail (.memory cause)

/-- A stack error is a fault of the program. -/
instance : MonadLift (Except StackError) Exec where
  monadLift
    | .ok result => pure result
    | .error cause => fail (.stack cause)

/-- Frees blocks. -/
def release (blocks : List Block) : Exec Unit := edit (modify (·.releaseAll blocks))

/-- Lays out a literal as its bytes with a zero byte behind. -/
def loadString (literal : String) : Exec Unit := do
  let bytes := utf8Bytes literal
  let block ← Heap.allocate (bytes.length + 1)
  -- If the literal cannot be written, its block is freed and never enters the table.
  try
    block.write 0 bytes
    block.write bytes.length [0]
  catch reason =>
    release [block]
    throw reason
  modify fun context => { context with strings := context.strings.push block }

/-- Lays out the string table. -/
def loadStrings : Exec Unit := do
  let program := (← get).program
  program.strings.toList.forM loadString

/-- Where a literal is laid out. -/
def stringAddress (index : Nat) : Exec Address := do
  match (← get).strings[index]? with
  | some block => return block.address
  | none => fail (.undefinedString index)

/-- Enters an activation of a function. -/
def pushFrame (function : String) (buffer : Option Block) : Exec Unit := do
  let stack ← (← get).stack.push { function, buffer }
  modify fun context => { context with stack }

/-- Leaves the current activation, and frees what it bound. -/
def popFrame : Exec Frame := do
  let (frame, stack) ← (← get).stack.pop
  modify fun context => { context with stack }
  -- The activation is off the stack before its objects are freed.
  release frame.blocks
  return frame

/-- The current activation, where there must be one. -/
def currentFrame : Exec Frame := do
  match (← get).stack.current? with
  | some frame => return frame
  | none => fail (.stack .noActiveFrame)

/-- Replaces the current activation. -/
def setFrame (frame : Frame) : Exec Unit :=
  modify fun context => { context with stack := context.stack.setCurrent frame }

/-- Opens a block in the current function. -/
def pushScope : Exec Unit := do
  setFrame (← currentFrame).pushScope

/-- Closes the innermost block of the current function, and frees what it bound. -/
def popScope : Exec Unit := do
  let (scope, frame) ← (← currentFrame).popScope
  -- The body of the function itself is no block, and is refused above.
  setFrame frame
  release scope.blocks

/-- Binds a name to a new object in the innermost scope and returns the address of the object.
What the name was bound to there is freed. -/
def declare (name : String) (type : CType) (init : Option Value) : Exec Address := do
  -- The object is made before the scope is touched, so that a failure changes no binding.
  let object ← Variable.create type init
  let context ← get
  let scope := context.currentScope
  set (context.setCurrentScope (scope.bind name object))
  -- A name that was bound here before gives its object up.
  release ((scope.find? name).toList.map (·.block))
  return object.address

/-- What a name stands for. -/
def lookup (name : String) : Exec Variable := do
  match (← get).find? name with
  | some object => return object
  | none => fail (.undefinedVariable name)

/-- A new object without a name, which lives until the statement under way ends. -/
def temporary (type : CType) : Exec Variable := do
  let object ← Variable.allocate type
  modify fun context => { context with temporaries := context.temporaries.push object }
  return object

/-- The number of temporary objects. -/
def temporaryMark : Exec Nat := return (← get).temporaries.size

/-- Frees all but the oldest `mark` temporary objects. -/
def releaseTemporaries (mark : Nat) : Exec Unit := do
  if (← get).temporaries.size ≤ mark then return
  -- Those behind the mark were made later, and go together.
  let newer := ((← get).temporaries.extract mark).toList
  modify fun context => { context with temporaries := context.temporaries.shrink mark }
  release (newer.map (·.block))

/-- Records what the current function returns. -/
def markReturned (value : Value) : Exec Unit := do
  setFrame (← (← currentFrame).markReturned value)

/-- Hands out a block that the program gives back itself. No other one that is still held starts
where it does, so that none is displaced. -/
def malloc (size : Nat) : Exec Address := do
  let block ← Heap.allocate size
  modify fun context => { context with dynamic := block :: context.dynamic }
  return block.address

/-- Takes back a block handed out before. -/
def free (address : Address) : Exec Unit := do
  match (← get).dynamic.find? (·.address = address) with
  -- Only the start of a block counts, and only of one that is still handed out.
  | some block =>
    modify fun context =>
      { context with dynamic := context.dynamic.filter (·.address ≠ address) }
    release [block]
  | none => fail (.invalidFree address)

/-- Prints a text under the statement under way. -/
def print (text : String) : Exec Unit :=
  modify fun context =>
    { context with terminal := context.terminal.print text context.location }

/-- Lets the statement under way begin, or suspends the program before it. -/
def enter (location : Location) : Exec Unit := fun context =>
  -- The statement counts as reached even if it has to wait.
  let context := { context with cursor := some location }
  match context.grants with
  | 0 => .error (.suspended context.view) context
  | grants + 1 =>
    .ok () { context with grants, journal := context.journal.add location context.moment }

/-- Runs a computation whose temporary objects go when it is over, however it ends. -/
def alone (run : Exec α) : Exec α := do
  let mark ← temporaryMark
  -- What was there at the mark belongs to others and stays.
  try run
  finally releaseTemporaries mark

/-- Runs the effect of a statement. After the current function has returned nothing happens. A
statement that fails stays among those under way, so that the failure can be laid to it. -/
def statement (location : Location) (effect : Exec Unit) : Exec Unit := do
  if (← get).hasReturned then return
  modify fun context => { context with active := location :: context.active }
  -- A failure leaves here, before the statement is taken off again.
  alone do
    enter location
    effect
  modify fun context => { context with active := context.active.tail }

/-- Runs a body in a block of the current function, which is closed however the body ends. -/
def inBlock (body : Exec Unit) : Exec Unit := do
  pushScope
  -- A failure of the body goes on only after the block is closed.
  try body
  finally popScope

/-- Runs a body in an activation of a function, which is left however the body ends, and returns
the activation. -/
def activation (function : String) (buffer : Option Block) (body : Exec Unit) : Exec Frame := do
  pushFrame function buffer
  -- The activation itself tells what was returned in it.
  let (_, frame) ← tryFinally' body fun _ => popFrame
  return frame

/-- Repeats a body that is a statement, for `turns` rounds at most. Each round lets at least one
statement in, so that `turns` rounds are enough when fewer than `turns` may still be let in. -/
def repeatWhile (test : Exec Bool) (body : Exec Unit) : (turns : Nat) → Exec Unit
  -- With that many turns the last round is suspended before this one is reached.
  | 0 => do throw (.suspended (← get).view)
  | turns + 1 => do
    -- A return in the body ends the loop before the next test.
    if (← get).hasReturned then return
    if ← test then
      body
      repeatWhile test body turns

/-- Repeats a body while a test holds and the current function has not returned. -/
def loop (test : Exec Bool) (body : Exec Unit) : Exec Unit := do
  -- One turn more than statements can still be let in.
  repeatWhile test body ((← get).grants + 1)

end Exec

end StepMachine
