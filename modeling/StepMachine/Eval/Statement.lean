import StepMachine.Eval.Expression

/-! Execution of statements and of calls. -/

namespace StepMachine

namespace Exec

/-- Whether a condition holds. -/
def test (invoke : Invoke) (condition : Expr) : Exec Bool := do
  (← condition.eval invoke).isTruthy

/-- A value that outlives the current function: a structure is copied to the caller's storage,
where there is some. -/
def handOver (value : Value) : Exec Value := do
  match value, (← get).stack.current?.bind (·.buffer) with
  -- The objects of the function are freed when it is left, so a structure is moved out.
  | .struct address definition, some buffer =>
    buffer.fillFrom address definition.size
    return .struct buffer.address definition
  | value, _ => return value

end Exec

mutual

/-- Runs a statement. -/
def Stmt.exec (invoke : Invoke) : Stmt → Exec Unit
  | .declare name type init location => Exec.statement location do
    match init with
    -- The initial value is evaluated before the name is bound.
    | some value => discard (Exec.declare name type (some (← value.eval invoke)))
    | none => discard (Exec.declare name type none)
  | .expression value location => Exec.statement location do
    discard (value.eval invoke)
  | .block body location => Exec.statement location do
    Exec.inBlock (Stmt.execAll invoke body)
  | .branch condition yes no location => Exec.statement location do
    if ← Exec.test invoke condition then yes.exec invoke
    else match no with
      | some statement => statement.exec invoke
      | none => return
  | .loop condition body location => Exec.statement location do
    -- Each test of the condition is over before the body begins.
    Exec.loop (Exec.alone (Exec.test invoke condition)) (body.exec invoke)
  -- A return only marks the activation; the statements behind it see the mark and do nothing.
  | .ret value location => Exec.statement location do
    match value with
    | some value => Exec.markReturned (← Exec.handOver (← value.eval invoke))
    | none => Exec.markReturned .void

/-- Runs statements in order. -/
def Stmt.execAll (invoke : Invoke) : List Stmt → Exec Unit
  | [] => return
  | statement :: rest => do
    statement.exec invoke
    Stmt.execAll invoke rest

end

namespace Function

/-- Binds the parameters to argument values, in order. -/
def bindAll : List (String × CType) → List Value → Exec Unit
  | (name, type) :: parameters, value :: values => do
    -- A parameter is a name of the function's body, converted to its type.
    discard (Exec.declare name type (some value))
    bindAll parameters values
  | _, _ => return

/-- Fails unless there are as many arguments as parameters. -/
def checkCount (function : Function) (arguments : List Value) : Exec Unit := do
  if arguments.length = function.parameters.length then return
  else Exec.fail (.argumentCount function.name function.parameters.length arguments.length)

/-- Runs a function on argument values where `room` more activations fit. A function that ends
without a return yields nothing, whatever its declared result. -/
def invoke : (room : Nat) → Invoke
  | 0, function, arguments, _ => do
    function.checkCount arguments
    -- The arguments are counted even where there is no room left.
    Exec.fail (.stack (.overflow (← get).stack.limit))
  | room + 1, function, arguments, buffer => do
    function.checkCount arguments
    -- Parameters are bound inside the new activation.
    let frame ← Exec.activation function.name buffer do
      bindAll function.parameters arguments
      Stmt.execAll (invoke room) function.body
    match frame.result with
    | .void => return .void
    | value => value.coerce function.result

end Function

namespace Exec

/-- How functions are run from the present depth on. -/
def invoker : Exec Invoke := return Function.invoke (← get).stack.room

/-- Runs a statement at the present depth. -/
def runStatement (statement : Stmt) : Exec Unit := do statement.exec (← invoker)

/-- The value of an expression at the present depth. -/
def evaluate (expression : Expr) : Exec Value := do expression.eval (← invoker)

/-- The place that an expression names at the present depth. -/
def placeOf (expression : Expr) : Exec Place := do expression.place (← invoker)

/-- Calls a function by name with argument values, without storage for a returned structure. -/
def call (function : String) (arguments : List Value) : Exec Value := do
  let callee ← resolve function
  callee.call (← invoker) arguments none

/-- Runs a whole program: the string table is laid out, the entry point looked up, the global
statements run in order, and then the entry point, whose result is the exit status. -/
def runProgram (entryPoint : String) : Exec Int32 := do
  loadStrings
  let program := (← get).program
  match program.function? entryPoint with
  -- A missing entry point is found before any statement runs.
  | none => fail (.noEntryPoint entryPoint)
  | some entry =>
    -- The global statements run outside of any function.
    let invoke ← invoker
    Stmt.execAll invoke program.globals
    return (← invoke entry [] none).exitStatus

end Exec

end StepMachine
