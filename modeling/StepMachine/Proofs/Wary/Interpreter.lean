import StepMachine.Eval.Statement
import StepMachine.Proofs.Wary.Objects

/-! Programs run with a look before every operation that is not always possible. What is possible at
any time is taken as it is; what touches memory, adds to an address, takes an element or relies on
what was done before is done warily. -/

namespace StepMachine

open Wary (step possibly)

/-- Wary computations on the state of a running program. -/
abbrev WaryExec := Wary Unwind Context

/-- How a function of the program is run warily. -/
abbrev WaryInvoke := Function → List Value → Option Block → WaryExec Value

namespace Exec

/-- Takes a result of pure computing. -/
def lift? (result : Except RuntimeError α) : WaryExec α := step (liftM result)

/-- Whether a value counts as true. -/
def truth? (value : Value) : WaryExec Bool := lift? value.isTruthy

/-- Looks at the heap of the program before a step. -/
def looking? (look : Heap → Option Unit) (run : Exec α) : WaryExec α :=
  Wary.looking (fun context => look context.heap) run

/-- Changes the heap of the program. -/
def edit? (change : Wary RuntimeError Heap α) : WaryExec α := fun context =>
  (change context.heap).map fun
    | .ok result heap => .ok result { context with heap }
    | .error cause heap => .error (.fault cause) { context with heap }

/-- Frees blocks. -/
def release? (blocks : List Block) : WaryExec Unit := edit? (Heap.free? blocks)

/-- Hands out a block. -/
def allocate? (size : Nat) : WaryExec Block := edit? (Wary.liftMemory (Heap.allocate? size))

/-- Lays out a literal as its bytes with a zero byte behind. -/
def loadString? (literal : String) : WaryExec Unit := do
  let bytes := utf8Bytes literal
  let block ← allocate? (← possibly (word (bytes.length + 1)))
  Wary.handling
    (do
      looking? (block.write? 0 bytes) (liftM (block.write 0 bytes))
      looking? (block.write? bytes.length [0]) (liftM (block.write bytes.length [0])))
    fun reason => do
      release? [block]
      step (throw reason)
  step (modify fun context => { context with strings := context.strings.push block })

/-- Lays out the string table. -/
def loadStrings? : WaryExec Unit := do
  let context ← step get
  context.program.strings.toList.forM loadString?

/-- Leaves the current activation, and frees what it bound. -/
def popFrame? : WaryExec Frame := do
  let context ← step get
  let (frame, stack) ← step (liftM context.stack.pop)
  step (modify fun context => { context with stack })
  release? frame.blocks
  return frame

/-- Closes the innermost block of the current function, and frees what it bound. -/
def popScope? : WaryExec Unit := do
  let current ← step currentFrame
  let (scope, frame) ← step (liftM current.popScope)
  step (setFrame frame)
  release? scope.blocks

/-- Binds a name to a new object in the innermost scope. -/
def declare? (name : String) (type : CType) (init : Option Value) : WaryExec Address := do
  let object ← edit? (Variable.create? type init)
  let context ← step get
  let scope := context.currentScope
  step (set (context.setCurrentScope (scope.bind name object)))
  release? ((scope.find? name).toList.map (·.block))
  -- The name is bound before the storage that it had is freed.
  return object.address

/-- A new object without a name, which is taken from where it was put. -/
def temporary? (type : CType) : WaryExec Variable := do
  let object ← edit? (Variable.allocate? type)
  step (modify fun context => { context with temporaries := context.temporaries.push object })
  let context ← step get
  let last ← possibly (difference context.temporaries.size 1)
  possibly context.temporaries[last]?

/-- Frees all but the oldest `mark` temporary objects. -/
def releaseTemporaries? (mark : Nat) : WaryExec Unit := do
  let context ← step get
  -- With nothing behind the mark there is no difference to take.
  if context.temporaries.size ≤ mark then return
  let _ ← possibly (difference context.temporaries.size mark)
  step (modify fun context => { context with temporaries := context.temporaries.shrink mark })
  release? ((context.temporaries.extract mark).toList.map (·.block))

/-- Hands out a block that the program gives back itself, or null when there is no room for it. -/
def mallocOrNull? (size : Nat) : WaryExec Value :=
  Wary.handling
    (do
      let block ← allocate? size
      step (modify fun context => { context with dynamic := block :: context.dynamic })
      return .pointer block.address)
    fun
      | .fault (.memory (.outOfMemory _ _)) => do
        step (modify fun context => { context with refused := context.refused + 1 })
        return .pointer 0
      | reason => step (throw reason)

/-- Takes back a block handed out before. -/
def free? (address : Address) : WaryExec Unit := do
  let context ← step get
  match context.dynamic.find? (·.address = address) with
  | some block =>
    step (modify fun context =>
      { context with dynamic := context.dynamic.filter (·.address ≠ address) })
    release? [block]
  | none => step (fail (.invalidFree address))

/-- Reads an object. -/
def loadPlace? (place : Place) : WaryExec Value :=
  looking? (·.load? place.address place.type) (loadPlace place)

/-- Makes an object hold a value. -/
def storePlace? (place : Place) (value : Value) : WaryExec Unit :=
  looking? (·.store? place.address place.type value)
    (edit (Heap.store place.address place.type value))

/-- Storage for the result of a call, if that is a structure. -/
def returnBuffer? (type : CType) : WaryExec (Option Block) := do
  if type.isStruct then
    let object ← temporary? type
    let slice ← possibly (object.block.slice? 0 object.block.size)
    return some (← step (liftM slice))
  else return none

/-- A value that outlives the current function. -/
def handOver? (value : Value) : WaryExec Value := do
  let context ← step get
  match value, context.stack.current?.bind (·.buffer) with
  | .struct address definition, some buffer =>
    -- A structure is copied to where the caller wants it.
    let size ← possibly (word definition.size)
    looking? (buffer.fill? address size) (liftM (buffer.fillFrom address size))
    return .struct buffer.address definition
  | value, _ => return value

/-- Runs a computation whose temporary objects go when it is over. -/
def alone? (run : WaryExec α) : WaryExec α := do
  let mark ← step temporaryMark
  return (← Wary.lastly run (releaseTemporaries? mark)).1

/-- Runs the effect of a statement, unless the current function has returned. -/
def statement? (location : Location) (effect : WaryExec Unit) : WaryExec Unit := do
  let context ← step get
  if context.hasReturned then return
  step (modify fun context => { context with active := location :: context.active })
  alone? do
    step (enter location)
    effect
  step (modify fun context => { context with active := context.active.tail })

/-- Runs a body in a block of the current function. -/
def inBlock? (body : WaryExec Unit) : WaryExec Unit := do
  step pushScope
  return (← Wary.lastly body popScope?).1

/-- Runs a body in an activation of a function. That activation can be left when the body is over,
or the computation crashes. -/
def activation? (function : String) (buffer : Option Block) (body : WaryExec Unit) :
    WaryExec Frame := do
  step (pushFrame function buffer)
  return (← Wary.lastly body (Wary.certainly popFrame?)).2

/-- Repeats a body, for `turns` rounds at most. -/
def repeatWhile? (test : WaryExec Bool) (body : WaryExec Unit) : (turns : Nat) → WaryExec Unit
  | 0 => step do throw (.suspended (← get).view)
  | turns + 1 => do
    let context ← step get
    if context.hasReturned then return
    if ← test then
      body
      repeatWhile? test body turns

/-- Repeats a body while a test holds and the current function has not returned. -/
def loop? (test : WaryExec Bool) (body : WaryExec Unit) : WaryExec Unit := do
  let context ← step get
  repeatWhile? test body (context.grants + 1)

end Exec

namespace Builtin

/-- How many arguments a function takes; formatted output takes any number. -/
def arity? : Builtin → Option Nat
  | printf => none
  | _ => some 1

/-- Calls the function. The number of arguments is checked first, and only then is the first one
taken. -/
def call? (builtin : Builtin) (arguments : List Value) : WaryExec Value :=
  if builtin.arity?.all (· = arguments.length) then
    match builtin with
    | printf => match arguments with
      | [] => step (printf.call [])
      | format :: rest =>
        Exec.looking? (·.print? format rest) (printf.call (format :: rest))
    | puts => do
      let argument ← possibly arguments[0]?
      Exec.looking? (·.textAt? argument) (puts.call [argument])
    | putchar => do
      let argument ← possibly arguments[0]?
      step (putchar.call [argument])
    | malloc => do
      let argument ← possibly arguments[0]?
      let size ← Exec.lift? argument.asInt
      if size ≤ 0 then step (Exec.fail (.invalidMallocSize size))
      else Exec.mallocOrNull? size.toInt.toNat
    | free => do
      let argument ← possibly arguments[0]?
      let address ← Exec.lift? argument.asPointer
      if address = 0 then return .void
      else
        Exec.free? address
        return .void
  else step (builtin.call arguments)

end Builtin

/-- Calls what a name stands for. -/
def Callable.call? (invoke : WaryInvoke) (arguments : List Value) (buffer : Option Block) :
    Callable → WaryExec Value
  | function f => invoke f arguments buffer
  | builtin b => b.call? arguments

mutual

/-- The value of an expression. -/
@[simp]
def Expr.eval? (invoke : WaryInvoke) : Expr → WaryExec Value
  | .int n => return .int n
  | .char c => return .char c
  | .string index => step (return .pointer (← Exec.stringAddress index))
  | .null => return .pointer 0
  | .var name => do
    let object ← step (Exec.lookup name)
    Exec.loadPlace? ⟨object.address, object.type⟩
  | .binary (.connective .and) left right => do
    if ← Exec.truth? (← left.eval? invoke) then
      return .ofBool (← Exec.truth? (← right.eval? invoke))
    else return .ofBool false
  | .binary (.connective .or) left right => do
    if ← Exec.truth? (← left.eval? invoke) then return .ofBool true
    else return .ofBool (← Exec.truth? (← right.eval? invoke))
  -- A connective that came here would find no operation.
  | .binary op left right => do
    let a ← left.eval? invoke
    let b ← right.eval? invoke
    Exec.lift? (← possibly (Value.binary? op a b))
  | .unary op operand => do Exec.lift? (Value.unary op (← operand.eval? invoke))
  | .addressOf operand => return .pointer (← operand.place? invoke).address
  | .deref pointer type => do
    Exec.loadPlace? (← Exec.lift? ((← pointer.eval? invoke).target type))
  | .member object field => do
    let place ← possibly ((← object.eval? invoke).member? field)
    Exec.loadPlace? (← Exec.lift? place)
  | .assign target value => do
    let value ← value.eval? invoke
    let place ← target.place? invoke
    Exec.storePlace? place value
    Exec.loadPlace? place
  | .call function arguments => do
    let callee ← step (Exec.resolve function)
    let values ← Expr.evalAll? invoke arguments
    let buffer ← Exec.returnBuffer? callee.result
    callee.call? invoke values buffer

/-- The place that an expression names. -/
def Expr.place? (invoke : WaryInvoke) : Expr → WaryExec Place
  | .var name => do
    let object ← step (Exec.lookup name)
    return ⟨object.address, object.type⟩
  | .deref pointer type => do Exec.lift? ((← pointer.eval? invoke).target type)
  | .member object field => do
    let place ← possibly ((← object.eval? invoke).member? field)
    Exec.lift? place
  | _ => step (Exec.fail .notAssignable)

/-- The values of expressions, from left to right. -/
def Expr.evalAll? (invoke : WaryInvoke) : List Expr → WaryExec (List Value)
  | [] => return []
  | argument :: rest => do
    let value ← argument.eval? invoke
    return value :: (← Expr.evalAll? invoke rest)

end

/-- Whether a condition holds. -/
def Exec.test? (invoke : WaryInvoke) (condition : Expr) : WaryExec Bool := do
  truth? (← condition.eval? invoke)

mutual

/-- Runs a statement. -/
@[simp]
def Stmt.exec? (invoke : WaryInvoke) : Stmt → WaryExec Unit
  | .declare name type init location => Exec.statement? location do
    match init with
    | some value =>
      let value ← value.eval? invoke
      discard (Exec.declare? name type (some value))
    | none => discard (Exec.declare? name type none)
  | .expression value location => Exec.statement? location do
    discard (value.eval? invoke)
  | .block body location => Exec.statement? location do
    Exec.inBlock? (Stmt.execAll? invoke body)
  | .branch condition yes no location => Exec.statement? location do
    if ← Exec.test? invoke condition then yes.exec? invoke
    else match no with
      | some statement => statement.exec? invoke
      | none => return
  | .loop condition body location => Exec.statement? location do
    Exec.loop? (Exec.alone? (Exec.test? invoke condition)) (body.exec? invoke)
  | .ret value location => Exec.statement? location do
    match value with
    | some value =>
      let value ← Exec.handOver? (← value.eval? invoke)
      step (Exec.markReturned value)
    | none => step (Exec.markReturned .void)

/-- Runs statements in order. -/
def Stmt.execAll? (invoke : WaryInvoke) : List Stmt → WaryExec Unit
  | [] => return
  | statement :: rest => do
    statement.exec? invoke
    Stmt.execAll? invoke rest

end

namespace Function

/-- Binds the parameters to argument values, in order. -/
def bindAll? : List (String × CType) → List Value → WaryExec Unit
  | (name, type) :: parameters, value :: values => do
    discard (Exec.declare? name type (some value))
    bindAll? parameters values
  | _, _ => return

/-- Runs a function on argument values where `room` more activations fit. -/
def invoke? : (room : Nat) → WaryInvoke
  | 0, function, arguments, buffer => step (invoke 0 function arguments buffer)
  | room + 1, function, arguments, buffer => do
    step (function.checkCount arguments)
    let frame ← Exec.activation? function.name buffer do
      bindAll? function.parameters arguments
      Stmt.execAll? (invoke? room) function.body
    match frame.result with
    | .void => return .void
    | value => Exec.lift? (value.coerce function.result)

end Function

/-- Runs a whole program. -/
def Exec.runProgram? (entryPoint : String) : WaryExec Int32 := do
  loadStrings?
  let context ← step get
  match context.program.function? entryPoint with
  | none => step (fail (.noEntryPoint entryPoint))
  | some entry =>
    let invoke := Function.invoke? context.stack.room
    Stmt.execAll? invoke context.program.globals
    return (← invoke entry [] none).exitStatus

end StepMachine
