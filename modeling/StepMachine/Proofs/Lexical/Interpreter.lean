import StepMachine.Eval.Builtin

/-! Programs on numbers, run without any memory: a name stands for a type and a value. -/

namespace StepMachine

namespace CType

/-- Types whose objects are numbers. -/
def isNumeric : CType → Bool
  | int | char => true
  | _ => false

/-- What a new number of the type is: zero, or the value it is given, converted. -/
def initial (type : CType) : Option Value → Except RuntimeError Value
  | none => .ok (if type = .char then .char 0 else .int 0)
  | some value => value.coerce type

end CType

/-- Whether a called name needs no memory: it is a function of the program, the function that prints
a character, or nothing at all. -/
def Program.callsWithoutMemory (program : Program) (name : String) : Bool :=
  (program.function? name).isSome ||
    match Builtin.ofName? name with
    | none | some .putchar => true
    | some _ => false

mutual

/-- Whether an expression is about numbers only: it takes no address, follows none, and names no
literal. -/
def Expr.isScalar (program : Program) : Expr → Bool
  | .int _ | .char _ | .var _ => true
  | .binary _ left right => left.isScalar program && right.isScalar program
  | .unary _ operand => operand.isScalar program
  | .assign target value => target.isScalar program && value.isScalar program
  | .call function arguments =>
    program.callsWithoutMemory function && Expr.areScalar program arguments
  | .string _ | .null | .addressOf _ | .deref _ _ | .member _ _ => false

/-- Whether expressions are about numbers only. -/
def Expr.areScalar (program : Program) : List Expr → Bool
  | [] => true
  | argument :: rest => argument.isScalar program && Expr.areScalar program rest

end

mutual

/-- Whether a statement is about numbers only, with all that it declares. -/
def Stmt.isScalar (program : Program) : Stmt → Bool
  | .declare _ type init _ => type.isNumeric && init.all (·.isScalar program)
  | .expression value _ => value.isScalar program
  | .block body _ => Stmt.areScalar program body
  | .branch condition yes no _ =>
    condition.isScalar program && yes.isScalar program &&
      match no with
      | some statement => statement.isScalar program
      | none => true
  | .loop condition body _ => condition.isScalar program && body.isScalar program
  | .ret value _ => value.all (·.isScalar program)

/-- Whether statements are about numbers only. -/
def Stmt.areScalar (program : Program) : List Stmt → Bool
  | [] => true
  | statement :: rest => statement.isScalar program && Stmt.areScalar program rest

end

/-- Whether a function takes numbers, yields one or nothing, and is about numbers only. -/
def Function.isScalar (program : Program) (function : Function) : Bool :=
  function.parameters.all (·.2.isNumeric) &&
    (function.result.isNumeric || function.result = .void) &&
    Stmt.areScalar program function.body

/-- Whether a program is about numbers only. -/
def Program.isScalar (program : Program) : Bool :=
  Stmt.areScalar program program.globals && program.functions.all (·.isScalar program)

namespace Lexical

/-- What a name stands for. -/
structure Binding where
  type : CType
  value : Value

/-- What the names of one block of statements stand for. -/
@[ext] structure Scope where
  find? : String → Option Binding := fun _ => none

namespace Scope

/-- Binds a name, in place of what it was bound to before. -/
def bind (scope : Scope) (name : String) (binding : Binding) : Scope where
  find? other := if other = name then some binding else scope.find? other

/-- Gives a bound name another value. -/
def update (scope : Scope) (name : String) (value : Value) : Scope where
  find? other :=
    if other = name then (scope.find? name).map fun binding => { binding with value }
    else scope.find? other

/-- Gives a name another value in the innermost of scopes that binds it. -/
def updateAll (name : String) (value : Value) : List Scope → List Scope
  | [] => []
  | scope :: outer =>
    if (scope.find? name).isSome then scope.update name value :: outer
    else scope :: updateAll name value outer

end Scope

/-- One activation of a function. -/
structure Frame where
  /-- The open scopes, innermost first; the last one is that of the body. -/
  scopes : List Scope := [{}]
  returned : Option Value := none

namespace Frame

/-- What a name stands for in this activation, innermost scope first. -/
def find? (frame : Frame) (name : String) : Option Binding :=
  frame.scopes.findSome? (·.find? name)

/-- Binds a name in the innermost scope. -/
def bind (frame : Frame) (name : String) (binding : Binding) : Frame :=
  match frame.scopes with
  | [] => frame
  | scope :: outer => { frame with scopes := scope.bind name binding :: outer }

/-- Gives a name another value in the innermost scope that binds it. -/
def update (frame : Frame) (name : String) (value : Value) : Frame :=
  { frame with scopes := Scope.updateAll name value frame.scopes }

/-- Opens a block. -/
def openBlock (frame : Frame) : Frame := { frame with scopes := {} :: frame.scopes }

/-- Closes the innermost block. -/
def closeBlock (frame : Frame) : Frame := { frame with scopes := frame.scopes.tail }

end Frame

/-- The state of a program that needs no memory, and how many more statements it may run. -/
structure State where
  program : Program
  globals : Scope := {}
  /-- The activations, current one first. -/
  frames : List Frame := []
  /-- The statements under way, innermost first. -/
  active : List Location := []
  terminal : Terminal := {}
  grants : Nat

namespace State

/-- What a name stands for: in the current function first, then globally, never in a caller. -/
def find? (state : State) (name : String) : Option Binding :=
  (state.frames.head?.bind (·.find? name)).or (state.globals.find? name)

/-- Whether the current function has returned. -/
def hasReturned (state : State) : Bool := state.frames.head?.any (·.returned.isSome)

/-- Binds a name in the innermost scope of the current function, or in the global one. -/
def bind (state : State) (name : String) (binding : Binding) : State :=
  match state.frames with
  | [] => { state with globals := state.globals.bind name binding }
  | frame :: callers => { state with frames := frame.bind name binding :: callers }

/-- Gives a name another value where it is bound: in the current function, or else globally. -/
def update (state : State) (name : String) (value : Value) : State :=
  match state.frames with
  | [] => { state with globals := state.globals.update name value }
  | frame :: callers =>
    if (frame.find? name).isSome then { state with frames := frame.update name value :: callers }
    else { state with globals := state.globals.update name value }

/-- Changes the current activation. -/
def onFrame (state : State) (change : Frame → Frame) : State :=
  match state.frames with
  | [] => state
  | frame :: callers => { state with frames := change frame :: callers }

end State

/-- Why a run stops early. -/
inductive Stop where
  | fault (cause : RuntimeError)
  /-- The program may not go on. -/
  | suspended
  /-- The program asks for something that only memory can give. -/
  | outside

/-- Computations of a program that needs no memory. -/
abbrev Run := EStateM Stop State

/-- How a function of the program is run on argument values. -/
abbrev Invoke := Function → List Value → Run Value

/-- Stops the program for a cause. -/
def fail (cause : RuntimeError) : Run α := throw (.fault cause)

/-- A failure of the values is one of the program. -/
instance : MonadLift (Except RuntimeError) Run where
  monadLift
    | .ok result => pure result
    | .error cause => fail cause

/-- Binds a name to a new number in the innermost scope. -/
def declare (name : String) (type : CType) (init : Option Value) : Run Unit := do
  let value ← type.initial init
  modify (·.bind name ⟨type, value⟩)

/-- What a name stands for. -/
def lookup (name : String) : Run Binding := do
  match (← get).find? name with
  | some binding => return binding
  | none => fail (.undefinedVariable name)

/-- Gives a name another value, converted to its type, and yields what it has then. -/
def assign (name : String) (value : Value) : Run Value := do
  let binding ← lookup name
  let kept ← value.coerce binding.type
  modify (·.update name kept)
  return kept

/-- Prints a text under the statement under way. -/
def print (text : String) : Run Unit :=
  modify fun state => { state with terminal := state.terminal.print text state.active.head? }

/-- Prints a character. -/
def putchar : List Value → Run Value
  | [argument] => do
    let byte := lowByte (← argument.asInt)
    print (Char.ofNat byte).toString
    return .int (Int32.ofNat byte)
  | arguments => fail (.argumentCount "putchar" 1 arguments.length)

/-- How a called name is run; functions of the program hide those of the machine. -/
def resolve (invoke : Invoke) (name : String) : Run (List Value → Run Value) := do
  match (← get).program.function? name, Builtin.ofName? name with
  | some function, _ => return invoke function
  | none, some .putchar => return putchar
  | none, some _ => throw .outside
  | none, none => fail (.undefinedFunction name)

mutual

/-- The value of an expression. -/
def eval (invoke : Invoke) : Expr → Run Value
  | .int n => return .int n
  | .char c => return .char c
  | .var name => return (← lookup name).value
  | .binary (.connective .and) left right => do
    if ← (← eval invoke left).isTruthy then return .ofBool (← (← eval invoke right).isTruthy)
    else return .ofBool false
  | .binary (.connective .or) left right => do
    if ← (← eval invoke left).isTruthy then return .ofBool true
    else return .ofBool (← (← eval invoke right).isTruthy)
  | .binary (.arithmetic op) left right => do
    let a ← eval invoke left
    let b ← eval invoke right
    Value.arithmetic op a b
  | .binary (.comparison op) left right => do
    let a ← eval invoke left
    let b ← eval invoke right
    Value.compare op a b
  | .unary op operand => do Value.unary op (← eval invoke operand)
  | .assign target value => do
    let value ← eval invoke value
    -- Without memory, only a name can be assigned to.
    match target with
    | .var name => assign name value
    | _ => fail .notAssignable
  | .call function arguments => do
    let callee ← resolve invoke function
    callee (← evalAll invoke arguments)
  | .string _ | .null | .addressOf _ | .deref _ _ | .member _ _ => throw .outside

/-- The values of expressions, from left to right. -/
def evalAll (invoke : Invoke) : List Expr → Run (List Value)
  | [] => return []
  | argument :: rest => do
    let value ← eval invoke argument
    return value :: (← evalAll invoke rest)

end

/-- Whether a condition holds. -/
def test (invoke : Invoke) (condition : Expr) : Run Bool := do
  (← eval invoke condition).isTruthy

/-- Lets a statement begin, or suspends the program before it. -/
def enter : Run Unit := fun state =>
  match state.grants with
  | 0 => .error .suspended state
  | grants + 1 => .ok () { state with grants }

/-- Runs the effect of a statement. After the current function has returned nothing happens. -/
def statement (location : Location) (effect : Run Unit) : Run Unit := do
  if (← get).hasReturned then return
  modify fun state => { state with active := location :: state.active }
  enter
  effect
  modify fun state => { state with active := state.active.tail }

/-- The current activation, where there must be one. -/
def currentFrame : Run Frame := do
  match (← get).frames with
  | frame :: _ => return frame
  | [] => fail (.stack .noActiveFrame)

/-- Runs a body in a block of the current function. -/
def inBlock (body : Run Unit) : Run Unit := do
  let _ ← currentFrame
  modify (·.onFrame Frame.openBlock)
  body
  modify (·.onFrame Frame.closeBlock)

/-- Records what the current function returns, which it does only once. -/
def markReturned (value : Value) : Run Unit := do
  if (← currentFrame).returned.isSome then fail (.stack .alreadyReturned)
  else modify (·.onFrame fun frame => { frame with returned := some value })

/-- Repeats a body while a test holds and the current function has not returned, for `turns` rounds
at most. -/
def repeatWhile (test : Run Bool) (body : Run Unit) : (turns : Nat) → Run Unit
  | 0 => throw .suspended
  | turns + 1 => do
    if (← get).hasReturned then return
    if ← test then
      body
      repeatWhile test body turns

/-- Repeats a body that is a statement. -/
def loop (test : Run Bool) (body : Run Unit) : Run Unit := do
  -- Each round runs a statement, so that one turn more than may still be run is enough.
  repeatWhile test body ((← get).grants + 1)

mutual

/-- Runs a statement. -/
def exec (invoke : Invoke) : Stmt → Run Unit
  | .declare name type init location => statement location do
    match init with
    | some value => declare name type (some (← eval invoke value))
    | none => declare name type none
  | .expression value location => statement location do
    discard (eval invoke value)
  | .block body location => statement location do
    inBlock (execAll invoke body)
  | .branch condition yes no location => statement location do
    if ← test invoke condition then exec invoke yes
    else match no with
      | some other => exec invoke other
      | none => return
  | .loop condition body location => statement location do
    loop (test invoke condition) (exec invoke body)
  | .ret value location => statement location do
    match value with
    | some value => markReturned (← eval invoke value)
    | none => markReturned .void

/-- Runs statements in order. -/
def execAll (invoke : Invoke) : List Stmt → Run Unit
  | [] => return
  | first :: rest => do
    exec invoke first
    execAll invoke rest

end

/-- Binds the parameters to argument values, in order. -/
def bindAll : List (String × CType) → List Value → Run Unit
  | (name, type) :: parameters, value :: values => do
    declare name type (some value)
    bindAll parameters values
  | _, _ => return

/-- Fails unless there are as many arguments as parameters. -/
def checkCount (function : Function) (arguments : List Value) : Run Unit := do
  if arguments.length = function.parameters.length then return
  else fail (.argumentCount function.name function.parameters.length arguments.length)

/-- Runs a body in an activation of its own, and yields what was returned in it. -/
def activation (body : Run Unit) : Run Value := do
  modify fun state => { state with frames := {} :: state.frames }
  body
  let frame ← currentFrame
  modify fun state => { state with frames := state.frames.tail }
  return frame.returned.getD .void

/-- Runs a function on argument values where `room` more activations fit. -/
def invoke : (room : Nat) → Invoke
  | 0, function, arguments => do
    checkCount function arguments
    fail (.stack (.overflow (← get).frames.length))
  | room + 1, function, arguments => do
    checkCount function arguments
    let value ← activation do
      -- The parameters are names of the body, and share its scope.
      bindAll function.parameters arguments
      execAll (invoke room) function.body
    match value with
    | .void => return .void
    | value => value.coerce function.result

/-- Runs a whole program: the global statements in order, and then the entry point, whose result is
the exit status. -/
def runProgram (entryPoint : String) (depthLimit : Nat) : Run Int32 := do
  let program := (← get).program
  match program.function? entryPoint with
  | none => fail (.noEntryPoint entryPoint)
  | some entry =>
    execAll (invoke depthLimit) program.globals
    return (← invoke depthLimit entry []).exitStatus

end Lexical

end StepMachine
