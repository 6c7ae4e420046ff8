import StepMachine.Eval.Builtin

/-! Evaluation of expressions. -/

namespace StepMachine

/-- An object of a type at an address, which can be assigned to. -/
structure Place where
  address : Address
  type : CType
  deriving DecidableEq, Inhabited

/-- What a name in a call stands for. -/
inductive Callable where
  | function (function : Function)
  | builtin (builtin : Builtin)

/-- How a function of the program is run on argument values, with storage of the caller for a
returned structure. -/
abbrev Invoke := Function → List Value → Option Block → Exec Value

namespace Callable

/-- The name of the function. -/
def name : Callable → String
  | function f => f.name
  | builtin b => b.name

/-- The type of what the function yields. -/
def result : Callable → CType
  | function f => f.result
  | builtin b => b.result

/-- Calls the function. -/
def call (invoke : Invoke) (arguments : List Value) (buffer : Option Block) : Callable → Exec Value
  | function f => invoke f arguments buffer
  | builtin b => b.call arguments

end Callable

namespace Value

/-- The object of a type that a pointer leads to. -/
def target (pointer : Value) (type : CType) : Except RuntimeError Place := do
  return ⟨← pointer.asPointer, type⟩

/-- The member of a structure. -/
def member (object : Value) (field : String) : Except RuntimeError Place :=
  match object with
  | struct address definition =>
    match definition.field? field with
    -- Members are packed, so the offset is the size of those in front.
    | some (offset, type) => .ok ⟨address + UInt64.ofNat offset, type⟩
    | none => .error (.missingField definition.name field)
  | other => other.mismatch .struct

end Value

namespace Exec

/-- What a called name stands for; functions of the program hide those of the machine. -/
def resolve (name : String) : Exec Callable := do
  match (← get).program.function? name, Builtin.ofName? name with
  -- A program may define a function of its own under a name of the machine.
  | some f, _ => return .function f
  | none, some b => return .builtin b
  | none, none => fail (.undefinedFunction name)

/-- Reads an object. -/
def loadPlace (place : Place) : Exec Value := do
  (← get).heap.load place.address place.type

/-- Storage for the result of a call, if that is a structure: a temporary of the caller. -/
def returnBuffer (type : CType) : Exec (Option Block) := do
  if type.isStruct then
    -- The storage lives until the calling statement ends.
    let object ← temporary type
    return some (← object.block.slice 0 object.block.size)
  else return none

end Exec

mutual

/-- The value of an expression. -/
def Expr.eval (invoke : Invoke) : Expr → Exec Value
  | .int n => return .int n
  | .char c => return .char c
  | .string index => return .pointer (← Exec.stringAddress index)
  | .null => return .pointer 0
  | .var name => do (← Exec.lookup name).load (← get).heap
  -- The right side is evaluated only where the left one leaves it open.
  | .binary (.connective .and) left right => do
    if ← (← left.eval invoke).isTruthy then return .ofBool (← (← right.eval invoke).isTruthy)
    else return .ofBool false
  | .binary (.connective .or) left right => do
    if ← (← left.eval invoke).isTruthy then return .ofBool true
    else return .ofBool (← (← right.eval invoke).isTruthy)
  | .binary (.arithmetic op) left right => do
    let a ← left.eval invoke
    let b ← right.eval invoke
    Value.arithmetic op a b
  | .binary (.comparison op) left right => do
    let a ← left.eval invoke
    let b ← right.eval invoke
    Value.compare op a b
  | .unary op operand => do Value.unary op (← operand.eval invoke)
  | .addressOf operand => return .pointer (← operand.place invoke).address
  | .deref pointer type => do Exec.loadPlace (← (← pointer.eval invoke).target type)
  | .member object field => do Exec.loadPlace (← (← object.eval invoke).member field)
  -- The value comes first, then the place; what is yielded is read back from there.
  | .assign target value => do
    let value ← value.eval invoke
    let place ← target.place invoke
    Heap.store place.address place.type value
    Exec.loadPlace place
  | .call function arguments => do
    -- An unknown name fails before any argument is evaluated.
    let callee ← Exec.resolve function
    let values ← Expr.evalAll invoke arguments
    let buffer ← Exec.returnBuffer callee.result
    callee.call invoke values buffer

/-- The place that an expression names. -/
def Expr.place (invoke : Invoke) : Expr → Exec Place
  | .var name => do
    let object ← Exec.lookup name
    return ⟨object.address, object.type⟩
  | .deref pointer type => do (← pointer.eval invoke).target type
  | .member object field => do (← object.eval invoke).member field
  -- Anything else has a value but no place.
  | _ => Exec.fail .notAssignable

/-- The values of expressions, from left to right. -/
def Expr.evalAll (invoke : Invoke) : List Expr → Exec (List Value)
  | [] => return []
  | argument :: rest => do
    let value ← argument.eval invoke
    return value :: (← Expr.evalAll invoke rest)

end

end StepMachine
