import StepMachine.Stack.Scope

/-! Activations of functions, and the stack they form. -/

namespace StepMachine

/-- One activation of a function. -/
structure Frame where
  function : String
  /-- The parameters and the names that the body itself declares. -/
  root : Scope := {}
  /-- The open blocks of the body, innermost first. -/
  nested : List Scope := []
  /-- What the function has returned, once it has. -/
  returned : Option Value := none
  /-- Storage of the caller for a returned structure. -/
  buffer : Option Block := none
  deriving Inhabited

namespace Frame

/-- The open scopes, innermost first. -/
def scopes (frame : Frame) : List Scope := frame.nested ++ [frame.root]

/-- The innermost scope. -/
def current (frame : Frame) : Scope := frame.nested.headD frame.root

/-- Replaces the innermost scope. -/
def setCurrent (frame : Frame) (scope : Scope) : Frame :=
  match frame.nested with
  | [] => { frame with root := scope }
  | _ :: outer => { frame with nested := scope :: outer }

/-- Opens a block. -/
def pushScope (frame : Frame) : Frame := { frame with nested := {} :: frame.nested }

/-- Closes the innermost block and returns its scope; the body itself cannot be closed. -/
def popScope (frame : Frame) : Except StackError (Scope × Frame) :=
  match frame.nested with
  | [] => .error .underflow
  | scope :: outer => .ok (scope, { frame with nested := outer })

/-- What a name stands for in this activation, innermost scope first. -/
def find? (frame : Frame) (name : String) : Option Variable :=
  (frame.nested.findSome? (·.find? name)).or (frame.root.find? name)

/-- Whether the function has returned. -/
def hasReturned (frame : Frame) : Bool := frame.returned.isSome

/-- What the function yields to its caller. -/
def result (frame : Frame) : Value := frame.returned.getD .void

/-- Records what the function returns, which it does only once. -/
def markReturned (frame : Frame) (value : Value) : Except StackError Frame :=
  if frame.hasReturned then .error .alreadyReturned
  else .ok { frame with returned := some value }

/-- The storage of everything that the activation binds. -/
def blocks (frame : Frame) : List Block := frame.scopes.flatMap (·.blocks)

end Frame

/-- Activations, current one first, and how many more fit. -/
structure CallStack where
  frames : List Frame := []
  room : Nat
  deriving Inhabited

namespace CallStack

/-- The number of activations. -/
def depth (stack : CallStack) : Nat := stack.frames.length

/-- How many activations there may be at a time. -/
def limit (stack : CallStack) : Nat := stack.depth + stack.room

/-- The current activation. -/
@[inline] def current? (stack : CallStack) : Option Frame :=
  match stack.frames with
  | [] => none
  | frame :: _ => some frame

/-- Enters an activation unless the limit is reached. -/
def push (stack : CallStack) (frame : Frame) : Except StackError CallStack :=
  match stack.room with
  | 0 => .error (.overflow stack.limit)
  | room + 1 => .ok { frames := frame :: stack.frames, room }

/-- Leaves the current activation and returns it. -/
def pop (stack : CallStack) : Except StackError (Frame × CallStack) :=
  match stack.frames with
  | [] => .error .underflow
  | frame :: callers => .ok (frame, { frames := callers, room := stack.room + 1 })

/-- Replaces the current activation, where there is one. -/
def setCurrent (stack : CallStack) (frame : Frame) : CallStack :=
  match stack.frames with
  | [] => stack
  | _ :: callers => { stack with frames := frame :: callers }

/-- The storage of everything that the activations bind. -/
def blocks (stack : CallStack) : List Block := stack.frames.flatMap (·.blocks)

end CallStack

end StepMachine
