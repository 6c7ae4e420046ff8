import StepMachine.Program
import StepMachine.Stack.Frame
import StepMachine.Terminal

/-! The state of a running program. -/

namespace StepMachine

/-- The moment at which a statement was entered: where it stands, and how much memory was in use. -/
structure Entry where
  location : Location
  used : Nat
  deriving DecidableEq, Inhabited

/-- The doing of a program as a host can look at it. -/
structure Scene where
  heap : Heap
  terminal : Terminal := {}
  /-- The statement that was entered last, or that waits to be let in. -/
  location : Option Location := none
  deriving Inhabited

/-- What a host can see of a program. -/
structure View extends Scene where
  /-- The statements that were let in, latest first, if a short record of them is kept. -/
  entries : List Entry := []
  deriving Inhabited

/-- A program at the moment when it is let into a statement, with everything that it holds. -/
structure Moment where
  scene : Scene
  stack : CallStack
  globals : Scope
  temporaries : Array Variable
  strings : Array Block
  dynamic : List Block
  deriving Inhabited

/-- The record of the statements that were let in, latest first: none, a short one, or one in which
every moment can be looked at again. -/
inductive Journal where
  -- Nothing is kept of a program that runs without being watched.
  | off
  | brief (entries : List Entry)
  | full (moments : List Moment)
  deriving Inhabited

namespace Journal

/-- Enters a statement into the record. -/
def add (journal : Journal) (location : Location) (moment : Moment) : Journal :=
  match journal with
  | off => off
  | brief entries => brief (⟨location, moment.scene.heap.usedBytes⟩ :: entries)
  | full moments => full (moment :: moments)

/-- The entries of a short record. -/
def entries : Journal → List Entry
  | brief entries => entries
  | _ => []

/-- The moments of a record in which they are kept, latest first. -/
def moments : Journal → List Moment
  | full moments => moments
  | _ => []

end Journal

/-- The state of a running program, and how much further it may go. -/
structure Context where
  program : Program
  heap : Heap
  stack : CallStack
  globals : Scope := {}
  /-- The statements under way, innermost first. -/
  active : List Location := []
  /-- Unnamed objects of the statements under way, oldest first. -/
  temporaries : Array Variable := #[]
  /-- The literals of the string table that have been laid out. -/
  strings : Array Block := #[]
  /-- Blocks that the program asked for and has not given back. -/
  dynamic : List Block := []
  /-- How many requests of the program for memory were refused for want of room. -/
  refused : Nat := 0
  terminal : Terminal := {}
  cursor : Option Location := none
  /-- How many more statements are let in. -/
  grants : Nat
  journal : Journal := .off
  deriving Inhabited

namespace Context

/-- A program that has done nothing yet. -/
def start (program : Program) (heap : Heap) (depthLimit grants : Nat) : Context :=
  { program, heap, stack := { room := depthLimit }, grants }

/-- What the program shows of its doing now. -/
def scene (context : Context) : Scene where
  heap := context.heap
  terminal := context.terminal
  location := context.cursor

/-- What a host sees of the program now. -/
def view (context : Context) : View := { context.scene with entries := context.journal.entries }

/-- The present moment. -/
def moment (context : Context) : Moment :=
  { context with scene := context.scene }

/-- Whether the current function has returned. -/
def hasReturned (context : Context) : Bool := context.stack.current?.any (·.hasReturned)

/-- The innermost statement under way. -/
def location (context : Context) : Option Location := context.active.head?

/-- The innermost scope of the current function, or the global one. -/
def currentScope (context : Context) : Scope :=
  match context.stack.current? with
  | some frame => frame.current
  | none => context.globals

/-- Replaces the innermost scope of the current function, or the global one. -/
def setCurrentScope (context : Context) (scope : Scope) : Context :=
  match context.stack.current? with
  | some frame => { context with stack := context.stack.setCurrent (frame.setCurrent scope) }
  | none => { context with globals := scope }

/-- What a name stands for: in the current function first, then globally, never in a caller. -/
def find? (context : Context) (name : String) : Option Variable :=
  -- Callers are not searched: a function sees its own names and the global ones.
  (context.stack.current?.bind (·.find? name)).or (context.globals.find? name)

/-- Every block that the program holds. -/
def owned (context : Context) : List Block :=
  context.globals.blocks ++ context.stack.blocks ++
    context.temporaries.toList.map (·.block) ++ context.strings.toList ++ context.dynamic

/-- Frees everything that the program holds. -/
def tearDown (context : Context) : Context :=
  { context with
    heap := context.heap.releaseAll context.owned
    -- What was freed has no holder any more.
    globals := {}
    stack := { room := context.stack.limit }
    temporaries := #[]
    strings := #[]
    dynamic := [] }

end Context

end StepMachine
