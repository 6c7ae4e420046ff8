/-! Workers that do one step for each grant, seen only while they are at rest. -/

namespace StepMachine

/-- What a crashing worker leaves behind. -/
inductive Crash where
  | text (words : String)
  | other
  deriving DecidableEq

namespace Crash

/-- The wording of a crash. -/
def message : Crash → String
  | text words => words
  | other => "unknown panic"

end Crash

/-- How a worker ended: with a result, with an error, on request, or by a crash. -/
inductive Outcome (α ε : Type) where
  | finished (result : α)
  | failed (error : ε)
  | cancelled
  | crashed (crash : Crash)
  deriving DecidableEq

/-- A worker that has done all it can do without a further grant; `ν` is what can be seen of it. -/
inductive Rest (ν α ε : Type) where
  /-- It waits for a grant; `abandoned` is what remains of it if it is cancelled instead. -/
  | parked (view abandoned : ν)
  /-- It has ended, after it took a number of steps. -/
  | ended (view : ν) (outcome : Outcome α ε) (steps : Nat)

namespace Rest

/-- What can be seen of a worker at rest. -/
def view : Rest ν α ε → ν
  | parked view _ => view
  | ended view _ _ => view

/-- Whether the worker has ended. -/
def isEnded : Rest ν α ε → Bool
  | parked _ _ => false
  | ended _ _ _ => true

/-- How the worker ended, if it has. -/
def outcome? : Rest ν α ε → Option (Outcome α ε)
  | parked _ _ => none
  | ended _ outcome _ => some outcome

end Rest

/-- A computation whose pace a host controls. -/
structure Worker (ν α ε : Type) where
  /-- What can be seen before it starts. -/
  idle : ν
  /-- Where it comes to rest when it is granted a number of steps. -/
  paced : (grants : Nat) → Rest ν α ε
  /-- Where it comes to rest when nothing holds it back, as far as a host can tell that waits for
  so many steps. -/
  free : (patience : Nat) → Rest ν α ε

end StepMachine
