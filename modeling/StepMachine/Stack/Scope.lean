import StepMachine.Stack.Variable

/-! The names that one block of statements binds. -/

namespace StepMachine

/-- The bindings of a block; each name stands at most once. -/
structure Scope where
  bindings : List (String × Variable) := []
  deriving Inhabited

namespace Scope

/-- What a name is bound to. -/
def find? (scope : Scope) (name : String) : Option Variable := scope.bindings.lookup name

/-- Binds a name, in place of what it was bound to before. -/
def bind (scope : Scope) (name : String) (object : Variable) : Scope :=
  ⟨(name, object) :: scope.bindings.filter (·.1 ≠ name)⟩

/-- The bound names. -/
def names (scope : Scope) : List String := scope.bindings.map (·.1)

/-- The names in the order of their code points. -/
def sortedNames (scope : Scope) : List String := scope.names.mergeSort (· ≤ ·)

/-- The storage of everything bound. -/
def blocks (scope : Scope) : List Block := scope.bindings.map (·.2.block)

end Scope

end StepMachine
