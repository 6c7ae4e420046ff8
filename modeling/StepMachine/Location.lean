/-! Places in the source text of a program. -/

namespace StepMachine

/-- A line and a column; statements that were given no line stand at the zero location. -/
structure Location where
  line : Nat := 0
  column : Nat := 0
  deriving DecidableEq, Inhabited

namespace Location

/-- The first column of a line, which is where a statement with a known line stands. -/
def startOfLine (line : Nat) : Location := { line, column := 1 }

/-- A location is written as its line and column with a colon between. -/
def text (location : Location) : String := s!"{location.line}:{location.column}"

end Location

end StepMachine
