import StepMachine.Expression
import StepMachine.Location

/-! Statements of the source language, each with the location it is reported under. -/

namespace StepMachine

/-- A statement is the smallest piece of a program that a host can run by itself. -/
inductive Stmt where
  | declare (name : String) (type : CType) (init : Option Expr) (location : Location)
  | expression (value : Expr) (location : Location)
  | block (body : List Stmt) (location : Location)
  | branch (condition : Expr) (yes : Stmt) (no : Option Stmt) (location : Location)
  | loop (condition : Expr) (body : Stmt) (location : Location)
  | ret (value : Option Expr) (location : Location)

namespace Stmt

/-- Where the statement stands. -/
def location : Stmt → Location
  | declare _ _ _ location
  | expression _ location
  | block _ location
  | branch _ _ _ location
  | loop _ _ location
  | ret _ location => location

end Stmt

end StepMachine
