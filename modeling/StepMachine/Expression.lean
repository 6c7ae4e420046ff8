import StepMachine.CType

/-! Expressions of the source language. -/

namespace StepMachine

/-- Operators that compute an integer. -/
inductive ArithmeticOp where
  | add
  | sub
  | mul
  | div
  | mod
  deriving DecidableEq

/-- Operators that compare. -/
inductive Comparison where
  | eq
  | ne
  | lt
  | le
  | gt
  | ge
  deriving DecidableEq

/-- Operators that look at their right operand only if the left one leaves the answer open. -/
inductive Connective where
  | and
  | or
  deriving DecidableEq

/-- Operators that take two operands. -/
inductive BinaryOp where
  | arithmetic (op : ArithmeticOp)
  | comparison (op : Comparison)
  | connective (op : Connective)
  deriving DecidableEq

/-- Operators that take one operand. -/
inductive UnaryOp where
  | neg
  | not
  deriving DecidableEq

/-- An expression yields a value; variables, dereferences and members also name a place. -/
inductive Expr where
  | int (value : Int32)
  | char (value : Int8)
  /-- A literal of the program's string table, by its position there. -/
  | string (index : Nat)
  | null
  | var (name : String)
  | binary (op : BinaryOp) (left right : Expr)
  | unary (op : UnaryOp) (operand : Expr)
  | addressOf (operand : Expr)
  /-- The object of type `type` that a pointer leads to. -/
  | deref (pointer : Expr) (type : CType)
  | member (object : Expr) (field : String)
  | assign (target value : Expr)
  | call (function : String) (arguments : List Expr)
  deriving Inhabited

end StepMachine
