import StepMachine.Statement

/-! Whole programs: string literals, global statements and functions. -/

namespace StepMachine

/-- A function written in the source language. -/
structure Function where
  name : String
  result : CType
  parameters : List (String × CType)
  body : List Stmt
  location : Location := {}

/-- A program as the machine takes it. -/
structure Program where
  /-- The literals, each once, in the order of their first use. -/
  strings : Array String := #[]
  /-- The statements that run before the entry point, in order. -/
  globals : List Stmt := []
  /-- The functions, latest definition first. -/
  functions : List Function := []
  deriving Inhabited

namespace Program

/-- Enters a literal into the table and returns its position; equal literals share one. -/
def intern (program : Program) (literal : String) : Nat × Program :=
  match program.strings.findIdx? (· = literal) with
  | some index => (index, program)
  | none => (program.strings.size, { program with strings := program.strings.push literal })

/-- Appends a global statement. -/
def addGlobal (program : Program) (statement : Stmt) : Program :=
  { program with globals := program.globals ++ [statement] }

/-- Defines a function; it hides an earlier one of the same name. -/
def addFunction (program : Program) (function : Function) : Program :=
  { program with functions := function :: program.functions }

/-- The function that a name stands for. -/
def function? (program : Program) (name : String) : Option Function :=
  program.functions.find? (·.name = name)

end Program

end StepMachine
