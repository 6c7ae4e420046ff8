/-! Limits and settings that a host chooses for a machine. -/

namespace StepMachine

/-- The settings of a machine. -/
structure Config where
  /-- Bytes of memory. -/
  heapSize : Nat := 1048576
  /-- Bytes in a unit of allocation. -/
  unitSize : Nat := 8
  /-- How many activations of functions may be open at once. -/
  maxCallDepth : Nat := 4096
  /-- The function that runs after the global statements. -/
  entryPoint : String := "main"
  /-- Bytes that the host sets aside for the worker's own stack. -/
  workerStack : Nat := 67108864
  deriving DecidableEq, Inhabited

/-- Why settings are refused. -/
inductive ConfigError where
  | zeroUnit
  | zeroHeap
  | unevenHeap (size unit : Nat)
  | zeroCallDepth
  | emptyEntryPoint
  deriving DecidableEq

namespace ConfigError

/-- The wording of a refusal. -/
def message : ConfigError → String
  | zeroUnit => "unit size must be non-zero"
  | zeroHeap => "heap size must be non-zero"
  | unevenHeap size unit => s!"heap size {size} is not a multiple of unit size {unit}"
  | zeroCallDepth => "call depth limit must be non-zero"
  | emptyEntryPoint => "entry point name is empty"

end ConfigError

namespace Config

/-- Refuses settings that no machine can honour, for the first reason that applies. -/
def validate (config : Config) : Except ConfigError Unit :=
  if config.unitSize = 0 then .error .zeroUnit
  else if config.heapSize = 0 then .error .zeroHeap
  else if config.heapSize % config.unitSize ≠ 0 then
    .error (.unevenHeap config.heapSize config.unitSize)
  else if config.maxCallDepth = 0 then .error .zeroCallDepth
  else if config.entryPoint = "" then .error .emptyEntryPoint
  else .ok ()

end Config

end StepMachine
