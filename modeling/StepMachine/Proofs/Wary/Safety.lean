import StepMachine.Proofs.Context.Shape
import StepMachine.Proofs.Exec.Growth
import StepMachine.Proofs.Wary.Interpreter

/-! States from which every operation of a program is possible, and the single steps that lead from
such states to such states. -/

namespace StepMachine

open Wary (Agrees Ends)

section Sizes

mutual

/-- The types that an expression follows pointers to. -/
def Expr.types : Expr → List CType
  | .int _ | .char _ | .string _ | .null | .var _ => []
  | .binary _ left right => left.types ++ right.types
  | .unary _ operand | .addressOf operand | .member operand _ => operand.types
  | .deref pointer type => type :: pointer.types
  | .assign target value => target.types ++ value.types
  | .call _ arguments => Expr.allTypes arguments

/-- The types that expressions follow pointers to. -/
def Expr.allTypes : List Expr → List CType
  | [] => []
  | argument :: rest => argument.types ++ Expr.allTypes rest

end

mutual

/-- The types that a statement declares objects of or follows pointers to. -/
def Stmt.types : Stmt → List CType
  | .declare _ type init _ => type :: (init.map (·.types)).getD []
  | .expression value _ => value.types
  | .block body _ => Stmt.allTypes body
  | .branch condition yes no _ => condition.types ++ yes.types ++
      match no with
      | some statement => statement.types
      | none => []
  | .loop condition body _ => condition.types ++ body.types
  | .ret value _ => (value.map (·.types)).getD []

/-- The types that statements declare objects of or follow pointers to. -/
def Stmt.allTypes : List Stmt → List CType
  | [] => []
  | statement :: rest => statement.types ++ Stmt.allTypes rest

end

/-- The types that a function yields, takes and works with. -/
def Function.types (function : Function) : List CType :=
  function.result :: function.parameters.map (·.2) ++ Stmt.allTypes function.body

/-- The types of a program. -/
def Program.types (program : Program) : List CType :=
  Stmt.allTypes program.globals ++ program.functions.flatMap (·.types)

/-- Sizes are machine words. -/
def Fit (types : List CType) : Prop := ∀ type ∈ types, type.size < UInt64.size

/-- A program of which each type, and each literal with the zero byte behind it, has a size of 64
bits. -/
structure Program.Fits (program : Program) : Prop where
  types : Fit program.types
  literals : ∀ literal ∈ program.strings.toList, (utf8Bytes literal).length + 1 < UInt64.size

/-- The types in front fit, and so do those behind. -/
theorem Fit.append {one other : List CType} (fit : Fit (one ++ other)) : Fit one ∧ Fit other :=
  List.forall_mem_append.mp fit

/-- The first type fits, and so do the others. -/
theorem Fit.cons {type : CType} {rest : List CType} (fit : Fit (type :: rest)) :
    type.size < UInt64.size ∧ Fit rest :=
  List.forall_mem_cons.mp fit

end Sizes

/-- A block that lies in an arena of so many bytes. -/
def Block.Lies (size : Nat) (block : Block) : Prop :=
  block.address.toNat + block.size ≤ heapBase + size

/-- An activation whose result, and the storage for it, lies in an arena of so many bytes. -/
structure Frame.Lies (size : Nat) (frame : Frame) : Prop where
  returned : ∀ value ∈ frame.returned, value.Lies size
  buffer : ∀ block ∈ frame.buffer, block.Lies size

namespace Frame.Lies

variable {size : Nat} {frame : Frame}

/-- The scopes of an activation have nothing to do with what it yields. -/
theorem of_eq (lies : frame.Lies size) {changed : Frame}
    (returned : changed.returned = frame.returned) (buffer : changed.buffer = frame.buffer) :
    changed.Lies size :=
  ⟨returned ▸ lies.returned, buffer ▸ lies.buffer⟩

/-- Replacing the innermost scope does not touch what an activation yields. -/
theorem setCurrent (lies : frame.Lies size) (scope : Scope) :
    (frame.setCurrent scope).Lies size := by
  -- The innermost scope is a nested one or the body's own.
  unfold Frame.setCurrent
  cases frame.nested <;> exact lies.of_eq rfl rfl

/-- What an activation yields lies in the arena. -/
theorem result (lies : frame.Lies size) : frame.result.Lies size := by
  -- Without a return the result is void, which lies nowhere.
  unfold Frame.result
  cases given : frame.returned with
  | none => trivial
  | some value => exact lies.returned value given

end Frame.Lies

/-- What a program runs on: its sizes fit, and its arena ends before the last address. -/
structure Setting where
  program : Program
  /-- The number of bytes in the arena. -/
  size : Nat
  fits : program.Fits
  room : heapBase + size < UInt64.size

namespace Setting

/-- A state from which every operation of a program is possible. -/
structure Safe (setting : Setting) (context : Context) : Prop where
  sound : context.Sound
  program : context.program = setting.program
  size : context.heap.size = setting.size
  frames : ∀ frame ∈ context.stack.frames, frame.Lies setting.size

/-- From every safe state a wary computation does not crash and ends like the one that does not
look, in a safe state and with a good result. -/
abbrev Tracks (setting : Setting) (good : α → Prop) (wary : WaryExec α) (run : Exec α) : Prop :=
  Wary.Tracks setting.Safe good wary run

/-- Every function of the program fits. -/
theorem fit_function (setting : Setting) {function : Function}
    (member : function ∈ setting.program.functions) : Fit function.types :=
  fun _ inner => setting.fits.types _
    (List.mem_append_right _ (List.mem_flatMap.mpr ⟨function, member, inner⟩))

variable {setting : Setting} {context : Context}

namespace Safe

/-- The books of the heap are right. -/
theorem tidy (safe : setting.Safe context) : context.heap.Tidy := safe.sound.owns.holds.tidy

/-- What the program holds has its units in the arena. -/
theorem inside (safe : setting.Safe context) {block : Block} (held : block ∈ context.owned) :
    context.heap.Inside block :=
  (safe.sound.owns.holds.seated block held).inside

/-- What the program holds lies in the arena. -/
theorem lies (safe : setting.Safe context) {block : Block} (held : block ∈ context.owned) :
    block.Lies setting.size := by
  -- A block that is held ends within the arena, whose size is that of the setting.
  have within := (safe.sound.owns.holds.seated block held).within
  rwa [safe.size] at within

end Safe

/-- So does what is held after a change that keeps the arena. -/
theorem Safe.lies_of_holds (safe : setting.Safe context) {heap : Heap}
    (same : context.heap.SameArena heap) {blocks : List Block} (holds : heap.Holds blocks)
    {block : Block} (held : block ∈ blocks) : block.Lies setting.size := by
  -- The arena is still as long as the setting says.
  have within := (holds.seated block held).within
  have size : context.heap.units * context.heap.unit = setting.size := safe.size
  rwa [Heap.size, same.unit, same.units, size] at within

/-- What lies in the arena has addresses. -/
theorem addressed (setting : Setting) {block : Block} (lies : block.Lies setting.size) :
    block.Addressed :=
  Nat.lt_of_le_of_lt lies setting.room

/-- A change of the current activation leaves what its callers yield. -/
theorem Safe.frames_onTop (safe : setting.Safe context) {frame changed : Frame}
    {callers : List Frame} (frames : context.stack.frames = frame :: callers)
    (change : frame.Lies setting.size → changed.Lies setting.size) :
    ∀ other ∈ changed :: callers, other.Lies setting.size := by
  -- What is said of all activations is said of the current one and of its callers.
  have all := safe.frames
  rw [frames] at all
  obtain ⟨current, others⟩ := List.forall_mem_cons.mp all
  exact List.forall_mem_cons.mpr ⟨change current, others⟩

/-- Replacing the innermost scope leaves what the activations yield. -/
theorem Safe.frames_setCurrentScope (safe : setting.Safe context) (scope : Scope) :
    ∀ frame ∈ (context.setCurrentScope scope).stack.frames, frame.Lies setting.size := by
  -- Outside functions the scope is the global one, and no activation changes.
  unfold Context.setCurrentScope CallStack.current?
  cases frames : context.stack.frames with
  | nil => exact safe.frames
  | cons frame callers =>
    simp only [CallStack.setCurrent, frames]
    exact safe.frames_onTop frames fun lies => lies.setCurrent scope

/-- Whatever is made of single steps leads from a safe state to a safe one, if what the activations
yield lies in the arena. -/
theorem Safe.after (safe : setting.Safe context) {run : Exec α}
    (single : ∀ {effect : Effect}, SingleSteps effect → Exec.Obeys effect run)
    (frames : ∀ frame ∈ (run.after context).stack.frames, frame.Lies setting.size) :
    setting.Safe (run.after context) := by
  -- The program and the arena are kept by every single step.
  have same : context.SameShape (run.after context) :=
    (Effect.allows_iff rfl).mp (single Exec.steps_shape context)
  have bounded := safe.tidy.bounded
  exact {
    sound := ⟨(single Exec.steps_own).keeps safe.sound.owns,
      (single Exec.steps_size).keeps safe.sound.sized⟩
    program := same.program.trans safe.program
    size := (same.size_eq bounded).trans safe.size
    frames := frames }

/-- An outcome leaves a safe state and a good result, if the state is safe and the result is
good. -/
theorem ends_of_after {good : α → Prop} {run : Exec α} (safe : setting.Safe (run.after context))
    (fine : ∀ result last, run context = .ok result last → good result) :
    Ends setting.Safe good (run context) := by
  -- What is said of the state that is left is said of either outcome.
  unfold Exec.after at safe
  cases ran : run context with
  | ok result last =>
    rw [ran] at safe
    exact ⟨safe, fine result last ran⟩
  | error reason last =>
    rw [ran] at safe
    exact safe

/-- A computation that is made of single steps, and leaves only results of activations, and storage
for them, that lie in the arena. -/
theorem Tracks.of_single {good : α → Prop} {wary : WaryExec α} {run : Exec α}
    (single : ∀ {effect : Effect}, SingleSteps effect → Exec.Obeys effect run)
    (frames : ∀ context, setting.Safe context →
      ∀ frame ∈ (run.after context).stack.frames, frame.Lies setting.size)
    (agrees : ∀ context, setting.Safe context → Agrees wary run context)
    (fine : ∀ context result last, setting.Safe context → run context = .ok result last →
      good result) : setting.Tracks good wary run :=
  -- By the steps it is made of it leaves a safe state, and it agrees and is good by assumption.
  fun context safe => ⟨agrees context safe,
    ends_of_after (safe.after single (frames context safe)) (fine context · · safe)⟩

/-- A computation that is made of single steps and leaves the stack alone. -/
theorem Tracks.of_steps {good : α → Prop} {wary : WaryExec α} {run : Exec α}
    (single : ∀ {effect : Effect}, SingleSteps effect → Exec.Obeys effect run)
    (still : Exec.Obeys Effect.evaluation run)
    (agrees : ∀ context, setting.Safe context → Agrees wary run context)
    (fine : ∀ context result last, setting.Safe context → run context = .ok result last →
      good result) : setting.Tracks good wary run := by
  refine .of_single single (fun context safe => ?_) agrees fine
  -- The stack is as it was, and so is what its activations yield.
  rw [(Exec.evaluation_outcome still context).1.stack]
  exact safe.frames

end Setting

end StepMachine
