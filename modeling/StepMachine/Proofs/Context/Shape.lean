import StepMachine.Proofs.Context.Housing
import StepMachine.Proofs.Context.Ownership

/-! Whatever a program does, it stays the same program, and its arena stays as large as it is. -/

namespace StepMachine

namespace Context

/-- The same program on an arena of the same shape. -/
structure SameShape (before after : Context) : Prop where
  program : after.program = before.program
  arena : before.heap.Bounded → before.heap.SameArena after.heap

namespace SameShape

/-- Nothing has changed. -/
theorem refl (context : Context) : context.SameShape context := ⟨rfl, fun _ => .refl _⟩

/-- What keeps its shape twice has kept it. -/
theorem trans {first second third : Context} (one : first.SameShape second)
    (two : second.SameShape third) : first.SameShape third where
  program := two.program.trans one.program
  arena bounded :=
    have middle := one.arena bounded
    middle.trans (two.arena (middle.bounded bounded))

/-- Freeing blocks is all that happens to the heap. -/
theorem of_releaseAll {before after : Context} {blocks : List Block}
    (program : after.program = before.program)
    (heap : after.heap = before.heap.releaseAll blocks) : before.SameShape after where
  program := program
  arena _ := by
    -- Freeing changes which units are live, and not how many there are.
    rw [heap]
    exact before.heap.releaseAll_sameArena blocks

/-- The arena has as many bytes as before. -/
theorem size_eq {before after : Context} (same : before.SameShape after)
    (bounded : before.heap.Bounded) : after.heap.size = before.heap.size := by
  have arena := same.arena bounded
  -- The size is computed from the units and their length.
  unfold Heap.size
  rw [arena.unit, arena.units]

end SameShape

/-- Replacing the innermost scope keeps the program. -/
@[simp] theorem setCurrentScope_program (context : Context) (scope : Scope) :
    (context.setCurrentScope scope).program = context.program := by
  -- The innermost scope is that of an activation or the global one.
  unfold setCurrentScope
  cases context.stack.current? <;> rfl

/-- Replacing the innermost scope leaves the heap alone. -/
@[simp] theorem setCurrentScope_heap (context : Context) (scope : Scope) :
    (context.setCurrentScope scope).heap = context.heap := by
  -- The innermost scope is that of an activation or the global one.
  unfold setCurrentScope
  cases context.stack.current? <;> rfl

end Context

/-- What keeps the program and the shape of its arena, however it ends. -/
def Effect.shaping : Effect := .steady Context.SameShape .refl .trans

namespace Exec

open Effect (shaping rewriting)

/-- What only writes bytes keeps the arena. -/
theorem shapes_of_rewriting {run : Exec α} (obeys : Obeys rewriting run) : Obeys shaping run := by
  refine fun context => (Effect.allows_iff rfl).mpr ?_
  obtain ⟨heap, rewritten, same⟩ := (Effect.allows_iff rfl).mp (obeys context)
  -- The same arena is written to, so it has the same shape.
  rw [same]
  exact ⟨rfl, fun _ => .of_rewritten rewritten⟩

/-- A temporary object is put into the arena. -/
theorem temporary_shapes (type : CType) : Obeys shaping (temporary type) := by
  intro context
  have inside := fun bounded : context.heap.Bounded => Variable.allocate_inside bounded type
  -- The object is made in the arena, or the heap is as it was.
  rw [temporary_run]
  cases allocated : Variable.allocate type context.heap with
  | error cause heap =>
    rw [allocated] at inside
    exact ⟨rfl, inside⟩
  | ok object heap =>
    rw [allocated] at inside
    exact ⟨rfl, fun bounded => (inside bounded).1⟩

/-- So is storage for a returned structure. -/
theorem returnBuffer_shapes (type : CType) : Obeys shaping (returnBuffer type) := by
  unfold returnBuffer
  -- A structure is given a temporary object; any other result needs none.
  split
  · refine Obeys.bind (temporary_shapes type) fun object => Obeys.bind ?_ fun block => Obeys.pure _
    cases object.block.slice 0 object.block.size with
    | ok block => exact Obeys.pure block
    | error cause => exact Obeys.throw _
  · exact Obeys.pure none

/-- A request for memory is answered from the arena. -/
theorem mallocOrNull_shapes (size : Nat) : Obeys shaping (Builtin.mallocOrNull size) := by
  intro context
  -- The heap grants the request, or it refuses.
  rw [mallocOrNull_run]
  cases allocated : Heap.allocate size context.heap with
  | ok block heap => exact ⟨rfl, fun bounded => (Heap.allocate_inside bounded allocated).1⟩
  | error cause heap =>
    -- A request that is refused is at most counted.
    rw [Heap.allocate_error allocated]
    cases cause <;> exact ⟨rfl, fun _ => .refl _⟩

/-- What is given back goes to the arena. -/
theorem free_shapes (address : Address) : Obeys shaping (free address) := by
  intro context
  rw [free_run]
  -- The block is found and freed, or the address is refused.
  cases context.dynamic.find? (·.address = address) with
  | none => exact .refl context
  | some block => exact .of_releaseAll rfl rfl

/-- A structure that is handed over is written to storage that is there already. -/
theorem handOver_shapes (value : Value) : Obeys shaping (handOver value) := by
  refine Obeys.bind Obeys.get fun context => ?_
  -- Copying writes bytes to storage that is there.
  split
  · refine Obeys.bind (shapes_of_rewriting (edit_rewrites fun heap => ?_)) fun _ => Obeys.pure _
    rw [Edit.after_liftMemory]
    exact Block.fillFrom_rewrites ..
  · exact Obeys.pure _

/-- A literal is laid out in the arena. -/
theorem loadString_shapes (literal : String) : Obeys shaping (loadString literal) := by
  intro context
  rw [loadString_run]
  -- The block is had or refused, and then written or given back.
  cases allocated : Heap.allocate ((utf8Bytes literal).length + 1) context.heap with
  | error cause heap =>
    rw [Heap.allocate_error allocated]
    exact .refl context
  | ok block heap =>
    have taken := fun bounded : context.heap.Bounded =>
      (Heap.allocate_inside bounded allocated).1
    have written := Heap.SameArena.of_rewritten
      (writeText_rewrites block (utf8Bytes literal) heap)
    unfold Edit.after at written
    simp only
    cases wrote : block.writeText (utf8Bytes literal) heap with
    | ok _ last =>
      rw [wrote] at written
      exact ⟨rfl, fun bounded => (taken bounded).trans written⟩
    | error cause last =>
      -- A literal that could not be written gives its block back.
      rw [wrote] at written
      exact ⟨rfl, fun bounded =>
        ((taken bounded).trans written).trans (last.releaseAll_sameArena [block])⟩

/-- A declared object is put into the arena, whichever scope its name is bound in. -/
theorem declare_shapes (name : String) (type : CType) (init : Option Value) :
    Obeys shaping (declare name type init) := by
  intro context
  have inside := fun bounded : context.heap.Bounded => Variable.create_inside bounded type init
  -- The object is made in the arena, and what the name stood for is freed.
  rw [declare_run]
  cases made : Variable.create type init context.heap with
  | error cause heap =>
    rw [made] at inside
    exact ⟨rfl, inside⟩
  | ok object heap =>
    rw [made] at inside
    exact ⟨context.setCurrentScope_program _,
      fun bounded => (inside bounded).1.trans (heap.releaseAll_sameArena _)⟩

/-- Recording a result touches the stack only. -/
theorem markReturned_shapes (value : Value) : Obeys shaping (markReturned value) := by
  intro context
  rw [markReturned_run]
  -- Only an activation without a result takes one.
  cases context.stack.frames with
  | nil => exact .refl context
  | cons frame callers =>
    simp only
    split
    · exact .refl context
    · exact ⟨rfl, fun _ => .refl _⟩

/-- Opening a block touches the stack only. -/
theorem pushScope_shapes : Obeys shaping pushScope := by
  intro context
  rw [pushScope_run]
  -- Without an activation nothing is opened.
  cases context.stack.frames with
  | nil => exact .refl context
  | cons frame callers => exact ⟨rfl, fun _ => .refl _⟩

/-- Closing a block frees what it bound. -/
theorem popScope_shapes : Obeys shaping popScope := by
  intro context
  rw [popScope_run]
  -- Without an activation or a scope to close, nothing happens.
  cases context.stack.frames with
  | nil => exact .refl context
  | cons frame callers =>
    simp only
    cases frame.nested with
    | nil => exact .refl context
    | cons scope outer => exact .of_releaseAll rfl rfl

/-- Entering an activation touches the stack only. -/
theorem pushFrame_shapes (function : String) (buffer : Option Block) :
    Obeys shaping (pushFrame function buffer) := by
  intro context
  rw [pushFrame_run]
  -- Without room nothing is entered.
  cases context.stack.room with
  | zero => exact .refl context
  | succ room => exact ⟨rfl, fun _ => .refl _⟩

/-- Leaving an activation frees what it bound. -/
theorem popFrame_shapes : Obeys shaping popFrame := by
  intro context
  rw [popFrame_run]
  -- Without an activation nothing is left.
  cases context.stack.frames with
  | nil => exact .refl context
  | cons frame callers => exact .of_releaseAll rfl rfl

/-- Being let in touches neither the program nor the heap. -/
theorem enter_shapes (location : Location) : Obeys shaping (enter location) := by
  intro context
  -- With a grant or without one, the program and its arena are what they were.
  cases allowed : context.grants with
  | zero =>
    rw [enter_without allowed]
    exact ⟨rfl, fun _ => .refl _⟩
  | succ grants =>
    rw [enter_with allowed]
    exact ⟨rfl, fun _ => .refl _⟩

/-- Every single step keeps the program and the shape of its arena. -/
theorem steps_shape : SingleSteps shaping where
  store address type value :=
    shapes_of_rewriting (edit_rewrites (Heap.store_rewrites address type value))
  returnBuffer := returnBuffer_shapes
  print _ := Obeys.modify fun _ => ⟨rfl, fun _ => .refl _⟩
  mallocOrNull := mallocOrNull_shapes
  free := free_shapes
  handOver := handOver_shapes
  loadString := loadString_shapes
  declare := declare_shapes
  markReturned := markReturned_shapes
  pushScope := pushScope_shapes
  popScope := popScope_shapes
  pushFrame := pushFrame_shapes
  popFrame := popFrame_shapes
  releaseTemporaries mark context := by
    rw [releaseTemporaries_run]
    exact .of_releaseAll rfl rfl
  enter := enter_shapes
  activate _ _ := ⟨rfl, fun _ => .refl _⟩

end Exec

end StepMachine
