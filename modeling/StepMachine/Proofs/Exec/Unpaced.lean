import StepMachine.Proofs.Eval.Closure

/-! Steps that take no part in pacing: they never suspend the program, and neither how far it may
go on nor the record of it plays a part in what they do. -/

namespace StepMachine

namespace Exec

/-- An outcome that leaves another allowance of statements and another record of them. -/
def repaced (grants : Nat) (journal : Journal) :
    EStateM.Result Unwind Context α → EStateM.Result Unwind Context α
  | .ok result last => .ok result (last.repaced grants journal)
  | .error reason last => .error reason (last.repaced grants journal)

/-- A computation that takes no part in pacing. -/
structure Unpaced (run : Exec α) : Prop where
  same : ∀ context grants journal,
    run (context.repaced grants journal) = repaced grants journal (run context)
  goesOn : ∀ context view last, run context ≠ .error (.suspended view) last

namespace Unpaced

/-- What such a computation leaves of the allowance and the record: everything. -/
theorem keeps {run : Exec α} (unpaced : Unpaced run) (context : Context) :
    (run.after context).grants = context.grants ∧
      (run.after context).journal = context.journal := by
  -- A state is its own copy with its own allowance and record.
  have same := unpaced.same context context.grants context.journal
  have own : context.repaced context.grants context.journal = context := rfl
  rw [own] at same
  unfold Exec.after
  -- Both ways to end say that the state that is left is its own copy as well.
  cases ran : run context with
  | ok result last =>
    rw [ran] at same
    injection same with _ state
    have grants : last.grants = context.grants := by rw [state]; rfl
    have journal : last.journal = context.journal := by rw [state]; rfl
    exact ⟨grants, journal⟩
  | error reason last =>
    rw [ran] at same
    injection same with _ state
    have grants : last.grants = context.grants := by rw [state]; rfl
    have journal : last.journal = context.journal := by rw [state]; rfl
    exact ⟨grants, journal⟩

/-- Such a computation yields a result or fails for a cause, with the same number of grants left,
and does just that at any other pace. -/
theorem outcome {run : Exec α} (unpaced : Unpaced run) (context : Context) :
    (∃ (result : α) (last : Context), last.grants = context.grants ∧
      run context = .ok result last ∧
      ∀ grants journal,
        run (context.repaced grants journal) = .ok result (last.repaced grants journal)) ∨
    ∃ (cause : RuntimeError) (last : Context), last.grants = context.grants ∧
      run context = .error (.fault cause) last ∧
      ∀ grants journal, run (context.repaced grants journal) =
        .error (.fault cause) (last.repaced grants journal) := by
  have grants : (run.after context).grants = context.grants := (unpaced.keeps context).1
  unfold Exec.after at grants
  cases ran : run context with
  | ok result last =>
    rw [ran] at grants
    -- From a result the other pace follows by the first law.
    exact .inl ⟨result, last, grants, rfl, fun grants journal => by rw [unpaced.same, ran]; rfl⟩
  | error reason last =>
    rw [ran] at grants
    -- Such a computation is never suspended, so a failure has a cause.
    cases reason with
    | suspended view => exact absurd ran (unpaced.goesOn context view last)
    | fault cause =>
      exact .inr ⟨cause, last, grants, rfl, fun grants journal => by rw [unpaced.same, ran]; rfl⟩

/-- A result given at once takes no part in pacing. -/
theorem pure (result : α) : Unpaced (pure result) := ⟨fun _ _ _ => rfl, nofun⟩

/-- A fault takes no part in pacing. -/
theorem fail (cause : RuntimeError) : Unpaced (fail cause : Exec α) :=
  ⟨fun _ _ _ => rfl, nofun⟩

/-- A sequence of such computations is one. -/
theorem bind {run : Exec α} {next : α → Exec β} (first : Unpaced run)
    (rest : ∀ result, Unpaced (next result)) : Unpaced (run >>= next) := by
  refine ⟨fun context grants journal => ?_, fun context view last => ?_⟩
  · rw [bind_run, bind_run, first.same]
    -- The first part leaves the same state at another pace, and the second one starts there.
    cases run context with
    | ok result middle => exact (rest result).same middle grants journal
    | error reason middle => rfl
  · rw [bind_run]
    cases ran : run context with
    | ok result middle => exact (rest result).goesOn middle view last
    | error reason middle =>
      -- A suspension would have come from the first part.
      intro failed
      injection failed with suspended
      exact first.goesOn context view middle (by rw [ran, suspended])

/-- What is taken from the state first may decide what happens next, unless it is the pace. -/
theorem consult {body : Context → Exec α} (paceless : Context.Paceless body)
    (rest : ∀ context, Unpaced (body context)) : Unpaced (get >>= body) := by
  refine ⟨fun context grants journal => ?_, fun context => (rest context).goesOn context⟩
  -- What is done next is the same at any pace, so one computation runs on both sides.
  simp only [bind_run, get_run, paceless context grants journal]
  exact (rest context).same context grants journal

/-- A result of pure computing. -/
theorem lift (result : Except RuntimeError α) : Unpaced (liftM result : Exec α) := by
  -- It is a result or a failure from the start, and never a suspension.
  cases result with
  | ok result => exact pure result
  | error cause => exact fail cause

/-- The same for a look at memory that has been taken. -/
theorem liftMemory (result : Except MemoryError α) : Unpaced (liftM result : Exec α) := by
  -- As for other results, with the cause handed on as the machine's.
  cases result with
  | ok result => exact pure result
  | error cause => exact fail (.memory cause)

/-- The same for a result about the call stack. -/
theorem liftStack (result : Except StackError α) : Unpaced (liftM result : Exec α) := by
  -- As for other results, with the cause handed on as the machine's.
  cases result with
  | ok result => exact pure result
  | error cause => exact fail (.stack cause)

/-- A change of the state that leaves allowance and record alone and does not look at them. -/
theorem modify {change : Context → Context} (same : ∀ context grants journal,
      change (context.repaced grants journal) = (change context).repaced grants journal) :
    Unpaced (modify change) := by
  refine ⟨fun context grants journal => ?_, nofun⟩
  -- Changing the pace and changing the state may change places.
  rw [modify_run, modify_run, same]
  rfl

/-- A change to the heap. -/
theorem edit (change : Edit RuntimeError α) : Unpaced (edit change) := by
  refine ⟨fun context grants journal => ?_, fun context view last => ?_⟩
  · -- The heap is the same at any pace, and the rest of the state is handed through.
    simp only [edit_run, Context.repaced]
    cases change context.heap <;> rfl
  · rw [edit_run]
    cases change context.heap <;> nofun

/-- Handling the failures of such a computation. -/
theorem tryCatch {body : Exec α} {handle : Unwind → Exec α} (first : Unpaced body)
    (rest : ∀ cause, Unpaced (handle (.fault cause))) : Unpaced (tryCatch body handle) := by
  refine ⟨fun context grants journal => ?_, fun context view last => ?_⟩
  · rw [tryCatch_run, tryCatch_run, first.same]
    cases ran : body context with
    | ok result middle => rfl
    | error reason middle =>
      cases reason with
      | fault cause => exact (rest cause).same middle grants journal
      -- A suspension is handled by nobody, since there is none.
      | suspended view => exact absurd ran (first.goesOn context view middle)
  · rw [tryCatch_run]
    cases ran : body context with
    | ok result middle => nofun
    | error reason middle =>
      cases reason with
      | fault cause => exact (rest cause).goesOn middle view last
      | suspended view => exact absurd ran (first.goesOn context view middle)

end Unpaced

/-- Giving blocks back is an edit of the heap. -/
theorem release_unpaced (blocks : List Block) : Unpaced (release blocks) := Unpaced.edit _

/-- Making a temporary object takes no part in pacing. -/
theorem temporary_unpaced (type : CType) : Unpaced (temporary type) :=
  Unpaced.bind (Unpaced.edit _) fun object =>
    Unpaced.bind (Unpaced.modify fun _ _ _ => rfl) fun _ => Unpaced.pure object

/-- Making a return buffer takes no part in pacing. -/
theorem returnBuffer_unpaced (type : CType) : Unpaced (returnBuffer type) := by
  unfold returnBuffer
  -- A structure is given room; any other result needs none.
  split
  · refine Unpaced.bind (temporary_unpaced type) fun object => ?_
    exact Unpaced.bind (Unpaced.liftMemory _) fun block => Unpaced.pure _
  · exact Unpaced.pure none

/-- Printing changes the terminal only. -/
theorem print_unpaced (text : String) : Unpaced (print text) := Unpaced.modify fun _ _ _ => rfl

/-- A request for memory, answered with null at worst, takes no part in pacing. -/
theorem mallocOrNull_unpaced (size : Nat) : Unpaced (Builtin.mallocOrNull size) := by
  -- A request that fails for lack of memory is answered with null instead.
  have asked : Unpaced (malloc size) :=
    Unpaced.bind (Unpaced.edit _) fun block =>
      Unpaced.bind (Unpaced.modify fun _ _ _ => rfl) fun _ => Unpaced.pure _
  refine Unpaced.tryCatch (Unpaced.bind asked fun address => Unpaced.pure _) fun cause => ?_
  -- Want of room is only counted; every other cause goes on.
  split
  · exact Unpaced.bind (Unpaced.modify fun _ _ _ => rfl) fun _ => Unpaced.pure _
  · exact Unpaced.fail cause

/-- Giving a block back takes no part in pacing. -/
theorem free_unpaced (address : Address) : Unpaced (free address) := by
  refine Unpaced.consult (fun _ _ _ => rfl) fun context => ?_
  -- The block is looked for among those given out, which the pace does not touch.
  cases context.dynamic.find? (·.address = address) with
  | some block => exact Unpaced.bind (Unpaced.modify fun _ _ _ => rfl) fun _ => release_unpaced _
  | none => exact Unpaced.fail _

/-- Handing a result over takes no part in pacing. -/
theorem handOver_unpaced (value : Value) : Unpaced (handOver value) := by
  refine Unpaced.consult (fun _ _ _ => rfl) fun context => ?_
  -- Either the structure is copied to the buffer, which is an edit of the heap, or nothing is done.
  split
  · exact Unpaced.bind (Unpaced.edit _) fun _ => Unpaced.pure _
  · exact Unpaced.pure _

/-- Laying a literal out in memory takes no part in pacing. -/
theorem loadString_unpaced (literal : String) : Unpaced (loadString literal) := by
  refine Unpaced.bind (Unpaced.edit _) fun block => Unpaced.bind ?_ fun _ =>
    Unpaced.modify fun _ _ _ => rfl
  -- A literal that cannot be written gives its block back.
  exact Unpaced.tryCatch (Unpaced.bind (Unpaced.edit _) fun _ => Unpaced.edit _)
    fun cause => Unpaced.bind (release_unpaced _) fun _ => Unpaced.fail cause

/-- Opening an activation takes no part in pacing. -/
theorem pushFrame_unpaced (function : String) (buffer : Option Block) :
    Unpaced (pushFrame function buffer) :=
  Unpaced.consult (fun _ _ _ => rfl) fun _ => Unpaced.bind (Unpaced.liftStack _) fun _ =>
    Unpaced.modify fun _ _ _ => rfl

/-- Closing an activation takes no part in pacing. -/
theorem popFrame_unpaced : Unpaced popFrame :=
  Unpaced.consult (fun _ _ _ => rfl) fun _ => Unpaced.bind (Unpaced.liftStack _) fun popped =>
    Unpaced.bind (Unpaced.modify fun _ _ _ => rfl) fun _ =>
      Unpaced.bind (release_unpaced popped.1.blocks) fun _ => Unpaced.pure popped.1

/-- Looking for the current activation takes no part in pacing. -/
theorem currentFrame_unpaced : Unpaced currentFrame := by
  refine Unpaced.consult (fun _ _ _ => rfl) fun context => ?_
  -- There is one or there is none, whatever the pace.
  cases context.stack.current? with
  | some frame => exact Unpaced.pure frame
  | none => exact Unpaced.fail _

/-- Putting an activation back takes no part in pacing. -/
theorem setFrame_unpaced (frame : Frame) : Unpaced (setFrame frame) :=
  Unpaced.modify fun _ _ _ => rfl

/-- Opening a scope takes no part in pacing. -/
theorem pushScope_unpaced : Unpaced pushScope :=
  Unpaced.bind currentFrame_unpaced fun frame => setFrame_unpaced frame.pushScope

/-- Closing a scope takes no part in pacing. -/
theorem popScope_unpaced : Unpaced popScope :=
  Unpaced.bind currentFrame_unpaced fun frame =>
    Unpaced.bind (Unpaced.liftStack frame.popScope) fun popped =>
      Unpaced.bind (setFrame_unpaced popped.2) fun _ => release_unpaced popped.1.blocks

/-- Recording a result takes no part in pacing. -/
theorem markReturned_unpaced (value : Value) : Unpaced (markReturned value) :=
  Unpaced.bind currentFrame_unpaced fun frame =>
    Unpaced.bind (Unpaced.liftStack (frame.markReturned value)) fun frame => setFrame_unpaced frame

/-- A declaration takes no part in pacing. -/
theorem declare_unpaced (name : String) (type : CType) (init : Option Value) :
    Unpaced (declare name type init) := by
  refine ⟨fun context grants journal => ?_, fun context view last => ?_⟩
  · -- The scope is not read by a look of its own here, so the run is compared as a whole.
    rw [declare_run, declare_run]
    have heap : (context.repaced grants journal).heap = context.heap := rfl
    rw [heap]
    cases Variable.create type init context.heap with
    | error cause heap => rfl
    | ok object heap =>
      -- The innermost scope belongs to the current activation or is the global one.
      simp only [Context.setCurrentScope, Context.currentScope, Context.repaced, repaced]
      cases context.stack.current? <;> rfl
  · -- The storage is made or refused, and a refusal is a fault.
    rw [declare_run]
    cases Variable.create type init context.heap <;> simp

/-- Releasing temporary objects takes no part in pacing. -/
theorem releaseTemporaries_unpaced (mark : Nat) : Unpaced (releaseTemporaries mark) := by
  refine ⟨fun context grants journal => ?_, fun context view last => ?_⟩
  · -- What is dropped are the objects behind the mark, at any pace.
    rw [releaseTemporaries_run, releaseTemporaries_run]
    rfl
  · -- Releasing never fails.
    rw [releaseTemporaries_run]
    nofun

end Exec

end StepMachine
