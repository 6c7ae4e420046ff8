import StepMachine.Proofs.Lexical.Reflection
import StepMachine.Proofs.Stack.Discipline

/-! A program on numbers does the same with memory and without: whatever an expression, a statement
or a call of it yields, prints or fails with, it does so by the names and values of its scopes
alone. Only a lack of memory is not foreseen. -/

namespace StepMachine

/-- Looking up a name leaves the state alone. -/
theorem Exec.lookup_run (name : String) (context : Context) :
    lookup name context = match context.find? name with
      | some object => .ok object context
      | none => .error (.fault (.undefinedVariable name)) context := by
  simp only [lookup, bind_run, get_run]
  cases context.find? name <;> rfl

/-- A called name is looked for in the program first, and then among the functions of the
machine. -/
theorem Exec.resolve_run (name : String) (context : Context) :
    resolve name context = match context.program.function? name, Builtin.ofName? name with
      | some function, _ => .ok (.function function) context
      | none, some builtin => .ok (.builtin builtin) context
      | none, none => .error (.fault (.undefinedFunction name)) context := by
  simp only [resolve, bind_run, get_run]
  cases context.program.function? name with
  | some function => rfl
  | none => cases Builtin.ofName? name <;> rfl

namespace Lexical

/-- An unwinding without memory is that of a program with memory, unless that lacked some: the same
failure, under the same statement, after the same output. -/
def Unwinds (last : Context) (outcome : EStateM.Result Stop State α) : Unwind → Prop
  | .fault cause => cause.isOutOfMemory = true ∨ ∃ state, outcome = .error (.fault cause) state ∧
      state.active = last.active ∧ state.terminal = last.terminal
  | .suspended view => ∃ state, outcome = .error .suspended state ∧
      state.terminal = view.terminal

/-- An outcome without memory is that of a program with memory: it yields the same result, in the
state as it is seen. -/
def Mirrors (program : Program) (room : Nat) (real : EStateM.Result Unwind Context α)
    (outcome : EStateM.Result Stop State α) : Prop :=
  match real with
  | .ok result last => outcome = .ok result last.lexical ∧ last.Plain program room
  | .error reason last => Unwinds last outcome reason

/-- A computation without memory does what one with memory does, wherever that binds numbers
only. -/
def Simulates (program : Program) (room : Nat) (real : Exec α) (run : Run α) : Prop :=
  ∀ context : Context, context.Plain program room →
    Mirrors program room (real context) (run context.lexical)

/-- What comes after an unwinding does not matter to it. -/
theorem Unwinds.bind {run : Run α} {state : State} {last : Context} {reason : Unwind}
    (unwinds : Unwinds last (run state) reason) (next : α → Run β) :
    Unwinds last ((run >>= next) state) reason := by
  -- What comes after is not run at all, so it is the unwinding of the first part that is compared.
  rw [bind_run]
  -- A fault may be a lack of memory, and a suspension may not.
  cases reason with
  | fault cause =>
    rcases unwinds with lacking | ⟨left, ran, same⟩
    · exact .inl lacking
    · exact .inr ⟨left, by rw [ran], same⟩
  | suspended view =>
    obtain ⟨left, ran, same⟩ := unwinds
    exact ⟨left, by rw [ran], same⟩

/-- What is left after an unwinding matters by its statements under way and its output only. -/
theorem Unwinds.left {outcome : EStateM.Result Stop State α} {last left : Context}
    {reason : Unwind} (unwinds : Unwinds last outcome reason) (active : left.active = last.active)
    (terminal : left.terminal = last.terminal) : Unwinds left outcome reason := by
  -- A fault is compared by statement and output, and a suspension by the view that it takes along.
  cases reason with
  | fault cause =>
    refine unwinds.imp id fun ⟨state, ran, same⟩ => ⟨state, ran, ?_⟩
    rwa [active, terminal]
  | suspended view => exact unwinds

/-- Where nothing unwinds without memory, only a lack of it makes a program unwind. -/
theorem Unwinds.of_ok {result : α} {state : State} {last : Context} {reason : Unwind}
    (unwinds : Unwinds last (.ok result state) reason) :
    ∃ cause, reason = .fault cause ∧ cause.isOutOfMemory = true := by
  -- A run that yields a result has neither failed nor stopped.
  cases reason with
  | fault cause =>
    rcases unwinds with lacking | ⟨_, ran, -⟩
    · exact ⟨cause, rfl, lacking⟩
    · cases ran
  | suspended view =>
    obtain ⟨_, ran, -⟩ := unwinds
    cases ran

namespace Simulates

variable {program : Program} {room : Nat}

/-- A result is yielded with memory as without. -/
theorem pure (result : α) : Simulates program room (pure result) (pure result) :=
  fun _ plain => ⟨rfl, plain⟩

/-- A failure is the same with memory and without. -/
theorem fail (cause : RuntimeError) :
    Simulates program room (Exec.fail cause : Exec α) (fail cause) :=
  fun _ _ => .inr ⟨_, rfl, rfl, rfl⟩

/-- A value that may be none is the same with memory and without. -/
theorem lift (result : Except RuntimeError α) :
    Simulates program room (liftM result) (liftM result) := by
  -- Either there is a result, or a cause that both sides fail for.
  cases result with
  | ok result => exact pure result
  | error cause => exact fail cause

/-- The parts of a sequence are simulated one after the other. -/
theorem bind {real : Exec α} {run : Run α} {next : α → Exec β} {after : α → Run β}
    (first : Simulates program room real run)
    (rest : ∀ result, Simulates program room (next result) (after result)) :
    Simulates program room (real >>= next) (run >>= after) := by
  intro context plain
  have first := first context plain
  -- The first part does the same on both sides, so the second starts from what is seen.
  rw [bind_run]
  cases ran : real context with
  | error reason last =>
    rw [ran] at first
    exact Unwinds.bind first after
  | ok result middle =>
    rw [ran] at first
    -- The second parts start in a state and in what is seen of it.
    rw [bind_run, first.1]
    exact rest result middle first.2

/-- Results that are not wanted are dropped on both sides. -/
theorem discard {real : Exec α} {run : Run α} (first : Simulates program room real run) :
    Simulates program room (discard real) (discard run) := by
  -- Dropping a result is going on with nothing.
  rw [discard_eq, discard_eq]
  exact bind first fun _ => pure ()

/-- Testing a value and going on on one of two ways. -/
theorem whenTrue {value : Exec Value} {value' : Run Value}
    (first : Simulates program room value value') {yes no : Exec α} {yes' no' : Run α}
    (left : Simulates program room yes yes') (right : Simulates program room no no') :
    Simulates program room (do if ← (← value).isTruthy then yes else no)
      (do if ← (← value').isTruthy then yes' else no') := by
  -- The truth of a value is that of a number.
  refine bind first fun value => bind (lift value.isTruthy) fun truth => ?_
  cases truth with
  | true => exact left
  | false => exact right

/-- A change of the state that is seen as one, and binds nothing. -/
theorem modify {change : Context → Context} {change' : State → State}
    (owns : Exec.Obeys Effect.ownership (modify change))
    (seen : ∀ context, (change context).lexical = change' context.lexical)
    (same : ∀ context, (change context).program = context.program ∧
      (change context).stack = context.stack ∧ (change context).globals = context.globals) :
    Simulates program room (modify change) (modify change') := by
  intro context plain
  -- The change is one of neither names nor activations.
  obtain ⟨program, stack, globals⟩ := same context
  refine ⟨congrArg (EStateM.Result.ok ()) (seen context).symm, ?_⟩
  exact plain.of_same (owns.keeps plain.owns) program stack globals

end Simulates

section Equations

/-- Looking up a name leaves the state alone. -/
theorem lookup_run (name : String) (state : State) :
    lookup name state = match state.find? name with
      | some binding => .ok binding state
      | none => .error (.fault (.undefinedVariable name)) state := by
  unfold lookup
  rw [bind_run]
  show (match state.find? name with | some _ => _ | none => _ : Run Binding) state = _
  cases state.find? name <;> rfl

/-- A called name is looked for in the program first, and then among what needs no memory. -/
theorem resolve_run (invoke : Invoke) (name : String) (state : State) :
    resolve invoke name state =
      match state.program.function? name, Builtin.ofName? name with
      | some function, _ => .ok (invoke function) state
      | none, some .putchar => .ok putchar state
      | none, some _ => .error .outside state
      | none, none => .error (.fault (.undefinedFunction name)) state := by
  unfold resolve
  rw [bind_run]
  show (match state.program.function? name, Builtin.ofName? name with
    -- A function of the program hides one of the machine, so it is looked for first.
    | some _, _ => _ | none, some .putchar => _ | none, some _ => _ | none, none => _ : Run _)
      state = _
  cases state.program.function? name with
  | some function => rfl
  | none =>
    cases Builtin.ofName? name with
    | none => rfl
    | some builtin => cases builtin <;> rfl

/-- The current activation is the first one. -/
theorem currentFrame_run (state : State) :
    currentFrame state = match state.frames with
      | frame :: _ => .ok frame state
      | [] => .error (.fault (.stack .noActiveFrame)) state := by
  unfold currentFrame
  rw [bind_run]
  show (match state.frames with | frame :: _ => _ | [] => _ : Run Frame) state = _
  cases state.frames <;> rfl

/-- A result is recorded once, in the current activation. -/
theorem markReturned_run (value : Value) (state : State) :
    markReturned value state = match state.frames with
      | [] => .error (.fault (.stack .noActiveFrame)) state
      | frame :: _ =>
        if frame.returned.isSome then .error (.fault (.stack .alreadyReturned)) state
        else .ok () (state.onFrame fun frame => { frame with returned := some value }) := by
  -- Who has no activation cannot return, and who has returned cannot do so again.
  unfold markReturned
  rw [bind_run, currentFrame_run]
  cases state.frames with
  | nil => rfl
  | cons frame callers =>
    dsimp only
    cases frame.returned.isSome <;> rfl

/-- After a return nothing happens; otherwise the statement is put in front and let in. -/
theorem statement_run (location : Location) (effect : Run Unit) (state : State) :
    statement location effect state =
      if state.hasReturned then .ok () state
      else (do
        modify fun state => { state with active := location :: state.active }
        enter
        effect
        modify fun state => { state with active := state.active.tail } : Run Unit) state := by
  unfold statement
  rw [bind_run]
  show (if state.hasReturned = true then Pure.pure () else _ : Run Unit) state = _
  cases state.hasReturned <;> rfl

/-- A block needs an activation that it is opened in. -/
theorem inBlock_run (body : Run Unit) (state : State) :
    inBlock body state = match state.frames with
      | [] => .error (.fault (.stack .noActiveFrame)) state
      | _ :: _ => (do
        body
        modify (·.onFrame Frame.closeBlock) : Run Unit) (state.onFrame Frame.openBlock) := by
  unfold inBlock
  rw [bind_run, currentFrame_run]
  cases state.frames <;> rfl

/-- An activation stands in front of its callers while its body runs. -/
theorem activation_run (body : Run Unit) (state : State) :
    activation body state = (body >>= fun _ => do
      let frame ← currentFrame
      modify fun state => { state with frames := state.frames.tail }
      return frame.returned.getD .void) { state with frames := {} :: state.frames } := by
  unfold activation
  rw [bind_run]
  rfl

/-- A loop with a turn left tests and goes round, unless the function has returned. -/
theorem repeatWhile_run (test : Run Bool) (body : Run Unit) (turns : Nat) (state : State) :
    repeatWhile test body (turns + 1) state =
      if state.hasReturned then .ok () state
      else (test >>= fun proceed =>
        if proceed then body >>= fun _ => repeatWhile test body turns else pure ()) state := by
  -- The function is asked first, and then the test decides on the round.
  rw [repeatWhile, bind_run]
  show (if state.hasReturned = true then Pure.pure () else _ : Run Unit) state = _
  cases state.hasReturned <;> rfl

end Equations

section Steps

variable {program : Program} {room : Nat}

/-- A name is read as the value that it is seen to stand for. -/
theorem load_simulates (name : String) :
    Simulates program room (do (← Exec.lookup name).load (← get).heap)
      (do return (← lookup name).value) := by
  intro context plain
  -- Both look up the same name, and what it is found to be is seen.
  have seen := context.lexical_find? name
  rw [bind_run, bind_run, Exec.lookup_run, lookup_run, seen]
  cases found : context.find? name with
  | none => exact .inr ⟨_, rfl, rfl, rfl⟩
  | some object =>
    -- The object is a number that the program holds, so reading it does not fail.
    obtain ⟨numeric, member⟩ := plain.found found
    have read := Variable.load_content numeric plain.owns.holds member
    dsimp only [Option.map_some]
    rw [bind_run, Exec.get_run]
    dsimp only
    rw [read]
    exact ⟨rfl, plain⟩

/-- An assignment to a name is seen as an update of the name. -/
theorem assign_simulates (call : StepMachine.Invoke) (name : String) (value : Value) :
    Simulates program room (do
        let place ← Expr.place call (.var name)
        Heap.store place.address place.type value
        Exec.loadPlace place)
      (assign name value) := by
  intro context plain
  -- Both look up the same name before anything is stored.
  have seen := context.lexical_find? name
  -- The place of a name is where its object lies.
  rw [Expr.place]
  unfold assign
  simp only [bind_assoc, pure_bind]
  rw [bind_run, bind_run, Exec.lookup_run, lookup_run, seen]
  cases found : context.find? name with
  -- A name that is not bound fails on both sides.
  | none => exact .inr ⟨_, rfl, rfl, rfl⟩
  | some object =>
    obtain ⟨numeric, member⟩ := plain.found found
    have stored := Variable.store_content numeric plain.owns.holds member value
    -- What is stored is a number of the object's type, or it cannot be converted.
    have edited : (liftM (Heap.store object.address object.type value) : Exec Unit) =
      Exec.edit (object.store value) := rfl
    dsimp only [Option.map_some]
    rw [bind_run, bind_run, edited, Exec.edit_run]
    cases converted : value.coerce object.type with
    | error cause =>
      rw [converted] at stored
      rw [stored]
      exact .inr ⟨_, rfl, rfl, rfl⟩
    | ok kept =>
      rw [converted] at stored
      obtain ⟨last, ran, content, others⟩ := stored
      rw [ran]
      dsimp only
      -- What was stored is read back from the same object.
      have owns : Context.Owns { context with heap := last } := by
        have rewritten := Heap.store_rewrites object.address object.type value context.heap
        unfold Edit.after at rewritten
        unfold Variable.store at ran
        rw [ran] at rewritten
        exact plain.owns.rewritten rewritten
      have read := Variable.load_content numeric owns.holds member
      have updated := plain.lexical_update found others
      rw [content] at read updated
      show Mirrors program room
        ((liftM (object.load last) : Exec Value) { context with heap := last })
        (.ok kept (context.lexical.update name kept))
      rw [read, ← updated]
      exact ⟨rfl, plain.of_same owns rfl rfl rfl⟩

/-- What is printed stands under the same statement with memory and without. -/
theorem print_simulates (text : String) :
    Simulates program room (Exec.print text) (print text) :=
  Simulates.modify (Exec.steps_own.print text) (fun _ => rfl) fun _ => ⟨rfl, rfl, rfl⟩

/-- The function that prints a character needs no memory. -/
theorem putchar_simulates (arguments : List Value) :
    Simulates program room (Builtin.putchar.call arguments) (putchar arguments) := by
  -- Any other number of arguments is refused before anything is printed.
  have refused (arguments : List Value) :
      Simulates program room (Exec.fail (.argumentCount "putchar" 1 arguments.length) : Exec Value)
        (fail (.argumentCount "putchar" 1 arguments.length)) := Simulates.fail _
  -- Only one argument is right.
  match arguments with
  | [] => exact refused []
  | [argument] =>
    exact Simulates.bind (Simulates.lift _) fun byte =>
      Simulates.bind (print_simulates _) fun _ => Simulates.pure _
  | first :: second :: rest => exact refused (first :: second :: rest)

/-- A declaration is seen as a binding in the innermost scope. -/
theorem declare_simulates (name : String) {type : CType} (numeric : type.isNumeric = true)
    (init : Option Value) :
    Simulates program room (Functor.discard (Exec.declare name type init))
      (declare name type init) := by
  intro context plain
  -- What is bound, and what the memory holds then, is known of the object that is made.
  have owns := (Exec.declare_owns name type init).keeps plain.owns
  have made := Variable.create_content numeric init plain.owns.holds
  rw [Exec.after, Exec.declare_run] at owns
  unfold declare
  rw [discard_eq, bind_run, Exec.declare_run, bind_run]
  -- Only a lack of memory, or a value that cannot be converted, stops the declaration.
  cases created : Variable.create type init context.heap with
  | error cause heap =>
    rw [created] at made
    rcases made with lacking | refused
    · exact .inl lacking
    · rw [refused]
      exact .inr ⟨_, rfl, rfl, rfl⟩
  | ok object heap =>
    rw [created] at made owns
    obtain ⟨rfl, proper, initial, untouched⟩ := made
    -- What the name was bound to before is freed, which is not seen.
    have bound := plain.lexical_bind untouched name object
      (heap.releaseAll_bytes ((context.currentScope.find? name).toList.map (·.block)))
    rw [initial]
    exact ⟨congrArg (EStateM.Result.ok ()) bound.symm, plain.bind name proper owns⟩

/-- A return is seen as one; no number has to be moved for it. -/
theorem return_simulates (value : Value) :
    Simulates program room (do Exec.markReturned (← Exec.handOver value)) (markReturned value) := by
  intro context plain
  have owns := (Exec.markReturned_owns value).keeps plain.owns
  -- No activation of the program was called with storage for a structure.
  have kept : Exec.handOver value context = .ok value context := by
    have none : context.stack.current?.bind (·.buffer) = none := by
      unfold CallStack.current?
      cases frames : context.stack.frames with
      | nil => rfl
      | cons frame callers => exact (plain.frames frame (by simp [frames])).buffer
    simp only [Exec.handOver, bind_run, Exec.get_run, none]
    rfl
  rw [Exec.after, Exec.markReturned_run] at owns
  -- Frames are seen one by one, so the current one is seen first.
  have seen : context.lexical.frames = context.stack.frames.map (·.seen context.heap) := rfl
  rw [bind_run, kept]
  dsimp only
  rw [Exec.markReturned_run, markReturned_run, seen]
  -- Outside of any function there is nothing to return from.
  cases frames : context.stack.frames with
  | nil => exact .inr ⟨_, rfl, rfl, rfl⟩
  | cons frame callers =>
    rw [frames] at owns
    dsimp only at owns
    have returned : (frame.seen context.heap).returned.isSome = frame.hasReturned := rfl
    rw [List.map_cons]
    dsimp only
    rw [returned]
    -- A function that has returned is not left twice.
    cases again : frame.hasReturned with
    | true => exact .inr ⟨_, rfl, rfl, rfl⟩
    | false =>
      rw [again] at owns
      obtain ⟨buffer, scopes⟩ := plain.frames frame (by simp [frames])
      have proper : StepMachine.Frame.Plain { frame with returned := some value } :=
        ⟨buffer, scopes⟩
      refine ⟨congrArg (EStateM.Result.ok ()) (Context.lexical_onFrame frames ?_ rfl).symm,
        plain.onFrame frames proper owns⟩
      rfl

/-- A statement is let in, or has to wait, with memory as without. -/
theorem enter_simulates (location : Location) :
    Simulates program room (Exec.enter location) enter := by
  intro context plain
  have grants : context.lexical.grants = context.grants := rfl
  have owns := (Exec.enter_owns location).keeps plain.owns
  -- The program waits where no grant is left, and uses one up where there is.
  unfold enter
  cases allowed : context.grants with
  | zero =>
    rw [Exec.enter_without allowed, grants, allowed]
    exact ⟨_, rfl, rfl⟩
  | succ more =>
    rw [Exec.after, Exec.enter_with allowed] at owns
    rw [Exec.enter_with allowed, grants, allowed]
    exact ⟨rfl, plain.of_same owns rfl rfl rfl⟩

/-- Temporary objects are not seen. -/
theorem dropTemporaries_plain {context : Context} (plain : context.Plain program room)
    (mark : Nat) : (context.dropTemporaries mark).lexical = context.lexical ∧
      (context.dropTemporaries mark).Plain program room := by
  have owns := (Exec.releaseTemporaries_owns mark).keeps plain.owns
  rw [Exec.after, Exec.releaseTemporaries_run] at owns
  exact ⟨Context.lexical_bytes { context with temporaries := context.temporaries.shrink mark }
    (Heap.releaseAll_bytes ..), plain.of_same owns rfl rfl rfl⟩

/-- Temporary objects that go at the end of a computation are not seen. -/
theorem alone_simulates {real : Exec α} {run : Run α} (first : Simulates program room real run) :
    Simulates program room (Exec.alone real) run := by
  intro context plain
  have first := first context plain
  rw [Exec.alone_run]
  -- The temporaries that are dropped belong to no variable.
  cases ran : real context with
  | error reason last =>
    rw [ran] at first
    exact Unwinds.left first rfl rfl
  | ok result last =>
    rw [ran] at first
    obtain ⟨seen, plain⟩ := dropTemporaries_plain first.2 context.temporaries.size
    exact ⟨by rw [seen]; exact first.1, plain⟩

/-- The protocol of a statement is the same with memory and without. -/
theorem statement_simulates (location : Location) {effect : Exec Unit} {effect' : Run Unit}
    (simulates : Simulates program room effect effect') :
    Simulates program room (Exec.statement location effect) (statement location effect') := by
  -- Statements under way are no part of the memory.
  have activate (change : List Location → List Location) :
      Simulates program room
        (modify fun context => { context with active := change context.active })
        (modify fun state => { state with active := change state.active }) :=
    Simulates.modify (Exec.Obeys.modify fun context => Exec.steps_own.activate context _)
      (fun _ => rfl) fun _ => ⟨rfl, rfl, rfl⟩
  intro context plain
  rw [statement_run, context.lexical_hasReturned]
  unfold Exec.statement
  rw [bind_run, Exec.get_run]
  dsimp only
  -- A function that has returned skips its statements on both sides.
  cases context.hasReturned with
  | true => exact ⟨rfl, plain⟩
  | false =>
    -- With memory the statement releases its temporary objects, which are not seen.
    have whole := Simulates.bind (activate (location :: ·)) fun _ => Simulates.bind
      (alone_simulates (Simulates.bind (enter_simulates location) fun _ => simulates))
      fun _ => activate List.tail
    have whole := whole context plain
    simp only [bind_assoc] at whole
    exact whole

/-- A loop goes round as often with memory as without. -/
theorem repeatWhile_simulates {test : Exec Bool} {test' : Run Bool} {body : Exec Unit}
    {body' : Run Unit} (tests : Simulates program room test test')
    (simulates : Simulates program room body body') (turns : Nat) :
    Simulates program room (Exec.repeatWhile test body turns) (repeatWhile test' body' turns) := by
  -- Both loops have as many turns; without any, both wait.
  induction turns with
  | zero => exact fun _ _ => ⟨_, rfl, rfl⟩
  | succ turns ih =>
    -- One turn is compared, and the others are left to the induction.
    intro context plain
    rw [Exec.repeatWhile_run, repeatWhile_run, context.lexical_hasReturned]
    cases context.hasReturned with
    | true => exact ⟨rfl, plain⟩
    | false =>
      refine Simulates.bind tests (fun proceed => ?_) context plain
      cases proceed with
      | true => exact Simulates.bind simulates fun _ => ih
      | false => exact Simulates.pure ()

/-- A loop that may go round as often as it likes is the same with memory and without. -/
theorem loop_simulates {test : Exec Bool} {test' : Run Bool} {body : Exec Unit}
    {body' : Run Unit} (tests : Simulates program room test test')
    (simulates : Simulates program room body body') :
    Simulates program room (Exec.loop test body) (loop test' body') :=
  fun context => repeatWhile_simulates tests simulates (context.grants + 1) context

/-- Closing a block takes it off the current activation and frees what it bound. -/
theorem popScope_ok {last left : Context} (closed : Exec.popScope last = .ok () left) :
    ∃ frame callers scope outer, last.stack.frames = frame :: callers ∧
      frame.nested = scope :: outer ∧ left = { last with
        stack := { last.stack with frames := { frame with nested := outer } :: callers }
        heap := last.heap.releaseAll scope.blocks } := by
  rw [Exec.popScope_run] at closed
  -- Only a block that was opened can be closed.
  cases frames : last.stack.frames with
  | nil => simp [frames] at closed
  | cons frame callers =>
    cases nested : frame.nested with
    | nil => simp [frames, nested] at closed
    | cons scope outer =>
      simp only [frames, nested] at closed
      cases closed
      exact ⟨frame, callers, scope, outer, rfl, nested, rfl⟩

/-- Closing a block is seen as such. -/
theorem closeBlock_simulates {last left : Context} (plain : last.Plain program room)
    (closed : Exec.popScope last = .ok () left) :
    left.lexical = last.lexical.onFrame Frame.closeBlock ∧ left.Plain program room := by
  have owns := Exec.popScope_owns.keeps plain.owns
  rw [Exec.after, closed] at owns
  obtain ⟨frame, callers, scope, outer, frames, nested, rfl⟩ := popScope_ok closed
  obtain ⟨buffer, scopes⟩ := plain.frames frame (by simp [frames])
  -- The scopes that are left were there before.
  -- The heap is changed by what is freed, and its bytes are not.
  have proper : StepMachine.Frame.Plain { frame with nested := outer } := by
    refine ⟨buffer, fun inner member => scopes inner ?_⟩
    simp only [StepMachine.Frame.scopes, nested, List.cons_append, List.mem_cons] at member ⊢
    exact .inr member
  refine ⟨Context.lexical_onFrame frames ?_ (Heap.releaseAll_bytes ..),
    plain.onFrame frames proper owns⟩
  simp [StepMachine.Frame.seen, StepMachine.Frame.scopes, Frame.closeBlock, nested]

/-- A block is opened and closed with memory as without. -/
theorem inBlock_simulates {body : Exec Unit} {body' : Run Unit}
    (confined : Exec.Obeys Effect.execution body) (simulates : Simulates program room body body') :
    Simulates program room (Exec.inBlock body) (inBlock body') := by
  intro context plain
  have owns := Exec.pushScope_owns.keeps plain.owns
  have seen : context.lexical.frames = context.stack.frames.map (·.seen context.heap) := rfl
  -- The block is opened in the current activation, if there is one.
  rw [Exec.after, Exec.pushScope_run] at owns
  rw [Exec.inBlock_run, Exec.pushScope_run, inBlock_run, seen]
  cases frames : context.stack.frames with
  | nil => exact .inr ⟨_, rfl, rfl, rfl⟩
  | cons frame callers =>
    rw [frames] at owns
    dsimp only at owns
    obtain ⟨buffer, scopes⟩ := plain.frames frame (by simp [frames])
    -- The new block binds nothing, and the others are as they were.
    have proper : frame.pushScope.Plain := by
      refine ⟨buffer, fun scope member => ?_⟩
      rcases List.mem_cons.mp member with rfl | inside
      · intro binding none
        cases none
      · exact scopes scope inside
    let opened : Context := { context with
      stack := { context.stack with frames := frame.pushScope :: callers } }
    -- A block that was just opened is seen as one without names.
    have blank : opened.lexical = context.lexical.onFrame Frame.openBlock :=
      Context.lexical_onFrame frames rfl rfl
    have simulates := simulates opened (plain.onFrame frames proper owns)
    have confined := confined opened
    dsimp only [List.map_cons]
    rw [tryFinally_run, ← blank]
    -- However the body ends, the block is there to be closed.
    cases ran : body opened with
    | error reason last =>
      rw [ran] at simulates confined
      obtain ⟨left, closed, -, -⟩ := Exec.popScope_closes frames confined.1
      dsimp only
      rw [closed]
      obtain ⟨_, _, _, _, -, -, rfl⟩ := popScope_ok closed
      exact Unwinds.left (Unwinds.bind simulates _) rfl rfl
    | ok _ last =>
      rw [ran] at simulates confined
      obtain ⟨left, closed, -, -⟩ := Exec.popScope_closes frames confined.1
      obtain ⟨same, plain⟩ := closeBlock_simulates simulates.2 closed
      dsimp only
      rw [closed, bind_run, simulates.1]
      exact ⟨congrArg (EStateM.Result.ok ()) same.symm, plain⟩

/-- Leaving an activation takes it off the stack and frees what it bound. -/
theorem popFrame_ok {last left : Context} {frame : StepMachine.Frame}
    (closed : Exec.popFrame last = .ok frame left) :
    ∃ callers, last.stack.frames = frame :: callers ∧ left = { last with
      stack := { frames := callers, room := last.stack.room + 1 }
      heap := last.heap.releaseAll frame.blocks } := by
  rw [Exec.popFrame_run] at closed
  cases frames : last.stack.frames with
  | nil => simp [frames] at closed
  | cons current callers =>
    simp only [frames] at closed
    cases closed
    exact ⟨callers, rfl, rfl⟩

/-- Leaving an activation is seen as such, and yields what was returned in it. -/
theorem leave_simulates {last left : Context} {frame : StepMachine.Frame}
    (plain : last.Plain program room) (closed : Exec.popFrame last = .ok frame left) :
    (do
      let frame ← currentFrame
      modify fun state => { state with frames := state.frames.tail }
      return frame.returned.getD .void : Run Value) last.lexical = .ok frame.result left.lexical ∧
      left.Plain program (room + 1) := by
  -- What was owned inside the activation is freed with it.
  have owns := Exec.popFrame_owns.keeps plain.owns
  rw [Exec.after, closed] at owns
  obtain ⟨callers, frames, rfl⟩ := popFrame_ok closed
  have seen : last.lexical.frames = frame.seen last.heap :: callers.map (·.seen last.heap) := by
    rw [Context.lexical, frames, List.map_cons]
  refine ⟨?_, owns, plain.program, congrArg (· + 1) plain.room, plain.globals,
    fun other member => plain.frames other (by simp [frames, member])⟩
  have same := Context.lexical_bytes
    { last with stack := { frames := callers, room := last.stack.room + 1 } }
    (last.heap.releaseAll_bytes frame.blocks)
  rw [bind_run, currentFrame_run, seen, same]
  show EStateM.Result.ok frame.result
    { last.lexical with frames := last.lexical.frames.tail } = _
  rw [seen]
  rfl

/-- An activation is entered and left with memory as without. -/
theorem activation_simulates (function : String) {body : Exec Unit} {body' : Run Unit}
    (confined : Exec.Obeys Effect.execution body) (simulates : Simulates program room body body') :
    Simulates program (room + 1) (do return (← Exec.activation function none body).result)
      (activation body') := by
  intro context plain
  -- There is room for one more activation, since the theorem is about one.
  have owns := (Exec.pushFrame_owns function none).keeps plain.owns
  rw [Exec.after, Exec.pushFrame_run, plain.room] at owns
  rw [bind_run, Exec.activation_run, Exec.pushFrame_run, activation_run, plain.room]
  let opened : Context := { context with
    stack := { frames := { function, buffer := none } :: context.stack.frames, room } }
  -- An activation that was just entered is seen as one without names.
  have blank : opened.lexical =
    { context.lexical with frames := {} :: context.lexical.frames } := rfl
  have proper : opened.Plain program room := by
    refine ⟨owns, plain.program, rfl, plain.globals, fun frame member => ?_⟩
    rcases List.mem_cons.mp member with rfl | caller
    · -- A new activation binds no name yet.
      refine ⟨rfl, fun scope among => ?_⟩
      rw [List.mem_singleton.mp among]
      intro binding none
      cases none
    · exact plain.frames frame caller
  have simulates := simulates opened proper
  have confined := confined opened
  dsimp only
  rw [← blank]
  -- However the body ends, the activation is there to be left.
  cases ran : body opened with
  | error reason last =>
    rw [ran] at simulates confined
    obtain ⟨changed, left, closed, -⟩ := Exec.popFrame_closes plain.room confined.1
    dsimp only
    rw [closed]
    obtain ⟨_, -, rfl⟩ := popFrame_ok closed
    exact Unwinds.left (Unwinds.bind simulates _) rfl rfl
  | ok _ last =>
    rw [ran] at simulates confined
    obtain ⟨changed, left, closed, -⟩ := Exec.popFrame_closes plain.room confined.1
    dsimp only
    rw [closed, bind_run, simulates.1]
    exact leave_simulates simulates.2 closed

end Steps

end Lexical

end StepMachine
