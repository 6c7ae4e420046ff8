import StepMachine.Proofs.Eval.Interpreter

/-! Programs run with their failures laid to statements. A failure is laid to the first statement
that it leaves, without a look at the statements under way. It is the same statement that stands in
front of these when the program has stopped. -/

namespace StepMachine

/-- Why control leaves early, and the first statement that it leaves, once it has left one. -/
structure Blame where
  reason : Unwind
  location : Option Location := none

/-- Computations whose failures are laid to statements. -/
abbrev Traced := EStateM Blame Context

namespace Traced

/-- Takes one step, whose failure is not laid to a statement yet. -/
def step (run : Exec α) : Traced α := fun context =>
  match run context with
  | .ok result last => .ok result last
  | .error reason last => .error { reason } last

/-- Blames the failure of what stands inside of a statement, unless it is blamed already. -/
def inside (location : Location) (run : Traced Unit) : Traced Unit := fun context =>
  match run context with
  | .ok result last => .ok result last
  | .error blame last =>
    .error { blame with location := blame.location.or (some location) } last

/-- Repeats a body, for so many rounds at most. -/
def repeatWhile (test : Traced Bool) (body : Traced Unit) : (turns : Nat) → Traced Unit
  | 0 => step do throw (.suspended (← get).view)
  | turns + 1 => do
    if ← step (do return (← get).hasReturned) then return
    if ← test then
      body
      repeatWhile test body turns

/-- Programs with their failures laid to statements. -/
def interpreter : Interpreter Traced where
  step := step
  lastly body last := tryFinally' body fun _ => last
  inside := inside
  loop test body := do repeatWhile test body ((← step get).grants + 1)
  text address := step (Exec.textFrom address)

/-- Calls where so many more activations fit. -/
def calling : (room : Nat) → Calls Traced
  | 0 => fun function arguments buffer => step (Function.invoke 0 function arguments buffer)
  | room + 1 => interpreter.invoke (calling room)

/-- The latest statement under way that was not among others. -/
def latest (others active : List Location) : Option Location :=
  (active.take (active.length - others.length)).head?

/-- Nothing has come to the statements that were under way. -/
@[simp] theorem latest_self (others : List Location) : latest others others = none := by
  -- There is none of them in front of the others.
  simp [latest]

/-- What has come to the statements under way stands in front of them. -/
theorem latest_append (newer others : List Location) :
    latest others (newer ++ others) = newer.head? := by
  -- The others stand at the end, and are cut off.
  simp [latest]

/-- Of the statements that have come to a statement and others under way, the latest is the latest
that has come to both, or else that statement. -/
theorem latest_cons {location : Location} {others active : List Location}
    (under : location :: others <:+ active) :
    latest others active = (latest (location :: others) active).or (some location) := by
  obtain ⟨newer, rfl⟩ := under
  have split : newer ++ location :: others = (newer ++ [location]) ++ others := by simp
  rw [latest_append, split, latest_append]
  cases newer <;> rfl

/-- What the failure of a run on the machine is laid to: the latest of the statements under way that
were not so when it began. -/
def blamed (others : List Location) :
    EStateM.Result Unwind Context α → EStateM.Result Blame Context α
  | .ok result last => .ok result last
  | .error reason last => .error { reason, location := latest others last.active } last

/-- A computation and the same with its failures laid to statements. -/
def Blames (run' : Traced α) (run : Exec α) : Prop :=
  ∀ context : Context, run' context = blamed context.active (run context)

/-- How expressions are related to laying their failures to statements. -/
def Evaluated (α : Type) (run' : Traced α) (run : Exec α) : Prop :=
  Exec.Obeys Effect.evaluation run ∧ Blames run' run

/-- How statements are related to laying their failures to statements. -/
def Executed (α : Type) (run' : Traced α) (run : Exec α) : Prop :=
  Exec.Obeys Effect.execution run ∧ Blames run' run

/-- A computation in which no statement is left behind, even if it fails. -/
def Level (run : Exec α) : Prop :=
  ∀ context reason last, run context = .error reason last → last.active = context.active

/-- What may do no more if it fails leaves no statement behind. -/
theorem level_of_whole {run : Exec α} (obeys : Exec.Obeys Effect.evaluation.whole run) :
    Level run := by
  intro context reason last ran
  -- The effect of the run says that the same statements are under way as before.
  have obeys := obeys context
  rw [ran] at obeys
  exact obeys.2

/-- The failure of a single step is laid to nothing in it. -/
theorem Blames.step {run : Exec α} (level : Level run) : Blames (step run) run := by
  intro context
  unfold Traced.step blamed
  -- Of a step that fails, the machine lays the failure to what has come since, which is nothing.
  cases ran : run context with
  | ok result last => rfl
  | error reason last => simp only [level context reason last ran, latest_self]

/-- The failure of a sequence is laid to what the failure of its part is. -/
theorem bind_blamed {run' : Traced α} {run : Exec α} {next' : α → Traced β} {next : α → Exec β}
    {context : Context} {others : List Location}
    (first : run' context = blamed others (run context))
    (rest : ∀ result middle, run context = .ok result middle →
      next' result middle = blamed others (next result middle)) :
    (run' >>= next') context = blamed others ((run >>= next) context) := by
  rw [bind_run, bind_run, first]
  cases ran : run context with
  | error reason last => rfl
  | ok result middle => exact rest result middle ran

/-- In a sequence the second part starts with the statements under way that were so before. -/
theorem Blames.bind {run' : Traced α} {run : Exec α} {next' : α → Traced β} {next : α → Exec β}
    (obeys : Exec.Obeys Effect.execution run) (first : Blames run' run)
    (rest : ∀ result, Blames (next' result) (next result)) :
    Blames (run' >>= next') (run >>= next) := by
  intro context
  refine bind_blamed (first context) fun result middle ran => ?_
  have obeys := obeys context
  rw [ran] at obeys
  have same : middle.active = context.active := obeys.2
  rw [rest result middle, same]

/-- What comes last does not change what a failure is laid to, if it succeeds and leaves the
statements under way alone. -/
theorem lastly_blamed {body' : Traced α} {body : Exec α} {last : Exec β} {context : Context}
    {others : List Location} (first : body' context = blamed others (body context))
    (closes : ∃ other left, last (stateOf (body context)) = .ok other left ∧
      left.active = (stateOf (body context)).active) :
    (tryFinally' body' fun _ => step last) context =
      blamed others ((tryFinally' body fun _ => last) context) := by
  obtain ⟨other, left, closed, same⟩ := closes
  rw [tryFinally'_run, tryFinally'_run, first]
  -- How the body ends is passed on, and what comes last succeeds in the state after it.
  cases ran : body context with
  | ok result middle =>
    rw [ran] at closed
    simp only [blamed, step, show last middle = .ok other left from closed]
  | error reason middle =>
    rw [ran] at closed same
    simp only [blamed, step, show last middle = .ok other left from closed,
      show left.active = middle.active from same]

/-- What stands under `finally` does not change it either. -/
theorem underFinally_blamed {body' : Traced α} {body : Exec α} {last : Exec β} {context : Context}
    {others : List Location} (first : body' context = blamed others (body context))
    (closes : ∃ other left, last (stateOf (body context)) = .ok other left ∧
      left.active = (stateOf (body context)).active) :
    (do return (← tryFinally' body' fun _ => step last).1 : Traced α) context =
      blamed others ((tryFinally body last : Exec α) context) := by
  -- The result of what comes last is dropped.
  have both := lastly_blamed first closes
  have same : (tryFinally body last : Exec α) context =
    (do return (← tryFinally' body fun _ => last).1 : Exec α) context := rfl
  rw [same, bind_run, bind_run, both]
  cases (tryFinally' body fun _ => last : Exec (α × β)) context <;> rfl

/-- Dropping temporary objects does not change what a failure is laid to. -/
theorem Blames.alone {run' : Traced α} {run : Exec α} (first : Blames run' run) :
    Blames (interpreter.alone run') (Exec.alone run) := by
  intro context
  exact underFinally_blamed (first context)
    ⟨(), _, Exec.releaseTemporaries_run _ _, rfl⟩

/-- A statement lays to itself what fails inside of it, unless that is laid to one already. -/
theorem statement_run (location : Location) (effect : Traced Unit) (context : Context) :
    interpreter.statement location effect context =
      if context.hasReturned then .ok () context
      else
        match interpreter.alone (do interpreter.step (Exec.enter location); effect)
            { context with active := location :: context.active } with
        | .ok _ last => .ok () { last with active := last.active.tail }
        | .error blame last =>
          .error { blame with location := blame.location.or (some location) } last := by
  have looked : interpreter.step get context = .ok context context := rfl
  -- A statement of a function that has returned is not entered at all.
  simp only [Interpreter.statement, bind_run, looked]
  cases context.hasReturned with
  | true => rfl
  | false =>
    -- The statement is put under way, and what is inside is laid to it.
    have put : interpreter.step (modify fun context =>
        { context with active := location :: context.active }) context =
      .ok () { context with active := location :: context.active } := rfl
    have unfolds (run : Traced Unit) (begun : Context) : interpreter.inside location run begun =
      inside location run begun := rfl
    simp only [Bool.false_eq_true, if_false, bind_run, put, unfolds, inside]
    -- Only after a result is the statement taken off.
    cases interpreter.alone (do interpreter.step (Exec.enter location); effect)
      { context with active := location :: context.active } <;> rfl

/-- A failure that leaves a statement is laid to it, unless one inside was left before. -/
theorem Blames.statement (location : Location) {effect' : Traced Unit} {effect : Exec Unit}
    (obeys : Exec.Obeys Effect.execution effect) (first : Blames effect' effect) :
    Blames (interpreter.statement location effect') (Exec.statement location effect) := by
  -- Being let in leaves the statements under way alone, even where it suspends the program.
  have entered : Blames (do interpreter.step (Exec.enter location); effect')
      (do Exec.enter location; effect) := by
    refine Blames.bind (Exec.confined_of_undisturbed (Exec.enter_undisturbed location))
      (Blames.step fun context reason last ran => ?_) fun _ => first
    -- Without a grant the program waits, with nothing put under way.
    cases allowed : context.grants with
    | zero =>
      rw [Exec.enter_without allowed] at ran
      cases ran
      rfl
    | succ grants =>
      rw [Exec.enter_with allowed] at ran
      cases ran
  have whole : Exec.Obeys Effect.execution (do Exec.enter location; effect) :=
    Exec.Obeys.bind (Exec.confined_of_undisturbed (Exec.enter_undisturbed location)) fun _ => obeys
  intro context
  -- A statement that is skipped fails in neither way.
  rw [statement_run, Exec.statement_run]
  cases context.hasReturned with
  | true => rfl
  | false =>
    -- Inside, the statement is the first of those under way.
    simp only [Bool.false_eq_true, if_false]
    have obeys := whole { context with active := location :: context.active }
    rw [entered.alone, Exec.alone_run]
    -- What failed inside is laid to a statement in it, or to this one.
    cases ran : (do Exec.enter location; effect : Exec Unit)
        { context with active := location :: context.active } with
    | ok _ last => rfl
    | error reason last =>
      rw [ran] at obeys
      have under : location :: context.active <:+ last.active := obeys.2
      simp only [blamed, Context.dropTemporaries, latest_cons under]

/-- Opening a block leaves no statement behind. -/
theorem pushScope_level : Level Exec.pushScope := by
  intro context reason last ran
  rw [Exec.pushScope_run] at ran
  -- Without an activation no block is opened.
  cases frames : context.stack.frames with
  | nil =>
    rw [frames] at ran
    cases ran
    rfl
  | cons frame callers =>
    rw [frames] at ran
    cases ran

/-- Entering an activation leaves no statement behind. -/
theorem pushFrame_level (function : String) (buffer : Option Block) :
    Level (Exec.pushFrame function buffer) := by
  intro context reason last ran
  -- Without room nothing is entered.
  rw [Exec.pushFrame_run] at ran
  cases left : context.stack.room with
  | zero =>
    rw [left] at ran
    cases ran
    rfl
  | succ room =>
    rw [left] at ran
    cases ran

/-- A block does not change what a failure in it is laid to. -/
theorem Blames.inBlock {body' : Traced Unit} {body : Exec Unit}
    (obeys : Exec.Obeys Effect.execution body) (first : Blames body' body) :
    Blames (interpreter.inBlock body') (Exec.inBlock body) := by
  intro context
  -- Opening the block fails at once, or there is an activation.
  refine bind_blamed (Blames.step pushScope_level context) fun _ opened ran => ?_
  rw [Exec.pushScope_run] at ran
  cases frames : context.stack.frames with
  | nil =>
    rw [frames] at ran
    cases ran
  | cons frame callers =>
    rw [frames] at ran
    cases ran
    -- However the body ends, its block is still there to be closed.
    have obeys := obeys { context with
      stack := { context.stack with frames := frame.pushScope :: callers } }
    refine underFinally_blamed (first _) ?_
    cases ran : body { context with
        stack := { context.stack with frames := frame.pushScope :: callers } } with
    -- Either end leaves the statements under way as the body left them.
    | ok _ last | error _ last =>
      rw [ran] at obeys
      obtain ⟨left, closed, -, same⟩ := Exec.popScope_closes frames obeys.1
      exact ⟨(), left, closed, same⟩

/-- An activation does not change what a failure in it is laid to. -/
theorem Blames.activation (function : String) (buffer : Option Block) {body' : Traced Unit}
    {body : Exec Unit} (obeys : Exec.Obeys Effect.execution body) (first : Blames body' body) :
    Blames (interpreter.activation function buffer body')
      (Exec.activation function buffer body) := by
  intro context
  -- The activation is entered at once, or the stack is full.
  refine bind_blamed (Blames.step (pushFrame_level function buffer) context) fun _ opened ran => ?_
  rw [Exec.pushFrame_run] at ran
  cases left : context.stack.room with
  | zero =>
    rw [left] at ran
    cases ran
  | succ room =>
    rw [left] at ran
    cases ran
    have obeys := obeys { context with
      stack := { frames := { function, buffer } :: context.stack.frames, room } }
    refine bind_blamed (lastly_blamed (first _) ?_) fun results last _ => rfl
    -- However the body ends, its activation is on top and is left.
    cases ran : body { context with
        stack := { frames := { function, buffer } :: context.stack.frames, room } } with
    | ok _ last | error _ last =>
      rw [ran] at obeys
      obtain ⟨frame, after, closed, -, -, same⟩ := Exec.popFrame_closes left obeys.1
      exact ⟨frame, after, closed, same⟩

/-- A loop does not change what a failure in it is laid to. -/
theorem Blames.loop {test' : Traced Bool} {test : Exec Bool} {body' : Traced Unit}
    {body : Exec Unit} (tests : Executed Bool test' test) (rounds : Executed Unit body' body) :
    Blames (interpreter.loop test' body') (Exec.loop test body) := by
  have turns (turns : Nat) :
      Blames (repeatWhile test' body' turns) (Exec.repeatWhile test body turns) := by
    -- Beyond the last turn both are suspended in the same state.
    induction turns with
    | zero =>
      -- No turn is left.
      refine Blames.step fun context reason last ran => ?_
      cases ran
      rfl
    | succ turns ih =>
      -- One round is a look at the state, a test and the body.
      have round : Blames (do if ← test' then body'; repeatWhile test' body' turns)
          (do if ← test then body; Exec.repeatWhile test body turns) := by
        refine Blames.bind tests.1 tests.2 fun proceed => ?_
        cases proceed with
        | true => exact Blames.bind rounds.1 rounds.2 fun _ => ih
        | false => exact fun _ => rfl
      intro context
      -- A function that has returned leaves the loop at its next turn.
      rw [repeatWhile, Exec.repeatWhile, bind_run, bind_run]
      have looked : Traced.step (do return (← get).hasReturned) context =
        .ok context.hasReturned context := rfl
      rw [looked, Exec.get_run]
      cases returned : context.hasReturned with
      | true =>
        simp only [returned, if_true]
        rfl
      | false =>
        simp only [returned, Bool.false_eq_true, if_false]
        exact round context
  -- The turns are counted from the grants that are there at the beginning.
  intro context
  exact turns (context.grants + 1) context

/-- A declaration leaves no statement behind. -/
theorem declare_level (name : String) (type : CType) (init : Option Value) :
    Level (Exec.declare name type init) := by
  intro context reason last ran
  -- Only a declaration that fails is of interest, and it has changed nothing else.
  rw [Exec.declare_run] at ran
  cases made : Variable.create type init context.heap with
  | ok object heap =>
    rw [made] at ran
    cases ran
  | error cause heap =>
    rw [made] at ran
    cases ran
    rfl

/-- Recording a result leaves no statement behind. -/
theorem markReturned_level (value : Value) : Level (Exec.markReturned value) := by
  intro context reason last ran
  rw [Exec.markReturned_run] at ran
  -- Nothing is marked without an activation, or where something was returned before.
  cases frames : context.stack.frames with
  | nil =>
    rw [frames] at ran
    cases ran
    rfl
  | cons frame callers =>
    simp only [frames] at ran
    split at ran
    · cases ran
      rfl
    · cases ran

/-- No single step of an expression leaves a statement behind. -/
theorem evaluates_level : Evaluates (fun _ => Exec.Obeys Effect.evaluation.whole) where
  pure := Exec.Obeys.pure
  bind := Exec.Obeys.bind
  inspect look _ := Exec.Obeys.bind Exec.Obeys.get fun context => Exec.Obeys.lift (look context)
  store _ _ _ := Exec.edit_undisturbed _
  returnBuffer := Exec.returnBuffer_undisturbed
  print _ := Exec.Obeys.modify fun _ =>
    Exec.evaluation_of_eq rfl rfl (List.prefix_refl _) rfl rfl
  mallocOrNull := Exec.mallocOrNull_undisturbed
  free := Exec.free_undisturbed

/-- Moving a structure out leaves no statement behind. -/
theorem handOver_level (value : Value) :
    Exec.Obeys Effect.evaluation.whole (Exec.handOver value) := by
  -- A structure is copied to the buffer, and no other value is touched.
  refine Exec.Obeys.bind Exec.Obeys.get fun context => ?_
  split
  · exact Exec.Obeys.bind (Exec.edit_undisturbed _) fun _ => Exec.Obeys.pure _
  · exact Exec.Obeys.pure _

/-- Laying failures to statements is tied to running a program. -/
theorem interprets :
    Interprets interpreter (fun _ => Exec.Obeys Effect.evaluation.whole) Evaluated Executed where
  single := evaluates_level
  handOver := handOver_level
  -- A single step fails under the statements that are under way, which is all that is asked.
  step obeys := ⟨Exec.Obeys.of_whole obeys, Blames.step (level_of_whole obeys)⟩
  pure result := ⟨Exec.Obeys.pure result, fun _ => rfl⟩
  bind first rest := ⟨Exec.Obeys.bind first.1 fun result => (rest result).1,
    Blames.bind (Exec.confined_of_undisturbed first.1) first.2 fun result => (rest result).2⟩
  text address :=
    have obeys := evaluates_level.textFrom address
    ⟨Exec.Obeys.of_whole obeys, Blames.step (level_of_whole obeys)⟩
  alone related := ⟨Exec.alone_undisturbed related.1, related.2.alone⟩
  weaken related := ⟨Exec.confined_of_undisturbed related.1, related.2⟩
  seq first rest := ⟨Exec.Obeys.bind first.1 fun result => (rest result).1,
    Blames.bind first.1 first.2 fun result => (rest result).2⟩
  declare name type init :=
    ⟨Exec.declare_confined name type init, Blames.step (declare_level name type init)⟩
  markReturned value :=
    ⟨Exec.markReturned_confined value, Blames.step (markReturned_level value)⟩
  loadString literal := ⟨Exec.executes_confined.loadString literal,
    Blames.step (level_of_whole (Exec.loadString_undisturbed literal))⟩
  inBlock related := ⟨Exec.inBlock_confined related.1, related.2.inBlock related.1⟩
  statement location _ _ related :=
    ⟨Exec.statement_confined location related.1, related.2.statement location related.1⟩
  -- The rounds of a loop are statements of their own.
  loop location _ _ _ _ tests related :=
    ⟨Exec.executes_confined.loop location tests.1 related.1,
      Blames.loop ⟨Exec.confined_of_undisturbed tests.1, tests.2⟩
        ⟨Exec.statement_confined location related.1, related.2.statement location related.1⟩⟩

/-- A call that does not fit leaves no statement behind. -/
theorem invoke_full_level (function : Function) (arguments : List Value) (buffer : Option Block) :
    Exec.Obeys Effect.evaluation.whole (Function.invoke 0 function arguments buffer) := by
  -- Beyond the check of the arguments it fails for want of room.
  rw [Function.invoke]
  refine Exec.Obeys.bind ?_ fun _ => Exec.Obeys.bind Exec.Obeys.get fun context =>
    Exec.Obeys.throw _
  unfold Function.checkCount
  split
  · exact Exec.Obeys.pure ()
  · exact Exec.Obeys.throw _

/-- Calls are related to laying their failures to statements, however many more of them fit. -/
theorem calling_evaluated (room : Nat) (function : Function) (arguments : List Value)
    (buffer : Option Block) :
    Evaluated Value (calling room function arguments buffer)
      (Function.invoke room function arguments buffer) := by
  -- The body of a function calls others with one place less, so the induction is on the room.
  induction room generalizing function arguments buffer with
  | zero => exact interprets.step (invoke_full_level function arguments buffer)
  | succ room ih =>
    exact interprets.invoke interprets
      (fun function buffer _ _ related => ⟨Exec.activation_undisturbed function buffer related.1,
        related.2.activation function buffer related.1⟩)
      ih function arguments buffer

/-- What a whole program fails for is laid to the innermost of the statements under way. -/
theorem runProgram_blamed (entryPoint : String) (context : Context) :
    interpreter.runProgram (calling context.stack.room) entryPoint context =
      blamed context.active (Exec.runProgram entryPoint context) := by
  -- The program runs with the room that is left in the state it starts from.
  rw [Exec.runProgram_eq]
  exact (interprets.programBy (calling_evaluated context.stack.room) entryPoint).2 context

end Traced

end StepMachine
