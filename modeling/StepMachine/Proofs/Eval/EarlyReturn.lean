import StepMachine.Proofs.Eval.Pacing
import StepMachine.Proofs.Heap.Bytes
import StepMachine.Proofs.Stack.Discipline

/-! A return that only marks the current activation does what a return does that leaves the function
at once. -/

namespace StepMachine

/-- Where control goes after a statement: to the next one, or out of the function with a value. -/
inductive Flow where
  | next
  | returned (value : Value)

namespace Early

/-- Runs the effect of a statement. Nothing is asked about an earlier return, since after one no
statement is reached. -/
def statement (location : Location) (effect : Exec Flow) : Exec Flow := do
  modify fun context => { context with active := location :: context.active }
  -- Where control goes is known only after the temporary objects are gone.
  let flow ← Exec.alone do
    Exec.enter location
    effect
  modify fun context => { context with active := context.active.tail }
  return flow

/-- Runs a body in a block of the current function, which is closed on the way out as well. -/
def inBlock (body : Exec Flow) : Exec Flow := do
  Exec.pushScope
  try body
  finally Exec.popScope

/-- Repeats a body for `turns` rounds at most; a return ends the loop without another test. -/
def repeatWhile (test : Exec Bool) (body : Exec Flow) : (turns : Nat) → Exec Flow
  -- A loop with more turns than grants never comes to this.
  | 0 => do throw (.suspended (← get).view)
  | turns + 1 => do
    if ← test then
      match ← body with
      | .next => repeatWhile test body turns
      | .returned value => return .returned value
    else return .next

/-- Repeats a body while a test holds and nothing is returned. -/
def loop (test : Exec Bool) (body : Exec Flow) : Exec Flow := do
  repeatWhile test body ((← get).grants + 1)

/-- Runs a body in an activation of a function, which is left however the body ends. -/
def activation (function : String) (buffer : Option Block) (body : Exec Flow) : Exec Flow := do
  Exec.pushFrame function buffer
  tryFinally body Exec.popFrame

mutual

/-- Runs a statement, and tells where control goes next. -/
def exec (invoke : Invoke) : Stmt → Exec Flow
  | .declare name type init location => statement location do
    match init with
    | some value => discard (Exec.declare name type (some (← value.eval invoke)))
    | none => discard (Exec.declare name type none)
    return .next
  | .expression value location => statement location do
    discard (value.eval invoke)
    return .next
  | .block body location => statement location do
    inBlock (execAll invoke body)
  | .branch condition yes no location => statement location do
    if ← Exec.test invoke condition then exec invoke yes
    else match no with
      | some no => exec invoke no
      | none => return .next
  | .loop condition body location => statement location do
    loop (Exec.alone (Exec.test invoke condition)) (exec invoke body)
  -- The value leaves at once; nothing is written to the activation.
  | .ret value location => statement location do
    match value with
    | some value => return .returned (← Exec.handOver (← value.eval invoke))
    | none => return .returned .void

/-- Runs statements in order, up to the first that returns. -/
def execAll (invoke : Invoke) : List Stmt → Exec Flow
  | [] => return .next
  | first :: rest => do
    match ← exec invoke first with
    | .next => execAll invoke rest
    | .returned value => return .returned value

end

/-- What a call hands to its caller, once control has left the function. -/
def yielded (type : CType) : Flow → Exec Value
  | .next | .returned .void => return .void
  | .returned value => value.coerce type

/-- Runs a function on argument values where `room` more activations fit. -/
def invoke : (room : Nat) → Invoke
  | 0, function, arguments, _ => do
    function.checkCount arguments
    Exec.fail (.stack (.overflow (← get).stack.limit))
  | room + 1, function, arguments, buffer => do
    function.checkCount arguments
    let flow ← activation function.name buffer do
      Function.bindAll function.parameters arguments
      execAll (invoke room) function.body
    yielded function.result flow

end Early

namespace Context

/-- The program is in a function that has not returned. -/
def Running (context : Context) : Prop :=
  ∃ frame callers, context.stack.frames = frame :: callers ∧ frame.returned = none

/-- The state in which the current function has returned a value. -/
def marked (context : Context) (value : Value) : Context :=
  match context.stack.frames with
  | [] => context
  | frame :: callers => { context with
      stack := { context.stack with frames := { frame with returned := some value } :: callers } }

namespace Running

/-- Nothing has been returned. -/
theorem hasReturned {context : Context} (running : context.Running) :
    context.hasReturned = false := by
  -- There is a current activation, and nothing is recorded there.
  obtain ⟨frame, callers, frames, returned⟩ := running
  simp [Context.hasReturned, CallStack.current?, frames, Frame.hasReturned, returned]

/-- Whether the program is running depends on the stack only. -/
theorem of_stack {before after : Context} (running : before.Running)
    (same : after.stack = before.stack) : after.Running := by
  unfold Running
  rw [same]
  exact running

/-- A mark is what a return records. -/
theorem markReturned {context : Context} (running : context.Running) (value : Value) :
    Exec.markReturned value context = .ok () (context.marked value) := by
  -- The return is the first one, so it is not refused.
  obtain ⟨frame, callers, frames, returned⟩ := running
  simp [Exec.markReturned_run, marked, frames, Frame.hasReturned, returned]

/-- A mark is seen. -/
theorem marked_hasReturned {context : Context} (running : context.Running) (value : Value) :
    (context.marked value).hasReturned = true := by
  -- The mark is made in the current activation, which is the one that is asked.
  obtain ⟨frame, callers, frames, returned⟩ := running
  simp [marked, Context.hasReturned, CallStack.current?, frames, Frame.hasReturned]

end Running

/-- A mark does not depend on the temporary objects nor on the statements under way. -/
theorem marked_dropTemporaries (context : Context) (value : Value) (mark : Nat) :
    (context.marked value).dropTemporaries mark = (context.dropTemporaries mark).marked value := by
  -- The mark changes the stack, and dropping changes the other two parts.
  simp only [marked, dropTemporaries]
  cases context.stack.frames <;> rfl

/-- A mark and the list of statements under way are different parts of the state. -/
theorem marked_active (context : Context) (value : Value) (active : List Location) :
    { context.marked value with active } = { context with active }.marked value := by
  simp only [marked]
  cases context.stack.frames <;> rfl

/-- A mark leaves the statements under way as they are. -/
theorem marked_activeTail (context : Context) (value : Value) :
    (context.marked value).active = context.active := by
  simp only [marked]
  cases context.stack.frames <;> rfl

end Context

namespace Exec

/-- What is left of an outcome that tells where control goes, once a return is only marked. -/
def settle : EStateM.Result Unwind Context Flow → EStateM.Result Unwind Context Unit
  | .ok .next last => .ok () last
  | .ok (.returned value) last => .ok () (last.marked value)
  | .error reason last => .error reason last

/-- A computation after whose result the function has still not returned. -/
def Ongoing (run : Exec α) : Prop :=
  ∀ context result last, context.Running → run context = .ok result last → last.Running

namespace Ongoing

/-- What disturbs nothing does not return. -/
theorem of_evaluation {run : Exec α} (obeys : Obeys Effect.evaluation run) : Ongoing run := by
  intro context result last running ran
  have obeys := obeys context
  rw [ran] at obeys
  exact running.of_stack obeys.1.stack

/-- Neither part of a sequence may return. -/
theorem bind {run : Exec α} {next : α → Exec β} (first : Ongoing run)
    (rest : ∀ result, Ongoing (next result)) : Ongoing (run >>= next) := by
  intro context result last running ended
  rw [bind_run] at ended
  -- The sequence has yielded a result, so both of its parts have.
  cases ran : run context with
  | error reason middle =>
    rw [ran] at ended
    cases ended
  | ok value middle =>
    rw [ran] at ended
    exact rest value middle result last (first context value middle running ran) ended

/-- To yield a result is not to return. -/
theorem pure (result : α) : Ongoing (pure result) := by
  intro context other last running ran
  cases ran
  exact running

/-- A result that is dropped is no return either. -/
theorem discard {run : Exec α} (ongoing : Ongoing run) : Ongoing (discard run) := by
  rw [discard_eq]
  exact bind ongoing fun _ => pure ()

/-- A change that leaves the stack alone does not return. -/
theorem modify {change : Context → Context}
    (same : ∀ context, (change context).stack = context.stack) : Ongoing (modify change) := by
  intro context _ last running ran
  cases ran
  exact running.of_stack (same context)

/-- What comes last may not return either. -/
theorem tryFinally {body : Exec α} {last : Exec β} (first : Ongoing body) (rest : Ongoing last) :
    Ongoing (tryFinally body last) := by
  intro context result final running ended
  rw [tryFinally_run] at ended
  cases ran : body context with
  | error reason middle =>
    -- A failure of the body is the outcome, whatever comes last.
    rw [ran] at ended
    cases left : last middle <;> simp [left] at ended
  | ok value middle =>
    rw [ran] at ended
    -- The result of the body is kept only if what comes last succeeds.
    cases left : last middle with
    | error reason after => simp [left] at ended
    | ok other after =>
      simp only [left] at ended
      cases ended
      exact rest middle other final (first context result middle running ran) left

/-- The temporary objects of a computation have nothing to do with a return. -/
theorem alone {run : Exec α} (ongoing : Ongoing run) : Ongoing (alone run) := by
  -- Where the temporary objects begin is only read.
  have mark : Ongoing temporaryMark := of_evaluation (Obeys.bind Obeys.get fun _ => Obeys.pure _)
  refine bind mark fun mark => tryFinally ongoing ?_
  intro context _ last running ran
  rw [releaseTemporaries_run] at ran
  cases ran
  exact running.of_stack rfl

/-- A declaration does not return. -/
theorem declare (name : String) (type : CType) (init : Option Value) :
    Ongoing (declare name type init) := by
  rintro context address last ⟨frame, callers, frames, returned⟩ ran
  rw [declare_run] at ran
  -- Only a declaration that succeeds goes on.
  cases made : Variable.create type init context.heap with
  | error cause heap =>
    rw [made] at ran
    cases ran
  | ok object heap =>
    rw [made] at ran
    cases ran
    refine ⟨frame.setCurrent (context.currentScope.bind name object), callers, ?_, ?_⟩
    · simp [Context.setCurrentScope, CallStack.current?, CallStack.setCurrent, frames]
    · -- Neither replacement of a scope touches what was returned.
      unfold Frame.setCurrent
      cases frame.nested <;> exact returned

/-- Binding parameters does not return. -/
theorem bindAll (parameters : List (String × CType)) (values : List Value) :
    Ongoing (Function.bindAll parameters values) := by
  -- One name is declared after the other, as long as there are both parameters and values.
  induction parameters generalizing values with
  | nil =>
    rw [Function.bindAll.eq_2 _ _ (by simp)]
    exact pure ()
  | cons parameter parameters ih =>
    cases values with
    | nil =>
      rw [Function.bindAll.eq_2 _ _ (by simp)]
      exact pure ()
    | cons value values =>
      rw [Function.bindAll]
      exact bind (discard (declare parameter.1 parameter.2 (some value))) fun _ => ih values

/-- Opening a block does not return. -/
theorem pushScope : Ongoing pushScope := by
  -- The new block comes in front of the others, and what was returned stays.
  rintro context _ opened ⟨frame, callers, frames, returned⟩ pushed
  rw [pushScope_run, frames] at pushed
  cases pushed
  exact ⟨frame.pushScope, callers, rfl, returned⟩

/-- Closing a block does not return. -/
theorem popScope : Ongoing popScope := by
  -- There is a block to be closed, as otherwise closing it would have failed.
  rintro context _ left ⟨frame, callers, frames, returned⟩ closed
  rw [popScope_run, frames] at closed
  -- The innermost scope is taken off, and the mark of a return is left.
  cases nested : frame.nested with
  | nil =>
    simp only [nested] at closed
    cases closed
  | cons scope outer =>
    simp only [nested] at closed
    cases closed
    exact ⟨{ frame with nested := outer }, callers, rfl, returned⟩

end Ongoing

/-- In a function that has not returned, a computation that marks returns does what one does that
leaves at once, which itself never marks any. -/
structure Mirrors (run : Exec Unit) (early : Exec Flow) : Prop where
  same : ∀ context, context.Running → run context = settle (early context)
  running : Ongoing early

namespace Mirrors

/-- A return marks what the other one hands out. -/
theorem ret (value : Value) : Mirrors (markReturned value) (pure (.returned value)) where
  same _ running := running.markReturned value
  running := .pure _

/-- What does not return leads to the next statement. -/
theorem goOn {run : Exec Unit} (ongoing : Ongoing run) :
    Mirrors run (run >>= fun _ => pure .next) where
  same context _ := by
    rw [bind_run]
    -- A failure is the same failure on both sides.
    cases run context <;> rfl
  running := .bind ongoing fun _ => .pure _

/-- What does not return may come first. -/
theorem behind {first : Exec α} (ongoing : Ongoing first) {run : α → Exec Unit}
    {early : α → Exec Flow} (rest : ∀ result, Mirrors (run result) (early result)) :
    Mirrors (first >>= run) (first >>= early) where
  same context running := by
    -- The first part ends alike on both sides, and only if it yields a result does more happen.
    rw [bind_run, bind_run]
    cases ran : first context with
    | ok result middle =>
      exact (rest result).same middle (ongoing context result middle running ran)
    | error reason middle => rfl
  running := .bind ongoing fun result => (rest result).running

/-- What disturbs nothing may come first. -/
theorem afterEvaluation {first : Exec α} (obeys : Obeys Effect.evaluation first)
    {run : α → Exec Unit} {early : α → Exec Flow}
    (rest : ∀ result, Mirrors (run result) (early result)) :
    Mirrors (first >>= run) (first >>= early) :=
  behind (.of_evaluation obeys) rest

/-- What follows is not looked at after a return. -/
theorem seq {first rest : Exec Unit} {early later : Exec Flow} (one : Mirrors first early)
    (two : Mirrors rest later)
    (skipped : ∀ context, context.hasReturned = true → rest context = .ok () context) :
    Mirrors (first >>= fun _ => rest)
      (early >>= fun flow => match flow with
        | .next => later
        | .returned value => pure (.returned value)) where
  same context running := by
    rw [bind_run, bind_run, one.same context running]
    cases ran : early context with
    | error reason middle => rfl
    | ok flow middle =>
      have still := one.running context flow middle running ran
      cases flow with
      | next => exact two.same middle still
      -- After the mark the rest is skipped, which is what leaving at once does.
      | returned value => exact skipped _ (still.marked_hasReturned value)
  running := by
    -- What follows runs only if the first part went on.
    refine .bind one.running fun flow => ?_
    cases flow with
    | next => exact two.running
    | returned value => exact .pure _

end Mirrors

/-- What a statement does that leaves the function at once, apart from asking whether the function
has returned. -/
theorem early_statement_run (location : Location) (effect : Exec Flow) (context : Context) :
    Early.statement location effect context =
      let begun := { context with active := location :: context.active }
      match (enter location >>= fun _ => effect) begun with
      | .ok flow last =>
        let last := last.dropTemporaries context.temporaries.size
        .ok flow { last with active := last.active.tail }
      | .error reason last =>
        .error reason (last.dropTemporaries context.temporaries.size) := by
  simp only [Early.statement, bind_run, modify_run, alone_run]
  -- Being let in may suspend the program before the effect begins.
  cases enter location { context with active := location :: context.active } with
  | error reason last => rfl
  | ok _ last =>
    simp only
    cases effect last <;> rfl

/-- A statement mirrors one that leaves at once if its effect does. -/
theorem Mirrors.statement {effect : Exec Unit} {early : Exec Flow} (mirrors : Mirrors effect early)
    (location : Location) :
    Mirrors (statement location effect) (Early.statement location early) := by
  -- Both are let in the same way, and then the two effects run.
  have inside : Mirrors (enter location >>= fun _ => effect) (enter location >>= fun _ => early) :=
    Mirrors.afterEvaluation (enter_undisturbed location) fun _ => mirrors
  -- Putting the statement under way leaves the stack alone.
  have begin {context : Context} (running : context.Running) :
      ({ context with active := location :: context.active } : Context).Running :=
    running.of_stack rfl
  have ongoing : Ongoing (Early.statement location early) :=
    .bind (.modify fun _ => rfl) fun _ => .bind inside.running.alone fun _ =>
      .bind (.modify fun _ => rfl) fun _ => .pure _
  refine ⟨fun context running => ?_, ongoing⟩
  rw [statement_run, early_statement_run, running.hasReturned]
  simp only [Bool.false_eq_true, if_false]
  rw [inside.same _ (begin running)]
  cases (enter location >>= fun _ => early) _ with
  | error reason last => rfl
  | ok flow last =>
    cases flow with
    | next => rfl
    | returned value =>
      -- The mark is made before the temporary objects go, and stays.
      simp only [settle, Context.marked_dropTemporaries, Context.marked_activeTail,
        Context.marked_active]

/-- A block that is closed after a mark could have been closed before it. -/
theorem popScope_marked {context left : Context} (running : context.Running) {value : Value}
    (closed : popScope (context.marked value) = .ok () left) :
    ∃ before, popScope context = .ok () before ∧ left = before.marked value := by
  obtain ⟨frame, callers, frames, returned⟩ := running
  -- The mark and the block lie in the same activation and do not meet.
  have unmarked := popScope_run context
  simp only [frames] at unmarked
  simp only [popScope_run, Context.marked, frames] at closed
  cases nested : frame.nested with
  | nil =>
    simp only [nested] at closed
    -- Both runs close the same scope.
    cases closed
  | cons scope outer =>
    simp only [nested] at closed unmarked
    cases closed
    exact ⟨_, unmarked, rfl⟩

/-- A block is opened, and closed again however its body ends. -/
theorem early_inBlock_run (body : Exec Flow) (context : Context) :
    Early.inBlock body context = match pushScope context with
      | .error reason last => .error reason last
      | .ok _ opened => tryFinally body popScope opened := by
  simp only [Early.inBlock, bind_run]
  cases pushScope context <;> rfl

/-- A block mirrors one that is left at once if its body does. -/
theorem Mirrors.inBlock {body : Exec Unit} {early : Exec Flow} (mirrors : Mirrors body early)
    (obeys : Obeys Effect.execution body) : Mirrors (inBlock body) (Early.inBlock early) := by
  refine ⟨fun context running => ?_,
    .bind .pushScope fun _ => .tryFinally mirrors.running .popScope⟩
  obtain ⟨frame, callers, frames, returned⟩ := running
  -- Inside the block the function has not returned either.
  let opened : Context := { context with
    stack := { context.stack with frames := frame.pushScope :: callers } }
  have inside : opened.Running := ⟨frame.pushScope, callers, rfl, returned⟩
  have same := mirrors.same opened inside
  have obeys := obeys opened
  -- Both sides open the block, and close it however the body ends.
  rw [inBlock_run, early_inBlock_run, pushScope_run, frames]
  simp only [tryFinally_run]
  rw [same]
  cases ran : early opened with
  | error reason last =>
    simp only [settle]
    cases popScope last <;> rfl
  | ok flow last =>
    cases flow with
    | next =>
      simp only [settle]
      cases popScope last <;> rfl
    | returned value =>
      -- The block can be closed after the mark, since a statement leaves it open.
      rw [same, ran] at obeys
      obtain ⟨left, closed, -, -⟩ := popScope_closes frames obeys.1
      have still := mirrors.running opened _ last inside ran
      obtain ⟨before, unmarked, rfl⟩ := popScope_marked still closed
      simp only [settle, closed, unmarked]

/-- A loop in which neither the test nor the body marks a return marks none. -/
theorem Ongoing.repeatWhile {test : Exec Bool} {body : Exec Flow} (tests : Ongoing test)
    (ongoing : Ongoing body) (turns : Nat) : Ongoing (Early.repeatWhile test body turns) := by
  -- A round tests, runs the body and goes on with one turn less.
  induction turns with
  | zero => exact .of_evaluation (Obeys.bind Obeys.get fun _ => Obeys.throw _)
  | succ turns ih =>
    refine .bind tests fun proceed => ?_
    split
    · refine .bind ongoing fun flow => ?_
      cases flow with
      | next => exact ih
      | returned value => exact .pure _
    · exact .pure _

/-- A loop mirrors one that a return ends at once, if its body is a statement that mirrors. -/
theorem Mirrors.loop {test : Exec Bool} (tests : Obeys Effect.evaluation test)
    (paced : Obeys Effect.pacing test) {location : Location} {effect : Exec Unit}
    (spends : Obeys Effect.pacing effect) {early : Exec Flow}
    (mirrors : Mirrors (Exec.statement location effect) early) :
    Mirrors (loop test (Exec.statement location effect)) (Early.loop test early) := by
  -- A round uses up a grant, so that a loop with more turns than grants always has a turn left.
  have rounds (turns : Nat) : ∀ context : Context, context.Running → context.grants < turns →
      repeatWhile test (Exec.statement location effect) turns context =
        settle (Early.repeatWhile test early turns context) := by
    induction turns with
    | zero => intro context running few; omega
    | succ turns ih =>
      intro context running few
      have tests := tests context
      have paced := paced context
      simp only [repeatWhile, Early.repeatWhile, bind_run, get_run, running.hasReturned,
        Bool.false_eq_true, if_false]
      -- A test that fails is the end of the loop on both sides.
      cases tested : test context with
      | error reason middle => rfl
      | ok proceed middle =>
        rw [tested] at tests paced
        have still : middle.Running := running.of_stack tests.1.stack
        cases proceed with
        | false => rfl
        | true =>
          have same := mirrors.same middle still
          simp only [if_true, bind_run]
          -- A body that fails ends both loops alike.
          cases ran : early middle with
          | error reason last =>
            rw [same, ran]
            rfl
          | ok flow last =>
            have further := mirrors.running middle flow last still ran
            rw [ran] at same
            -- Whichever way control goes, neither the test nor the body gives a grant back.
            have fewer : middle.grants ≤ context.grants := paced.grants
            cases flow with
            | next =>
              have spent := statement_spends spends still.hasReturned same
              rw [same]
              exact ih last further (by omega)
            | returned value =>
              -- The next round looks at the mark first, and that ends the loop.
              have spent := statement_spends spends still.hasReturned same
              rw [same]
              cases turns with
              | zero => omega
              | succ turns =>
                exact repeatWhile_returned _ _ turns (further.marked_hasReturned value)
  refine ⟨fun context running => rounds _ context running (Nat.lt_succ_self _), ?_⟩
  have look : Ongoing (get : Exec Context) := .of_evaluation Obeys.get
  exact .bind look fun _ => .repeatWhile (.of_evaluation tests) mirrors.running _

/-- A declaration leads to the next statement. -/
theorem Mirrors.declare (name : String) (type : CType) (init : Option Value) :
    Mirrors (discard (declare name type init))
      (discard (declare name type init) >>= fun _ => pure .next) :=
  Mirrors.goOn (Ongoing.declare name type init).discard

/-- Evaluation leads to the next statement. -/
theorem Mirrors.evaluate {run : Exec α} (obeys : Obeys Effect.evaluation run) :
    Mirrors (discard run) (discard run >>= fun _ => pure .next) :=
  Mirrors.goOn (Ongoing.of_evaluation obeys).discard

section Statements

variable {invoke : Invoke}
  (calls : ∀ function arguments buffer, Obeys Effect.evaluation (invoke function arguments buffer))
  (paced : ∀ function arguments buffer, Obeys Effect.pacing (invoke function arguments buffer))

include calls paced

/-- Every statement and every list of statements mirrors the one that a return leaves at once. -/
theorem mirrors_statements :
    (∀ statement : Stmt, Mirrors (statement.exec invoke) (Early.exec invoke statement)) ∧
      ∀ list, Mirrors (Stmt.execAll invoke list) (Early.execAll invoke list) := by
  obtain ⟨values, -, -⟩ := evaluates_undisturbed.expressions calls
  obtain ⟨pacedValues, -, -⟩ := executes_pacing.expressions paced
  -- Expressions are the same on both sides, and none of them returns.
  have tests (condition : Expr) : Obeys Effect.evaluation (test invoke condition) :=
    Obeys.bind (values condition) fun value => Obeys.lift value.isTruthy
  have pacedTests (condition : Expr) : Obeys Effect.pacing (test invoke condition) :=
    Obeys.bind (pacedValues condition) fun value => Obeys.lift value.isTruthy
  -- The two executions have the same cases, so one induction goes along both.
  apply Stmt.exec.mutual_induct
  case case1 =>
    intro name type init location
    -- A variable may come without an initial value.
    cases init with
    | none =>
      rw [Stmt.exec, Early.exec]
      exact (Mirrors.declare name type none).statement location
    | some value =>
      rw [Stmt.exec, Early.exec]
      refine Mirrors.statement ?_ location
      exact Mirrors.afterEvaluation (values value)
        fun value => Mirrors.declare name type (some value)
  case case2 =>
    intro value location
    rw [Stmt.exec, Early.exec]
    exact (Mirrors.evaluate (values value)).statement location
  case case3 =>
    intro body location inside
    rw [Stmt.exec, Early.exec]
    exact (inside.inBlock ((executes_confined.statements calls).2 body)).statement location
  case case4 =>
    intro condition yes no location left right
    -- Without a second branch, nothing is run in its place.
    cases no with
    | none =>
      rw [Stmt.exec, Early.exec]
      refine Mirrors.statement (Mirrors.afterEvaluation (tests condition) fun truth => ?_) location
      cases truth with
      | true => exact left
      | false => exact Mirrors.goOn (.pure ())
    | some no =>
      rw [Stmt.exec, Early.exec]
      refine Mirrors.statement (Mirrors.afterEvaluation (tests condition) fun truth => ?_) location
      cases truth with
      | true => exact left
      | false => exact right
  -- A loop counts its rounds by the grants that its body uses up.
  case case5 =>
    intro condition body location inside
    obtain ⟨effect, same, spends⟩ := (executes_pacing.statements paced).1 body
    rw [Stmt.exec, Early.exec]
    rw [same] at inside ⊢
    refine Mirrors.statement (Mirrors.loop ?_ ?_ spends inside) location
    · exact alone_undisturbed (tests condition)
    · exact steps_pacing.alone (pacedTests condition)
  -- The one place where the two differ: a mark here, and a value handed out there.
  case case6 =>
    intro value location
    cases value with
    | none =>
      rw [Stmt.exec, Early.exec]
      exact (Mirrors.ret .void).statement location
    | some value =>
      rw [Stmt.exec, Early.exec]
      exact (Mirrors.afterEvaluation (values value) fun value =>
        Mirrors.afterEvaluation (handOver_undisturbed value) fun value =>
          Mirrors.ret value).statement location
  case case7 =>
    rw [Stmt.execAll, Early.execAll]
    exact Mirrors.goOn (.pure ())
  case case8 =>
    intro statement rest first all
    rw [Stmt.execAll, Early.execAll]
    exact Mirrors.seq first all fun context returned => execAll_returned invoke rest returned

end Statements

/-- The value of a call that marks its return is that of a call that leaves at once. -/
theorem activation_yields {body : Exec Unit} {early : Exec Flow} (mirrors : Mirrors body early)
    (function : String) (buffer : Option Block) (type : CType) :
    (do
      let frame ← activation function buffer body
      match frame.result with
      | .void => return .void
      | value => value.coerce type) =
    Early.activation function buffer early >>= Early.yielded type := by
  funext context
  -- Both sides enter the activation in the same way.
  simp only [bind_run, activation_run, Early.activation, pushFrame_run]
  -- Without room neither body runs.
  cases context.stack.room with
  | zero => rfl
  | succ room =>
    let opened : Context := { context with
      stack := { frames := { function, buffer } :: context.stack.frames, room } }
    -- A new activation has returned nothing yet.
    have inside : opened.Running := ⟨{ function, buffer }, context.stack.frames, rfl, rfl⟩
    have same := mirrors.same opened inside
    simp only [tryFinally_run]
    rw [same]
    cases ran : early opened with
    | error reason last =>
      simp only [settle]
      cases popFrame last <;> rfl
    | ok flow last =>
      -- The activation is still there to be left, and tells of a return just if there was one.
      obtain ⟨frame, callers, frames, returned⟩ := mirrors.running opened flow last inside ran
      have left := popFrame_run last
      simp only [frames] at left
      cases flow with
      | next =>
        simp only [settle, left, Frame.result, returned, Option.getD_none]
        rfl
      | returned value =>
        -- Leaving the activation hands out what was marked in it.
        have leftMarked := popFrame_run (last.marked value)
        simp only [Context.marked, frames] at leftMarked
        simp only [settle, left, Context.marked, frames, leftMarked, Frame.result, Option.getD_some]
        cases value <;> rfl

/-- Calls that mark returns and calls that leave at once are the same. -/
theorem invoke_eq_early (room : Nat) : Function.invoke room = Early.invoke room := by
  -- A body calls others with one place less, so they agree already.
  induction room with
  | zero => rfl
  | succ room ih =>
    funext function arguments buffer
    obtain ⟨-, lists⟩ := mirrors_statements (executes_confined.invoke room)
      (executes_pacing.invoke room)
    have body := Mirrors.behind (Ongoing.bindAll function.parameters arguments)
      fun _ => lists function.body
    have same := activation_yields body function.name buffer function.result
    rw [Function.invoke, Early.invoke, ← ih]
    exact congrArg (function.checkCount arguments >>= fun _ => ·) same

/-- Closing a block writes no byte. -/
theorem popScope_bytes (context : Context) :
    (popScope.after context).heap.bytes = context.heap.bytes := by
  unfold after
  rw [popScope_run]
  cases context.stack.frames with
  | nil => rfl
  | cons frame callers =>
    -- The activation may have no block open; then nothing is closed.
    simp only
    cases frame.nested with
    | nil => rfl
    | cons scope outer => exact context.heap.releaseAll_bytes scope.blocks

/-- Releasing temporary objects writes no byte. -/
theorem releaseTemporaries_bytes (mark : Nat) (context : Context) :
    ((releaseTemporaries mark).after context).heap.bytes = context.heap.bytes := by
  unfold after
  rw [releaseTemporaries_run]
  exact context.heap.releaseAll_bytes _

/-- Leaving a function writes no byte. -/
theorem popFrame_bytes (context : Context) :
    (popFrame.after context).heap.bytes = context.heap.bytes := by
  unfold after
  rw [popFrame_run]
  -- What the activation bound is freed, and nothing else happens to the heap.
  cases context.stack.frames with
  | nil => rfl
  | cons frame callers => exact context.heap.releaseAll_bytes frame.blocks

/-- A return that only marks the current activation is a return that leaves at once: every call of
every function, in every state, has the same outcome and leaves the same state, with the same
output and the same record of statements. After the mark no statement, list of statements or loop
of the function does anything, whatever it holds, and closing its blocks, releasing temporary
objects and leaving it write no byte. -/
theorem marked_return_leaves_at_once :
    (∀ room function arguments buffer context,
      Function.invoke room function arguments buffer context =
        Early.invoke room function arguments buffer context) ∧
    (∀ context : Context, context.hasReturned = true →
      (∀ invoke statement, Stmt.exec invoke statement context = .ok () context) ∧
      (∀ invoke list, Stmt.execAll invoke list context = .ok () context) ∧
      (∀ test body, loop test body context = .ok () context) ∧
      (popScope.after context).heap.bytes = context.heap.bytes ∧
      (∀ mark, ((releaseTemporaries mark).after context).heap.bytes = context.heap.bytes) ∧
      (popFrame.after context).heap.bytes = context.heap.bytes) := by
  refine ⟨fun room function arguments buffer context => ?_, fun context returned => ?_⟩
  · rw [invoke_eq_early]
  · exact ⟨fun invoke statement => exec_returned invoke statement returned,
      fun invoke list => execAll_returned invoke list returned,
      fun test body => repeatWhile_returned test body _ returned,
      popScope_bytes context, fun mark => releaseTemporaries_bytes mark context,
      popFrame_bytes context⟩

end Exec

end StepMachine
