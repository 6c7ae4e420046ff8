import StepMachine.Proofs.Context.Reachable

/-! The account of a computation: the single steps that it takes from a state, in order. Whatever a
program does has one, and no step of it releases a temporary object that was there before. -/

namespace StepMachine

namespace Step

/-- What a step yields. -/
def Result : Step → Type
  | store _ _ _ | print _ | free _ | loadString _ | markReturned _ | pushScope | popScope
  | pushFrame _ _ | releaseTemporaries _ | enter _ | activate _ => Unit
  | returnBuffer _ => Option Block
  | malloc _ | handOver _ => Value
  | declare _ _ _ => Address
  | popFrame => Frame

/-- The computation that a step is. -/
def run : (step : Step) → Exec step.Result
  | store address type value => Exec.edit (Heap.store address type value)
  | returnBuffer type => Exec.returnBuffer type
  | print text => Exec.print text
  | malloc size => Builtin.mallocOrNull size
  | free address => Exec.free address
  | handOver value => Exec.handOver value
  | loadString literal => Exec.loadString literal
  | declare name type init => Exec.declare name type init
  | markReturned value => Exec.markReturned value
  | pushScope => Exec.pushScope
  | popScope => Exec.popScope
  | pushFrame function buffer => Exec.pushFrame function buffer
  | popFrame => Exec.popFrame
  | releaseTemporaries mark => Exec.releaseTemporaries mark
  | enter location => Exec.enter location
  | activate active => modify fun context => { context with active }

/-- The computation that a step is leaves what the step leaves. -/
theorem after_run (step : Step) : step.run.after = step.after := by
  -- Both were read off the same list of steps.
  cases step <;> rfl

/-- The state that steps one after the other leave. -/
def walk (steps : List Step) (context : Context) : Context :=
  steps.foldl (fun context step => step.after context) context

/-- Steps behind others start where those have led. -/
theorem walk_append (first rest : List Step) (context : Context) :
    walk (first ++ rest) context = walk rest (walk first context) := by
  unfold walk
  rw [List.foldl_append]

/-- Steps lead to states that can be reached. -/
theorem walk_reachable {first context : Context} (reachable : first.Reachable context)
    (steps : List Step) : first.Reachable (walk steps context) := by
  -- The induction is on the steps, from the first one on.
  induction steps generalizing context with
  | nil => exact reachable
  | cons step rest ih => exact ih (reachable.step step)

end Step

namespace Exec

/-- The steps that a computation takes from a state, in order, however it ends: what it does beside
them is to yield, to break off and to look at the state. -/
inductive Account : {α : Type} → Exec α → Context → List Step → Prop where
  | pure {α : Type} (result : α) (context : Context) : Account (pure result) context []
  | throw {α : Type} (reason : Unwind) (context : Context) :
    Account (throw reason : Exec α) context []
  | get (context : Context) : Account get context []
  | step (step : Step) (context : Context) : Account step.run context [step]
  /-- Which statements are under way is changed by what it was. -/
  | activate (change : List Location → List Location) (context : Context) :
    Account (modify fun context => { context with active := change context.active }) context
      [.activate (change context.active)]
  /-- A sequence takes the steps of its first part, and then those of the second. -/
  | bind {α β : Type} {run : Exec α} {next : α → Exec β} {context middle : Context} {result : α}
    {first rest : List Step} (ran : run context = .ok result middle)
    (began : Account run context first) (went : Account (next result) middle rest) :
    Account (run >>= next) context (first ++ rest)
  /-- A sequence that breaks off in its first part takes no further step. -/
  | broken {α β : Type} {run : Exec α} {next : α → Exec β} {context middle : Context}
    {reason : Unwind} {first : List Step} (ran : run context = .error reason middle)
    (began : Account run context first) : Account (run >>= next) context first
  /-- What comes last takes its steps however the body ends. -/
  | lastly {α β : Type} {body : Exec α} {last : Exec β} {context : Context}
    {first rest : List Step} (began : Account body context first)
    (went : Account last (body.after context) rest) :
    Account (tryFinally' body fun _ => last) context (first ++ rest)

/-- The state that a sequence leaves, if its first part yields a result. -/
theorem after_bind_ok {run : Exec α} {next : α → Exec β} {context middle : Context} {result : α}
    (ran : run context = .ok result middle) :
    (run >>= next).after context = (next result).after middle := by
  -- The second part starts in the state in which the first one has ended.
  unfold after
  rw [bind_run, ran]

/-- What comes last has the last word on the state. -/
theorem after_tryFinally' (body : Exec α) (last : Exec β) (context : Context) :
    (tryFinally' body fun _ => last).after context = last.after (body.after context) := by
  -- A failure of the body is handed on only behind what comes last.
  unfold after
  rw [tryFinally'_run]
  cases body context with
  | ok result middle => cases ran : last middle <;> simp [ran]
  | error reason middle => cases ran : last middle <;> simp [ran]

/-- A computation leaves the state that its steps lead to. -/
theorem Account.after_eq {run : Exec α} {context : Context} {steps : List Step}
    (account : Account run context steps) : run.after context = Step.walk steps context := by
  -- The induction follows the account.
  induction account with
  | pure | throw | get | activate => rfl
  | step step context =>
    rw [step.after_run]
    rfl
  -- The first part yields a result, and the rest goes on from where it ends.
  | @bind _ _ run next context middle result first rest ran _ _ began went =>
    have state : run.after context = middle := by
      unfold after
      rw [ran]
      rfl
    rw [after_bind_ok ran, went, Step.walk_append, ← began, state]
  -- The first part breaks off, and the rest is not run.
  | @broken _ _ run next context middle reason first ran _ began =>
    rw [← began]
    unfold after
    rw [bind_run, ran]
    rfl
  | lastly _ _ began went => rw [after_tryFinally', went, Step.walk_append, ← began]

end Exec

/-- A step that releases none of the oldest `mark` temporary objects. -/
def Step.Spares (mark : Nat) : Step → Prop
  | releaseTemporaries kept => mark ≤ kept
  | _ => True

namespace Context

/-- The oldest `mark` temporary objects are there and are the same. -/
structure SameOldest (mark : Nat) (before after : Context) : Prop where
  enough : mark ≤ after.temporaries.size
  same : after.temporaries.toList.take mark = before.temporaries.toList.take mark

namespace SameOldest

variable {mark : Nat} {before after : Context}

/-- Temporary objects that are made stand behind the older ones. -/
theorem of_added (enough : mark ≤ before.temporaries.size)
    (grown : before.temporaries.toList <+: after.temporaries.toList) :
    before.SameOldest mark after := by
  obtain ⟨newer, grown⟩ := grown
  have size : mark ≤ before.temporaries.toList.length := by simpa using enough
  have total := congrArg List.length grown
  simp only [List.length_append, Array.length_toList] at total
  refine ⟨by omega, ?_⟩
  rw [← grown, List.take_append_of_le_length size]

/-- Oldest objects that stay twice have stayed. -/
theorem trans {first second third : Context} (one : first.SameOldest mark second)
    (two : second.SameOldest mark third) : first.SameOldest mark third :=
  ⟨two.enough, two.same.trans one.same⟩

/-- Each of the oldest temporary objects is where it was. -/
theorem getElem? (same : before.SameOldest mark after) {index : Nat} (old : index < mark) :
    after.temporaries[index]? = before.temporaries[index]? := by
  -- An index below the mark is read from the part that is the same.
  have there := congrArg (·[index]?) same.same
  simpa [List.getElem?_take, old] using there

end SameOldest

end Context

namespace Exec

open Effect (evaluation execution)

/-- Of the temporary objects that there are, an execution only gives up its own. -/
theorem Obeys.temporaries_execution {run : Exec α} (obeys : Obeys execution run)
    (context : Context) :
    context.temporaries.toList <+: (run.after context).temporaries.toList := by
  -- The relation that an execution obeys says so, for both ways to end.
  have allowed := obeys context
  unfold after
  cases ran : run context with
  | ok result last =>
    rw [ran] at allowed
    exact allowed.1.temporaries
  | error reason last =>
    rw [ran] at allowed
    exact allowed.1.temporaries

/-- So does an evaluation, which does no more than an execution may. -/
theorem Obeys.temporaries_evaluation {run : Exec α} (obeys : Obeys evaluation run)
    (context : Context) :
    context.temporaries.toList <+: (run.after context).temporaries.toList :=
  (confined_of_undisturbed obeys).temporaries_execution context

end Exec

namespace Step

open Exec

/-- A step that spares the oldest temporary objects leaves them where they are. -/
theorem Spares.sameOldest {mark : Nat} {step : Step} (spares : step.Spares mark)
    {context : Context} (enough : mark ≤ context.temporaries.size) :
    context.SameOldest mark (step.after context) := by
  -- All steps but one leave the temporary objects, or add to them.
  have grown (grown : context.temporaries.toList <+: (step.after context).temporaries.toList) :
      context.SameOldest mark (step.after context) := .of_added enough grown
  cases step with
  | store address type value =>
    exact grown ((evaluates_undisturbed.store address type value).temporaries_evaluation context)
  | returnBuffer type =>
    exact grown ((evaluates_undisturbed.returnBuffer type).temporaries_evaluation context)
  | print text => exact grown ((evaluates_undisturbed.print text).temporaries_evaluation context)
  | malloc size =>
    exact grown ((evaluates_undisturbed.mallocOrNull size).temporaries_evaluation context)
  | free address =>
    exact grown ((evaluates_undisturbed.free address).temporaries_evaluation context)
  | handOver value => exact grown ((handOver_undisturbed value).temporaries_evaluation context)
  | loadString literal =>
    exact grown ((Obeys.of_whole (loadString_undisturbed literal)).temporaries_evaluation context)
  | enter location => exact grown ((enter_undisturbed location).temporaries_evaluation context)
  | declare name type init =>
    exact grown ((declare_confined name type init).temporaries_execution context)
  | markReturned value =>
    exact grown ((markReturned_confined value).temporaries_execution context)
  | activate active => exact grown (List.prefix_refl _)
  | pushScope =>
    -- Neither with an activation nor without one is a temporary object touched.
    refine grown ?_
    show _ <+: (stateOf (Exec.pushScope context)).temporaries.toList
    rw [pushScope_run]
    cases context.stack.frames <;> exact List.prefix_refl _
  | popScope =>
    -- Closing a scope frees its objects, none of which is temporary.
    refine grown ?_
    show _ <+: (stateOf (Exec.popScope context)).temporaries.toList
    rw [popScope_run]
    cases context.stack.frames with
    | nil => exact List.prefix_refl _
    | cons frame callers => cases nested : frame.nested <;> simp [nested]
  | pushFrame function buffer =>
    -- Whether there is room or not, no temporary object is touched.
    refine grown ?_
    show _ <+: (stateOf (Exec.pushFrame function buffer context)).temporaries.toList
    rw [pushFrame_run]
    cases context.stack.room <;> exact List.prefix_refl _
  | popFrame =>
    -- Leaving an activation frees its objects, none of which is temporary.
    refine grown ?_
    show _ <+: (stateOf (Exec.popFrame context)).temporaries.toList
    rw [popFrame_run]
    cases context.stack.frames <;> exact List.prefix_refl _
  | releaseTemporaries kept =>
    -- What is kept includes the oldest.
    have spared : mark ≤ kept := spares
    show context.SameOldest mark (stateOf (Exec.releaseTemporaries kept context))
    rw [releaseTemporaries_run]
    constructor
    · simp only [stateOf, Context.dropTemporaries, Array.size_shrink]
      omega
    · have shrunk : (context.temporaries.shrink kept).toList =
          context.temporaries.toList.take kept := by
        simp
      simp only [stateOf, Context.dropTemporaries, shrunk, List.take_take, Nat.min_eq_left spared]

/-- So do steps one after the other. -/
theorem walk_sameOldest {mark : Nat} {steps : List Step} (spare : ∀ step ∈ steps, step.Spares mark)
    {context : Context} (enough : mark ≤ context.temporaries.size) :
    context.SameOldest mark (walk steps context) := by
  -- The induction is on the steps; each leaves as many objects for the next one.
  induction steps generalizing context with
  | nil => exact ⟨enough, rfl⟩
  | cons step rest ih =>
    have first := (spare step (List.mem_cons_self ..)).sameOldest enough
    exact first.trans (ih (fun other member => spare other (List.mem_cons_of_mem _ member))
      first.enough)

end Step

namespace Exec

/-- From a state a computation takes steps that spare the oldest temporary objects. -/
def SheltersAt (mark : Nat) (run : Exec α) (context : Context) : Prop :=
  ∃ steps, Account run context steps ∧ ∀ step ∈ steps, step.Spares mark

/-- Wherever there are as many temporary objects, a computation takes steps that spare them. -/
def Shelters (mark : Nat) (run : Exec α) : Prop :=
  ∀ context, mark ≤ context.temporaries.size → SheltersAt mark run context

namespace Shelters

variable {mark : Nat}

/-- To yield takes no step. -/
theorem pure (result : α) : Shelters mark (pure result) :=
  fun context _ => ⟨[], .pure result context, nofun⟩

/-- To break off takes no step. -/
theorem throw (reason : Unwind) : Shelters mark (throw reason : Exec α) :=
  fun context _ => ⟨[], .throw reason context, nofun⟩

/-- To look at the state takes no step. -/
theorem get : Shelters mark get := fun context _ => ⟨[], .get context, nofun⟩

/-- A result of pure computing takes no step. -/
theorem lift (result : Except RuntimeError α) : Shelters mark (liftM result : Exec α) := by
  -- It is a result or a failure from the start.
  cases result with
  | ok result => exact pure result
  | error cause => exact throw (.fault cause)

/-- A step that spares the oldest is all that it takes. -/
theorem step (step : Step) (spares : step.Spares mark) : Shelters mark step.run :=
  fun context _ => ⟨[step], .step step context, by simpa using spares⟩

/-- Which statements are under way may change. -/
theorem activate (change : List Location → List Location) :
    Shelters mark (modify fun context => { context with active := change context.active }) :=
  fun context _ => ⟨_, .activate change context, fun step member => by
    rw [List.mem_singleton.mp member]
    trivial⟩

/-- What a computation leaves has as many temporary objects again. -/
theorem enough {run : Exec α} (shelters : Shelters mark run) {context : Context}
    (enough : mark ≤ context.temporaries.size) : mark ≤ (run.after context).temporaries.size := by
  -- The account leads to the state that is left.
  obtain ⟨steps, account, spare⟩ := shelters context enough
  rw [account.after_eq]
  exact (Step.walk_sameOldest spare enough).enough

/-- In a sequence the second part starts with the result and the state of the first. -/
theorem bind_at {run : Exec α} {next : α → Exec β} (first : Shelters mark run) {context : Context}
    (enough : mark ≤ context.temporaries.size)
    (rest : ∀ result middle, run context = .ok result middle → mark ≤ middle.temporaries.size →
      SheltersAt mark (next result) middle) : SheltersAt mark (run >>= next) context := by
  obtain ⟨steps, began, spare⟩ := first context enough
  have still := first.enough enough
  unfold after at still
  -- A first part that breaks off leaves no rest to run.
  cases ran : run context with
  | error reason middle => exact ⟨steps, .broken ran began, spare⟩
  | ok result middle =>
    rw [ran] at still
    obtain ⟨more, went, others⟩ := rest result middle ran still
    refine ⟨steps ++ more, .bind ran began went, fun step member => ?_⟩
    -- A step of both parts is one of the first or one of the second.
    rcases List.mem_append.mp member with early | late
    · exact spare step early
    · exact others step late

/-- Parts that shelter what was there before do so one after the other. -/
theorem bind {run : Exec α} {next : α → Exec β} (first : Shelters mark run)
    (rest : ∀ result, Shelters mark (next result)) : Shelters mark (run >>= next) :=
  fun _ enough => first.bind_at enough fun result middle _ still => rest result middle still

/-- What comes last starts where the body has come to. -/
theorem tryFinally' {body : Exec α} {last : Exec β} (first : Shelters mark body)
    (rest : Shelters mark last) : Shelters mark (tryFinally' body fun _ => last) := by
  intro context enough
  obtain ⟨steps, began, spare⟩ := first context enough
  obtain ⟨more, went, others⟩ := rest (body.after context) (first.enough enough)
  refine ⟨steps ++ more, .lastly began went, fun step member => ?_⟩
  rcases List.mem_append.mp member with early | late
  · exact spare step early
  · exact others step late

/-- What stands under `finally` takes its steps after those of the body. -/
theorem tryFinally {body : Exec α} {last : Exec β} (first : Shelters mark body)
    (rest : Shelters mark last) : Shelters mark (tryFinally body last) := by
  -- It is the same sequence, of which only the first result is handed on.
  have both := bind (tryFinally' first rest) fun results => pure results.1
  have same : StepMachine.Exec.Shelters mark
      ((·.1) <$> MonadFinally.tryFinally' body fun _ => last) := by
    rw [map_eq_pure_bind]
    exact both
  exact same

/-- A computation that releases its own temporary objects spares those that were there before. -/
theorem alone {run : Exec α} (shelters : Shelters mark run) : Shelters mark (alone run) := by
  intro context enough
  have counted : Shelters mark temporaryMark := bind get fun context => pure _
  refine bind_at counted enough fun kept middle ran still => ?_
  -- The objects are counted in the state in which the computation starts.
  cases ran
  exact tryFinally shelters (step (.releaseTemporaries _) enough) context still

/-- A statement shelters what its effect shelters. -/
theorem statement (location : Location) {effect : Exec Unit} (shelters : Shelters mark effect) :
    Shelters mark (statement location effect) := by
  -- Behind a return nothing is done; else the statement is put under way and taken off again.
  refine bind get fun context => ?_
  split
  · exact pure ()
  · -- Only those of its own are released, which stand behind the mark.
    refine bind (activate (location :: ·)) fun _ => ?_
    refine bind (alone (bind (step (.enter location) trivial) fun _ => shelters))
      fun _ => activate List.tail

/-- A loop shelters what its test and its body do. -/
theorem repeatWhile {test : Exec Bool} {body : Exec Unit} (tests : Shelters mark test)
    (shelters : Shelters mark body) (turns : Nat) :
    Shelters mark (repeatWhile test body turns) := by
  -- Each turn tests, runs the body and leaves one turn less.
  induction turns with
  | zero => exact bind get fun context => throw _
  | succ turns ih =>
    refine bind get fun context => ?_
    split
    · exact pure ()
    · refine bind tests fun proceed => ?_
      split
      · exact bind shelters fun _ => ih
      · exact pure ()

end Shelters

/-- Whatever a program evaluates, executes or calls spares the temporary objects that were there
before, at every single step. -/
theorem executes_sheltering (mark : Nat) :
    Executes (fun _ => Shelters mark) (fun _ => Shelters mark) where
  pure := Shelters.pure
  bind := Shelters.bind
  inspect look _ := Shelters.bind Shelters.get fun context => Shelters.lift (look context)
  store address type value := Shelters.step (.store address type value) trivial
  returnBuffer type := Shelters.step (.returnBuffer type) trivial
  print text := Shelters.step (.print text) trivial
  mallocOrNull size := Shelters.step (.malloc size) trivial
  free address := Shelters.step (.free address) trivial
  weaken shelters := shelters
  seq := Shelters.bind
  alone := Shelters.alone
  handOver value := Shelters.step (.handOver value) trivial
  loadString literal := Shelters.step (.loadString literal) trivial
  declare name type init := Shelters.step (.declare name type init) trivial
  markReturned value := Shelters.step (.markReturned value) trivial
  inBlock shelters := Shelters.bind (Shelters.step .pushScope trivial) fun _ =>
    Shelters.tryFinally shelters (Shelters.step .popScope trivial)
  statement := Shelters.statement
  loop location _ _ tests shelters :=
    Shelters.bind Shelters.get fun _ =>
      Shelters.repeatWhile tests (Shelters.statement location shelters) _
  activation function buffer _ shelters :=
    Shelters.bind (Shelters.step (.pushFrame function buffer) trivial) fun _ =>
      Shelters.bind (Shelters.tryFinally' shelters (Shelters.step .popFrame trivial))
        fun results => Shelters.pure results.2

/-- A statement that is run from the present depth on spares the temporary objects that were there
before. -/
theorem runStatement_shelters (mark : Nat) (statement : Stmt) :
    Shelters mark (runStatement statement) := by
  -- The depth that is left decides how calls are run, and any depth will do.
  have executes := executes_sheltering mark
  refine executes.invoked fun room => ?_
  obtain ⟨effect, same, shelters⟩ := (executes.statements (executes.invoke room)).1 statement
  rw [same]
  exact Shelters.statement statement.location shelters

/-- So does an expression that is evaluated from there on. -/
theorem evaluate_shelters (mark : Nat) (expression : Expr) :
    Shelters mark (evaluate expression) := by
  -- As for a statement, any depth will do.
  have executes := executes_sheltering mark
  exact executes.invoked fun room => (executes.expressions (executes.invoke room)).1 expression

/-- Whatever spares no temporary object in particular has an account from every state. -/
theorem Shelters.exists_account {run : Exec α} (shelters : Shelters 0 run) (context : Context) :
    ∃ steps, Account run context steps := by
  -- No temporary object has to be there before.
  obtain ⟨steps, account, -⟩ := shelters context (Nat.zero_le _)
  exact ⟨steps, account⟩

end Exec

end StepMachine
