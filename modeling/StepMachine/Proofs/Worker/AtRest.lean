import StepMachine.Proofs.Worker.Settling

/-! A worker that is run section by section, beside the thread that is only seen at rest: every call
of the host leads to one state only, and there the two show the same. -/

namespace StepMachine

namespace Task

variable {task : Task μ α ε} {taken grants : Nat}

/-- The task does not end before it has taken so many steps. -/
def Reaches (task : Task μ α ε) (taken : Nat) : Prop :=
  ∀ step < taken, ∃ effect, task.turn step = .asks effect

/-- The task ends by itself after so many steps at most. -/
def Stops (task : Task μ α ε) (patience : Nat) : Prop :=
  ∃ steps ending, steps ≤ patience ∧ task.Reaches steps ∧ task.turn steps = .ends ending

/-- What can be seen after so many steps. -/
def after (task : Task μ α ε) : (taken : Nat) → μ
  | 0 => task.initial
  | taken + 1 =>
    match task.turn taken with
    | .asks effect => effect (task.after taken)
    | .ends _ => task.after taken

/-- A task that reaches some step and asks for it reaches the next one. -/
theorem Reaches.succ (reaches : task.Reaches taken) {effect : μ → μ}
    (asks : task.turn taken = .asks effect) : task.Reaches (taken + 1) := by
  intro step within
  rcases Nat.lt_succ_iff_lt_or_eq.mp within with before | rfl
  · exact reaches step before
  · exact ⟨effect, asks⟩

/-- A task that reaches a step has reached all those before it. -/
theorem Reaches.mono {earlier : Nat} (reaches : task.Reaches taken) (le : earlier ≤ taken) :
    task.Reaches earlier :=
  fun step within => reaches step (Nat.lt_of_lt_of_le within le)

/-- A step does to what can be seen what the task says. -/
theorem after_succ {effect : μ → μ} (asks : task.turn taken = .asks effect) :
    task.after (taken + 1) = effect (task.after taken) := by
  rw [after, asks]

/-- Grants are used up one by one by the steps that the task reaches. -/
theorem rest_add (reaches : task.Reaches taken) (grants : Nat) :
    task.rest 0 task.initial (taken + grants) = task.rest taken (task.after taken) grants := by
  -- The induction is on the steps that the task has taken.
  induction taken generalizing grants with
  | zero => rw [Nat.zero_add, after]
  | succ taken ih =>
    -- The last of the steps uses the first of the grants that are left.
    obtain ⟨effect, asks⟩ := reaches taken (Nat.lt_succ_self taken)
    rw [show taken + 1 + grants = taken + (grants + 1) by omega,
      ih (reaches.mono (Nat.le_succ taken)), rest, asks, after_succ asks]

/-- A worker that reaches the step after those that were granted waits for it. -/
theorem paced_parked (reaches : task.Reaches (grants + 1)) :
    task.worker.paced grants = .parked (task.after grants) (task.after grants) := by
  -- It reaches the step after them, so it asks there, and finds no grant left.
  obtain ⟨effect, asks⟩ := reaches grants (Nat.lt_succ_self grants)
  have used := rest_add (reaches.mono (Nat.le_succ grants)) 0
  rw [Nat.add_zero] at used
  show task.rest 0 task.initial grants = _
  rw [used, rest, asks]

/-- A worker that is granted all steps of its task has ended. -/
theorem paced_ended (reaches : task.Reaches taken) {ending : Ending α ε}
    (ends : task.turn taken = .ends ending) (enough : taken ≤ grants) :
    task.worker.paced grants = .ended (task.after taken) ending.outcome taken := by
  obtain ⟨spare, rfl⟩ := Nat.exists_eq_add_of_le enough
  -- Whatever is left over is not used.
  show task.rest 0 task.initial (taken + spare) = _
  rw [rest_add reaches]
  cases spare <;> rw [rest, ends]

end Task

namespace HostCall

/-- The host is told so, and has this in its hands, as soon as its call returns. Meanwhile the
worker runs sections of its own. -/
def Returns (call : HostCall) (hosted : Hosted μ α ε) (answer : Except ThreadError Unit)
    (returned : Hosted μ α ε) : Prop :=
  match call.opening hosted with
  | .error cause refused => answer = .error cause ∧ returned = refused
  | .ok _ begun => answer = .ok () ∧
    ∃ waited, begun.Works waited ∧ call.closing? waited = some returned

/-- The host is told so, and comes to this when the worker has done all that it can do. -/
def Leads (call : HostCall) (hosted : Hosted μ α ε) (answer : Except ThreadError Unit)
    (last : Hosted μ α ε) : Prop :=
  ∃ returned, call.Returns hosted answer returned ∧ returned.Works last ∧ last.Settled

/-- The same call on a thread that is seen only at rest: what the host is told, and what it has
then. A host that starts a worker freely waits for so many steps at most. -/
def seen (patience : Nat) (call : HostCall) (thread : Thread ν α ε) :
    Except ThreadError Unit × Thread ν α ε :=
  let made : Thread.Call ν α ε Unit :=
    match call with
    | runBlocking | startFree => Thread.startFree patience
    | startStepping => Thread.startStepping
    | resume | cycle => Thread.grant
    | terminate => modify Thread.terminate
    | outcome => pure ()
  match made thread with
  | .ok _ thread => (.ok (), thread)
  | .error cause thread => (.error cause, thread)

variable {call : HostCall} {hosted begun resting closed last : Hosted μ α ε}
  {answer : Except ThreadError Unit}

/-- A call that is refused leads where the refusal leaves the host. -/
theorem leads_refused {cause : ThreadError} {refused : Hosted μ α ε}
    (opened : call.opening hosted = .error cause refused) (settled : refused.Settled) :
    call.Leads hosted answer last ↔ answer = .error cause ∧ last = refused := by
  unfold Leads Returns
  rw [opened]
  -- The host is told the refusal and has what it is left with, and no worker moves that.
  constructor
  · rintro ⟨_, ⟨told, rfl⟩, works, -⟩
    exact ⟨told, works.eq_of_settled settled⟩
  · rintro ⟨told, rfl⟩
    exact ⟨_, ⟨told, rfl⟩, .refl, settled⟩

/-- A call that does not wait leads where the worker comes to rest. -/
theorem leads_at_once (opened : call.opening hosted = .ok () begun)
    (atOnce : ∀ hosted : Hosted μ α ε, call.closing? hosted = some hosted)
    (rests : begun.Works resting) (settled : resting.Settled) :
    call.Leads hosted answer last ↔ answer = .ok () ∧ last = resting := by
  unfold Leads Returns
  rw [opened]
  -- The call returns at once, whatever sections the worker has run until then.
  constructor
  · rintro ⟨returned, ⟨told, waited, works, closes⟩, further, still⟩
    -- Wherever the call returns, the worker goes on to the same place.
    cases (atOnce waited).symm.trans closes
    exact ⟨told, rests.unique settled (works.trans further) still⟩
  · rintro ⟨told, rfl⟩
    exact ⟨_, ⟨told, _, rests, atOnce _⟩, .refl, settled⟩

/-- A call that waits until the worker has nothing to do leads where its closing leaves the host. -/
theorem leads_in_the_end (opened : call.opening hosted = .ok () begun)
    (late : ∀ waited returned, begun.Works waited → call.closing? waited = some returned →
      waited.Settled)
    (rests : begun.Works resting) (settled : resting.Settled)
    (closes : call.closing? resting = some closed) (still : closed.Settled) :
    call.Leads hosted answer last ↔ answer = .ok () ∧ last = closed := by
  unfold Leads Returns
  rw [opened]
  constructor
  · rintro ⟨returned, ⟨told, waited, works, closed⟩, further, -⟩
    -- The wait is over where the worker rests, and there is one such place.
    obtain rfl := rests.unique settled works (late _ _ works closed)
    cases closes.symm.trans closed
    exact ⟨told, further.eq_of_settled still⟩
  · rintro ⟨told, rfl⟩
    exact ⟨_, ⟨told, _, rests, closes⟩, .refl, still⟩

/-- A call that begins where the worker has nothing to do leads where its closing leaves the
host. -/
theorem leads_settled (opened : call.opening hosted = .ok () begun) (settled : begun.Settled)
    (closes : call.closing? begun = some closed) (still : closed.Settled) :
    call.Leads hosted answer last ↔ answer = .ok () ∧ last = closed :=
  -- The worker is at rest already, so the wait is over before it begins.
  leads_in_the_end opened (fun _ _ works _ => works.eq_of_settled settled ▸ settled) .refl settled
    closes still

/-- A call leads to where it is found to lead when it is made, if the worker is at rest there. -/
theorem leads_of_make? (patience : Nat) (made : call.make? patience hosted = some (answer, last))
    (rests : last.next? = none) : call.Leads hosted answer last := by
  unfold Leads Returns
  unfold make? at made
  -- The worker is left alone before the call returns, or after it was refused.
  cases opened : call.opening hosted with
  | error cause refused =>
    rw [opened] at made
    cases made
    exact ⟨_, ⟨rfl, rfl⟩, Hosted.settle_works .., Hosted.settled_of_next? rests⟩
  | ok begun after =>
    rw [opened] at made
    obtain ⟨closed, closes, same⟩ := Option.map_eq_some_iff.mp made
    cases same
    exact ⟨_, ⟨rfl, _, Hosted.settle_works .., closes⟩, .refl, Hosted.settled_of_next? rests⟩

end HostCall

namespace Hosted

section Paths

variable {task : Task μ α ε} {spawnable : Bool} {host : HostPlace} {taken granted : Nat}

/-- A started worker that has taken so many steps and has not ended. -/
def held (task : Task μ α ε) (spawnable : Bool) (taken : Nat) (shake : Handshake) :
    Hosted μ α ε where
  spawnable
  task? := none
  runner? := some { task, taken }
  shake
  memory := task.after taken

/-- The record of a stepped worker that has used every grant and is at work. -/
def workingAt (host : HostPlace) (granted : Nat) : Handshake where
  signals :=
    { mode := .stepping, requested := granted, consumed := granted, arrivals := granted }
  host
  begun := granted

/-- The record of a stepped worker that has used every grant and waits for the next one. -/
def parkedAt (host : HostPlace) (granted : Nat) : Handshake where
  signals :=
    { mode := .stepping, requested := granted, consumed := granted, arrivals := granted + 1 }
  worker := .parked
  host
  begun := granted

/-- The record of a stepped worker that waits and was granted one step more. -/
def grantedAt (host : HostPlace) (granted : Nat) : Handshake where
  signals := {
    mode := .stepping
    requested := granted + 1
    consumed := granted
    arrivals := granted + 1 }
  worker := .parked
  host
  begun := granted

/-- The record of a worker that was called off while it waited and is on its way out. -/
def leavingAt (granted : Nat) : Handshake where
  signals := {
    mode := .terminating
    requested := granted
    consumed := granted
    arrivals := granted + 1 }
  worker := .leaving
  begun := granted

/-- The record of a worker that goes on at once and is at work. -/
def freeAt (taken : Nat) : Handshake where
  signals := { mode := .free }
  begun := taken

/-- A worker that was let into a step takes it. -/
theorem moves_work {shake : Handshake} (working : shake.worker = .working)
    (begun : shake.begun = taken + 1) {effect : μ → μ} (asks : task.turn taken = .asks effect) :
    (held task spawnable taken shake).Moves (held task spawnable (taken + 1) shake) := by
  -- The record lets it into one step more than it has taken, so the step is its next section.
  refine ⟨.work, (turn?_eq_some_iff rfl).mpr ?_⟩
  rw [show held task spawnable (taken + 1) shake = { held task spawnable taken shake with
    memory := effect (task.after taken), runner? := some { task, taken := taken + 1 } } by
      rw [held, Task.after_succ asks]; rfl]
  exact .work working (by show taken < shake.begun; omega) asks

/-- A worker that has taken the steps that it was let into asks for the next one. -/
theorem moves_cooperate {shake : Handshake} (working : shake.worker = .working)
    (level : taken = shake.begun) {effect : μ → μ} (asks : task.turn taken = .asks effect) :
    (held task spawnable taken shake).Moves
      (held task spawnable taken (shake.ask shake.signals.arrive)) :=
  ⟨.cooperate, (turn?_eq_some_iff rfl).mpr (.cooperate working level asks)⟩

/-- A worker that waits wakes and asks again. -/
theorem moves_wake {shake : Handshake} (parked : shake.worker = .parked) :
    (held task spawnable taken shake).Moves
      (held task spawnable taken (shake.ask shake.signals)) :=
  ⟨.wake, (turn?_eq_some_iff rfl).mpr (.wake parked)⟩

/-- A worker that has taken all steps of its task ends. -/
theorem moves_finish {shake : Handshake} (working : shake.worker = .working)
    (level : taken = shake.begun) {ending : Ending α ε} (ends : task.turn taken = .ends ending) :
    (held task spawnable taken shake).Moves
      ((held task spawnable taken shake).left { task, taken } ending.exit) :=
  ⟨.finish, (turn?_eq_some_iff rfl).mpr (.finish working level ends)⟩

/-- A worker that was called off ends. -/
theorem moves_giveUp {shake : Handshake} (leaving : shake.worker = .leaving) :
    (held task spawnable taken shake).Moves
      ((held task spawnable taken shake).left { task, taken } (.returned .cancelled)) :=
  ⟨.finish, (turn?_eq_some_iff rfl).mpr (.giveUp leaving)⟩

/-- A worker that nothing holds back takes every step that its task reaches. -/
theorem free_works (reaches : task.Reaches taken) :
    (held task spawnable 0 (freeAt 0)).Works (held task spawnable taken (freeAt taken)) := by
  -- The induction is on the steps.
  induction taken with
  | zero => exact .refl
  | succ taken ih =>
    -- Each step is asked for, and then taken.
    obtain ⟨effect, asks⟩ := reaches taken (Nat.lt_succ_self taken)
    have level : taken = (freeAt taken).begun := rfl
    exact ((ih (reaches.mono (Nat.le_succ taken))).tail (moves_cooperate rfl level asks)).tail
      (moves_work rfl rfl asks)

/-- A stepped worker at work that has another step to take asks for it and waits. -/
theorem working_parks {effect : μ → μ} (asks : task.turn taken = .asks effect) :
    (held task spawnable taken (workingAt host taken)).Moves
      (held task spawnable taken (parkedAt host taken)) := by
  have moves := @moves_cooperate μ α ε task spawnable taken (workingAt host taken) rfl rfl _ asks
  -- It has come once more, and there is no grant left for it.
  simpa [workingAt, parkedAt, Handshake.ask, Signals.consult, Signals.arrive] using moves

/-- A stepped worker that waits and is granted a step takes it. -/
theorem granted_works {effect : μ → μ} (asks : task.turn taken = .asks effect) :
    (held task spawnable taken (grantedAt host taken)).Works
      (held task spawnable (taken + 1) (workingAt host (taken + 1))) := by
  -- Waking, it finds the grant, uses it up and is let in.
  have wakes : (held task spawnable taken (grantedAt host taken)).Moves
      (held task spawnable taken (workingAt host (taken + 1))) := by
    have moves := @moves_wake μ α ε task spawnable taken (grantedAt host taken) rfl
    simpa [workingAt, grantedAt, Handshake.ask, Signals.consult] using moves
  exact (Relation.ReflTransGen.single wakes).tail (moves_work rfl rfl asks)

/-- A worker that waits and is called off gives up. -/
theorem calledOff_works :
    (held task spawnable granted { parkedAt .idle granted with
      signals := (parkedAt .idle granted).signals.cancel }).Works
      ((held task spawnable granted (leavingAt granted)).left { task, taken := granted }
        (.returned .cancelled)) :=
  (Relation.ReflTransGen.single (moves_wake rfl)).tail (moves_giveUp rfl)

/-- The counters of a worker that was granted a step for which its host waits. -/
theorem grantedAt_counted (granted : Nat) :
    (grantedAt (.waiting (granted + 2)) granted).Counted := by
  -- Every counter is a number here, so each condition can be computed.
  constructor <;> simp [grantedAt]

/-- A stepped worker that waits has nothing to do. -/
theorem parked_settled : (held task spawnable taken (parkedAt host granted)).Settled :=
  -- It would be told to wait again: as many grants are used as were made.
  settled_of_wait rfl (by simp [held, parkedAt, Signals.consult])

end Paths

/-- A worker that has ended, after so many steps, in a given mode. -/
structure Ended (task : Task μ α ε) (spawnable : Bool) (mode : Mode) (steps : Nat)
    (exit : Exit α ε) (hosted : Hosted μ α ε) : Prop where
  spawnable : hosted.spawnable = spawnable
  task? : hosted.task? = none
  memory : hosted.memory = task.after steps
  mode : hosted.shake.signals.mode = mode
  finished : hosted.shake.signals.finished = true
  place : hosted.shake.worker = .ended
  idle : hosted.shake.host = .idle
  /-- What it has left is in the hands of its thread, or of the host. -/
  exit : hosted.outcome? = none ∧
      (∃ runner, hosted.runner? = some runner ∧ runner.exit? = some exit) ∨
    hosted.outcome? = some exit.outcome ∧ hosted.runner? = none

/-- A worker at rest, run section by section, and the thread that shows the same. -/
inductive RestsAs (task : Task μ α ε) (spawnable : Bool) :
    Hosted μ α ε → Thread μ α ε → Prop where
  | unstarted : RestsAs task spawnable (fresh task spawnable) { worker := task.worker, spawnable }
  /-- The task is gone and never ran. -/
  | discarded {shake : Handshake} (idle : shake.host = .idle) : RestsAs task spawnable
      { spawnable, task? := none, shake, memory := task.initial }
      { worker := task.worker, spawnable, status := .discarded }
  /-- The worker waits before a step of its task. -/
  | parked {granted : Nat} (reaches : task.Reaches (granted + 1)) : RestsAs task spawnable
      (held task spawnable granted (parkedAt .idle granted)) {
        worker := task.worker
        spawnable
        status := .started .stepping granted
          (.parked (task.after granted) (task.after granted)) }
  | ended {hosted : Hosted μ α ε} {mode : Mode} {granted steps : Nat} {exit : Exit α ε}
      (ended : hosted.Ended task spawnable mode steps exit) : RestsAs task spawnable hosted {
        worker := task.worker
        spawnable
        status := .started mode granted (.ended (task.after steps) exit.outcome steps) }

section Ended

variable {task : Task μ α ε} {spawnable : Bool} {mode : Mode} {steps : Nat} {exit : Exit α ε}
  {hosted : Hosted μ α ε}

/-- A worker that has ended has nothing to do. -/
theorem Ended.settled (ended : hosted.Ended task spawnable mode steps exit) : hosted.Settled :=
  settled_of_ended ended.place

/-- The thread of a worker that has ended can be joined. -/
theorem Ended.join (ended : hosted.Ended task spawnable mode steps exit) :
    ∃ joined, hosted.join? = some joined ∧ joined.Ended task spawnable mode steps exit := by
  -- Either its thread has left how it ended, or the host has that already.
  rcases ended.exit with ⟨-, runner, held, left⟩ | ⟨kept, gone⟩
  · exact ⟨{ hosted with runner? := none, outcome? := some exit.outcome },
      by simp only [join?, held, left, Option.map_some],
      { ended with exit := .inr ⟨rfl, rfl⟩ }⟩
  · exact ⟨hosted, by simp only [join?, gone], ended⟩

/-- A worker that has ended was started. -/
theorem Ended.isStarted (ended : hosted.Ended task spawnable mode steps exit) :
    hosted.isStarted = true := by
  -- Its thread is still there, or what it left was taken from it.
  rcases ended.exit with ⟨-, runner, held, -⟩ | ⟨kept, -⟩
  · simp [Hosted.isStarted, held]
  · simp [Hosted.isStarted, kept]

/-- A worker that has ended is not running. -/
theorem Ended.isRunning (ended : hosted.Ended task spawnable mode steps exit) :
    hosted.isRunning = false := by
  -- Running is asked of the record, which says that it has finished.
  simp [Hosted.isRunning, ended.finished]

/-- Whoever asks how it ended is told. -/
theorem Ended.answer? (ended : hosted.Ended task spawnable mode steps exit) :
    hosted.answer? = some exit.outcome := by
  unfold Hosted.answer? reap?
  -- Who asks joins the thread if that was not done before.
  rw [if_pos ended.finished]
  rcases ended.exit with ⟨-, runner, held, left⟩ | ⟨kept, gone⟩
  · simp only [join?, held, left, Option.map_some, Option.bind_some]
  · simp only [join?, gone, kept, Option.bind_some]

/-- A worker has ended when its thread has. -/
theorem ended_left (task : Task μ α ε) (spawnable : Bool) (shake : Handshake)
    (idle : shake.host = .idle) (steps : Nat) (exit : Exit α ε) :
    ((held task spawnable steps shake).left { task, taken := steps } exit).Ended task spawnable
      shake.signals.mode steps exit where
  spawnable := rfl
  task? := rfl
  memory := rfl
  mode := rfl
  finished := rfl
  place := rfl
  idle := idle
  exit := .inl ⟨rfl, _, rfl, rfl⟩

end Ended

/-- The two show the same to a host that looks at them. -/
theorem RestsAs.shows {task : Task μ α ε} {spawnable : Bool} {hosted : Hosted μ α ε}
    {thread : Thread μ α ε} (rests : RestsAs task spawnable hosted thread) :
    hosted.isStarted = thread.isStarted ∧ hosted.isRunning = thread.isRunning ∧
      hosted.answer? = thread.outcome? ∧ hosted.memory = thread.view ∧ hosted.Settled := by
  -- Of each place where a worker can rest, both sides are read off.
  cases rests with
  | unstarted => exact ⟨rfl, rfl, rfl, rfl, settled_of_none rfl⟩
  | @discarded shake idle =>
    refine ⟨rfl, rfl, ?_, rfl, settled_of_none rfl⟩
    -- There is nothing to join.
    unfold answer? reap?
    split <;> rfl
  | parked reaches => exact ⟨rfl, rfl, rfl, rfl, parked_settled⟩
  | ended ended =>
    exact ⟨ended.isStarted, ended.isRunning, ended.answer?, ended.memory, ended.settled⟩

section Calls

variable {task : Task μ α ε} {spawnable : Bool} {hosted : Hosted μ α ε} {thread : Thread μ α ε}
  {call : HostCall} {patience : Nat}

/-- A call leads to one state only, from a worker and from the thread that shows the same, with the
same answer, and then the two show the same again. -/
def LeadsAs (task : Task μ α ε) (spawnable : Bool) (patience : Nat) (call : HostCall)
    (hosted : Hosted μ α ε) (thread : Thread μ α ε) : Prop :=
  ∃ last, (∀ answer next, call.Leads hosted answer next ↔
      answer = (call.seen patience thread).1 ∧ next = last) ∧
    RestsAs task spawnable last (call.seen patience thread).2

/-- A worker that nothing holds back runs to the end of its task. -/
theorem free_rests {steps : Nat} (reaches : task.Reaches steps) {ending : Ending α ε}
    (ends : task.turn steps = .ends ending) :
    (held task spawnable 0 (freeAt 0)).Works
      ((held task spawnable steps (freeAt steps)).left { task, taken := steps } ending.exit) :=
  -- Its steps come first, and then the section that ends it.
  (free_works reaches).tail (moves_finish rfl rfl ends)

/-- A thread that has left nothing behind yet says nothing wrong of its worker. -/
theorem whole_held (task : Task μ α ε) (spawnable : Bool) (taken : Nat) (shake : Handshake) :
    (held task spawnable taken shake).Whole := by
  rintro _ ⟨⟩ ⟨⟩

/-- Where a worker ends that was started freely, so does the thread. -/
theorem RestsAs.ended_free {steps : Nat} (within : steps ≤ patience) (reaches : task.Reaches steps)
    {ending : Ending α ε} (ends : task.turn steps = .ends ending)
    (ended : hosted.Ended task spawnable .free steps ending.exit) :
    RestsAs task spawnable hosted {
      worker := task.worker
      spawnable
      -- A thread with patience enough shows the end of the task.
      status := .started .free 0 (task.worker.free patience) } := by
  rw [show task.worker.free patience = _ from Task.paced_ended reaches ends within]
  exact .ended ended

/-- A worker that waits shows what the thread shows that was granted as many steps. -/
theorem RestsAs.parked_granted {taken : Nat} (reaches : task.Reaches (taken + 1)) :
    RestsAs task spawnable (held task spawnable taken (parkedAt .idle taken)) {
      worker := task.worker
      spawnable
      status := .started .stepping taken (task.worker.paced taken) } := by
  -- The task reaches its next step, so the thread shows it waiting.
  rw [Task.paced_parked reaches]
  exact .parked reaches

/-- So does a stepped worker that has ended. -/
theorem RestsAs.ended_granted {taken : Nat} (reaches : task.Reaches taken) {ending : Ending α ε}
    (ends : task.turn taken = .ends ending)
    (ended : hosted.Ended task spawnable .stepping taken ending.exit) :
    RestsAs task spawnable hosted {
      worker := task.worker
      spawnable
      status := .started .stepping taken (task.worker.paced taken) } := by
  -- The task has no further step, so the thread shows its end.
  rw [Task.paced_ended reaches ends (Nat.le_refl taken)]
  exact .ended ended

/-- A stepped worker that is at work comes to rest before its next step, or where its task ends. -/
theorem working_rests (spawnable : Bool) {taken : Nat} (reaches : task.Reaches taken) :
    ∃ rest, (held task spawnable taken (workingAt .idle taken)).Works rest ∧ rest.Settled ∧
      RestsAs task spawnable rest {
        worker := task.worker
        spawnable
        status := .started .stepping taken (task.worker.paced taken) } := by
  -- After the steps that were granted the task asks for another one, or it has ended.
  cases turn : task.turn taken with
  | asks effect =>
    exact ⟨_, .single (working_parks turn), parked_settled, .parked_granted (reaches.succ turn)⟩
  | ends ending =>
    exact ⟨_, .single (moves_finish rfl rfl turn), settled_of_ended rfl,
      .ended_granted reaches turn
        (ended_left task spawnable (workingAt .idle taken) rfl taken ending.exit)⟩

/-- A host that waits for a worker at work waits no longer where that comes to rest. -/
theorem working_cycles (spawnable : Bool) {taken : Nat} (reaches : task.Reaches taken) :
    ∃ rest closed, (held task spawnable taken (workingAt (.waiting (taken + 1)) taken)).Works rest ∧
      rest.Settled ∧ rest.endCycle? = some closed ∧ closed.Settled ∧
      RestsAs task spawnable closed {
        worker := task.worker
        spawnable
        status := .started .stepping taken (task.worker.paced taken) } := by
  -- As without waiting; but here it is also seen that the wait is over.
  cases turn : task.turn taken with
  | asks effect =>
    -- The worker has arrived as often as the host waits for.
    exact ⟨_, _, .single (working_parks turn), parked_settled,
      by simp [endCycle?, held, parkedAt, Handshake.step?], parked_settled,
      .parked_granted (reaches.succ turn)⟩
  | ends ending =>
    obtain ⟨joined, closes, ended⟩ :=
      (ended_left task spawnable (workingAt .idle taken) rfl taken
        ending.exit).join
    -- The worker has finished, and its thread is joined.
    exact ⟨_, joined, .single (moves_finish rfl rfl turn), settled_of_ended rfl,
      by simpa [endCycle?, held, left, workingAt, Handshake.step?] using closes, ended.settled,
      .ended_granted reaches turn ended⟩

/-- Calls on a worker that was not started. -/
theorem unstarted_leads (call : HostCall)
    (stops : call = .runBlocking ∨ call = .startFree → task.Stops patience) :
    LeadsAs task spawnable patience call (fresh task spawnable)
      { worker := task.worker, spawnable } := by
  have idle : (fresh task spawnable).Settled := settled_of_none rfl
  -- Without a start there is nobody to step, to ask or to wait for.
  cases call with
  | resume | cycle => exact ⟨_, fun _ _ => HostCall.leads_refused rfl idle, .unstarted⟩
  | outcome => exact ⟨_, fun _ _ => HostCall.leads_settled rfl idle rfl idle, .unstarted⟩
  | terminate =>
    -- The task is dropped, and there is no thread to wait for.
    exact ⟨_, fun _ _ => HostCall.leads_settled rfl (settled_of_none rfl) rfl (settled_of_none rfl),
      .discarded rfl⟩
  | runBlocking =>
    cases spawnable with
    | false =>
      exact ⟨_, fun _ _ => HostCall.leads_refused rfl (settled_of_none rfl), .discarded rfl⟩
    | true =>
      obtain ⟨steps, ending, within, reaches, ends⟩ := stops (.inl rfl)
      obtain ⟨joined, closes, ended⟩ :=
        (ended_left task true (freeAt steps) rfl steps ending.exit).join
      -- The host waits until the thread can be joined.
      exact ⟨joined, fun _ _ => HostCall.leads_in_the_end rfl
        (fun _ _ works joins => works.settled_of_join? (whole_held task true 0 (freeAt 0)) joins)
        (free_rests reaches ends) (settled_of_ended rfl) closes ended.settled,
        .ended_free within reaches ends ended⟩
  | startFree =>
    cases spawnable with
    | false =>
      exact ⟨_, fun _ _ => HostCall.leads_refused rfl (settled_of_none rfl), .discarded rfl⟩
    | true =>
      obtain ⟨steps, ending, within, reaches, ends⟩ := stops (.inr rfl)
      exact ⟨_, fun _ _ => HostCall.leads_at_once rfl (fun _ => rfl) (free_rests reaches ends)
        (settled_of_ended rfl),
        .ended_free within reaches ends (ended_left task true (freeAt steps) rfl steps ending.exit)⟩
  | startStepping =>
    cases spawnable with
    | false =>
      exact ⟨_, fun _ _ => HostCall.leads_refused rfl (settled_of_none rfl), .discarded rfl⟩
    | true =>
      -- The worker goes on to its first cooperation point, or to the end of an empty task.
      have start : task.Reaches 0 := fun _ before => absurd before (Nat.not_lt_zero _)
      obtain ⟨rest, works, settled, same⟩ := working_rests true start
      exact ⟨rest, fun _ _ => HostCall.leads_at_once rfl (fun _ => rfl) works settled, same⟩

/-- Calls on a worker that is gone and never ran. -/
theorem discarded_leads (call : HostCall) {shake : Handshake} (idle : shake.host = .idle) :
    LeadsAs task spawnable patience call
      { spawnable, task? := none, shake, memory := task.initial }
      { worker := task.worker, spawnable, status := .discarded } := by
  -- Without a thread no section is run, whatever the record says.
  have still : ∀ shake : Handshake, ({ spawnable, task? := none, shake, memory := task.initial } :
    Hosted μ α ε).Settled := fun _ => settled_of_none rfl
  cases call with
  | runBlocking | startFree | startStepping | resume | cycle =>
    exact ⟨_, fun _ _ => HostCall.leads_refused rfl (still shake), .discarded idle⟩
  | terminate =>
    -- The record is told, but nobody looks at it.
    refine ⟨_, fun _ _ => HostCall.leads_settled rfl (settled_of_none rfl) rfl (settled_of_none rfl),
      .discarded ?_⟩
    simp [Handshake.step?, idle]
  | outcome =>
    refine ⟨_, fun _ _ => HostCall.leads_settled rfl (still shake) ?_ (still shake),
      .discarded idle⟩
    -- There is no thread to join, whether the record says finished or not.
    show reap? _ = _
    unfold reap?
    split <;> rfl

/-- Calls on a worker that waits before a step of its task. -/
theorem parked_leads (call : HostCall) {granted : Nat} (reaches : task.Reaches (granted + 1)) :
    LeadsAs task spawnable patience call (held task spawnable granted (parkedAt .idle granted)) {
      worker := task.worker
      spawnable
      status :=
        .started .stepping granted (.parked (task.after granted) (task.after granted)) } := by
  have settled : (held task spawnable granted (parkedAt .idle granted)).Settled := parked_settled
  -- The task asks for its next step, since it reaches the one behind.
  obtain ⟨effect, asks⟩ := reaches granted (Nat.lt_succ_self granted)
  cases call with
  | runBlocking | startFree | startStepping =>
    exact ⟨_, fun _ _ => HostCall.leads_refused rfl settled, .parked reaches⟩
  | outcome =>
    exact ⟨_, fun _ _ => HostCall.leads_settled rfl settled rfl settled, .parked reaches⟩
  | resume =>
    -- The grant is used up by the step, and then the worker comes to rest before the next one.
    obtain ⟨rest, works, settled, same⟩ := working_rests spawnable reaches
    exact ⟨rest, fun _ _ => HostCall.leads_at_once rfl (fun _ => rfl)
      ((granted_works asks).trans works) settled, same⟩
  | cycle =>
    -- The same, and the host waits until the worker has arrived again or has finished.
    obtain ⟨rest, closed, works, settled, closes, still, same⟩ :=
      working_cycles spawnable reaches
    exact ⟨closed, fun _ _ => HostCall.leads_in_the_end rfl
      (fun _ _ works ends => works.settled_of_endCycle? (grantedAt_counted granted) rfl ends)
      ((granted_works asks).trans works) settled closes still, same⟩
  | terminate =>
    -- The worker wakes, gives up and ends, and its thread is joined.
    obtain ⟨joined, closes, ended⟩ :=
      (ended_left task spawnable (leavingAt granted) rfl granted
        (.returned .cancelled)).join
    exact ⟨joined, fun _ _ => HostCall.leads_in_the_end rfl
      (fun _ _ works joins => works.settled_of_join? (whole_held task spawnable granted _) joins)
      calledOff_works (settled_of_ended rfl) closes ended.settled, .ended ended⟩

/-- A worker that has ended is not started again. -/
theorem Ended.spawn {steps : Nat} {mode : Mode} {exit : Exit α ε}
    (ended : hosted.Ended task spawnable mode steps exit) (how : Mode) :
    Hosted.spawn how hosted = .error .alreadyStarted hosted := by
  -- It was started, and no more is asked before it is refused.
  unfold Hosted.spawn
  rw [if_pos ended.isStarted]

/-- A worker that has ended is refused a step unless it was stepped to its end. -/
theorem Ended.refuses {steps : Nat} {mode : Mode} {exit : Exit α ε}
    (ended : hosted.Ended task spawnable mode steps exit) (mode_ne : mode ≠ .stepping)
    (after : Hosted.Call μ α ε Unit) :
    (do Hosted.ensureStepping; after : Hosted.Call μ α ε Unit) hosted =
      .error (if mode = .free then .notStepping else .terminated) hosted := by
  show EStateM.bind _ _ hosted = _
  -- The mode says which refusal it is.
  unfold EStateM.bind Hosted.ensureStepping
  rw [if_pos ended.isStarted, ended.mode]
  cases mode with
  | free | terminating => rfl
  | stepping => exact absurd rfl mode_ne

/-- A worker that was stepped to its end may still be granted a step. -/
theorem Ended.admits {steps : Nat} {exit : Exit α ε}
    (ended : hosted.Ended task spawnable .stepping steps exit) (after : Hosted.Call μ α ε Unit) :
    (do Hosted.ensureStepping; after : Hosted.Call μ α ε Unit) hosted = after hosted := by
  show EStateM.bind _ _ hosted = _
  -- It was started, and it is in the mode that steps are granted in.
  unfold EStateM.bind Hosted.ensureStepping
  rw [if_pos ended.isStarted, ended.mode]

/-- A grant that nobody uses leaves the worker where it ended. -/
theorem Ended.request {steps : Nat} {mode : Mode} {exit : Exit α ε}
    (ended : hosted.Ended task spawnable mode steps exit) :
    Hosted.Ended task spawnable mode steps exit { hosted with
      shake := { hosted.shake with signals := hosted.shake.signals.request } } :=
  -- A grant changes one counter, which nothing said of an ended worker is about.
  { ended with }

/-- Calls on a worker that has ended. -/
theorem ended_leads (call : HostCall) {steps granted : Nat} {mode : Mode} {exit : Exit α ε}
    (ended : hosted.Ended task spawnable mode steps exit) :
    LeadsAs task spawnable patience call hosted {
      worker := task.worker
      spawnable
      status := .started mode granted (.ended (task.after steps) exit.outcome steps) } := by
  -- Joined or not, the worker has ended, so only what the host is told is left to find.
  obtain ⟨joined, closes, still⟩ := ended.join
  cases call with
  | runBlocking | startFree | startStepping =>
    exact ⟨_, fun _ _ => HostCall.leads_refused (ended.spawn _) ended.settled, .ended ended⟩
  | outcome =>
    exact ⟨joined, fun _ _ => HostCall.leads_settled rfl ended.settled
      ((if_pos ended.finished).trans closes) still.settled, .ended still⟩
  | terminate =>
    -- One that has finished is not called off, and it has no task left to drop.
    have opened : HostCall.terminate.opening hosted = .ok () hosted := by
      have told : hosted.shake.step? .terminate = some hosted.shake := by
        rw [Handshake.step?, if_pos ended.idle, Signals.cancel, if_pos ended.finished]
      show EStateM.Result.ok () { hosted with
        shake := (hosted.shake.step? .terminate).getD hosted.shake, task? := none } = _
      rw [told, Option.getD_some, ← ended.task?]
    exact ⟨joined, fun _ _ => HostCall.leads_settled opened ended.settled closes still.settled,
      .ended still⟩
  | resume =>
    cases mode with
    | free | terminating =>
      exact ⟨_, fun _ _ => HostCall.leads_refused (ended.refuses (by decide) _) ended.settled,
        .ended ended⟩
    | stepping =>
      have opened : HostCall.resume.opening hosted = .ok () { hosted with
          shake := { hosted.shake with signals := hosted.shake.signals.request } } := by
        refine (ended.admits _).trans ?_
        show EStateM.Result.ok () { hosted with
          shake := (hosted.shake.step? .resume).getD hosted.shake } = _
        simp [Handshake.step?, ended.idle, ended.mode]
      exact ⟨_, fun _ _ => HostCall.leads_settled opened ended.request.settled rfl
        ended.request.settled, .ended ended.request⟩
  | cycle =>
    cases mode with
    | free | terminating =>
      exact ⟨_, fun _ _ => HostCall.leads_refused (ended.refuses (by decide) _) ended.settled,
        .ended ended⟩
    | stepping =>
      -- There is nothing to wait for, and the thread is joined.
      have opened : HostCall.cycle.opening hosted = .ok () hosted := by
        refine (ended.admits _).trans ?_
        show EStateM.Result.ok () { hosted with
          shake := (hosted.shake.step? .beginCycle).getD hosted.shake } = _
        simp [Handshake.step?, ended.idle, ended.mode, ended.finished]
      have waited : hosted.endCycle? = some joined := by
        simp [endCycle?, ended.idle, ended.finished, closes]
      exact ⟨joined, fun _ _ => HostCall.leads_settled opened ended.settled waited still.settled,
        .ended still⟩

/-- Every call leads a worker and its thread from states that show the same to states that do, with
the same answer. A worker that is started freely must end by itself. -/
theorem RestsAs.leads (rests : RestsAs task spawnable hosted thread) (call : HostCall)
    (stops : call = .runBlocking ∨ call = .startFree → task.Stops patience) :
    LeadsAs task spawnable patience call hosted thread := by
  -- There are four places where a worker can rest.
  cases rests with
  | unstarted => exact unstarted_leads call stops
  | discarded idle => exact discarded_leads call idle
  | parked reaches => exact parked_leads call reaches
  | ended ended => exact ended_leads call ended

/-- The host of a worker at rest waits for nothing. -/
theorem RestsAs.idle (rests : RestsAs task spawnable hosted thread) :
    hosted.shake.host = .idle := by
  -- In every place where a worker can rest, the last call has returned.
  cases rests with
  | unstarted | parked => rfl
  | discarded idle => exact idle
  | ended ended => exact ended.idle

end Calls

/-- A worker that is never run again: its task is gone, and it was called off or has finished. -/
structure Stopped (hosted : Hosted μ α ε) : Prop where
  task? : hosted.task? = none
  idle : hosted.shake.host = .idle
  off : hosted.shake.signals.mode = .terminating ∨ hosted.shake.signals.finished = true

/-- Asking changes neither the mode nor whether the worker has finished. -/
theorem ask_signals (shake : Handshake) (signals : Signals) :
    (shake.ask signals).signals.mode = signals.mode ∧
      (shake.ask signals).signals.finished = signals.finished := by
  -- At most a grant is used up.
  unfold Handshake.ask Signals.consult
  cases mode : signals.mode with
  | free | terminating => exact ⟨mode, rfl⟩
  | stepping =>
    by_cases left : signals.consumed < signals.requested
    · simp only [if_pos left, and_self]
    · simp only [if_neg left, mode, and_self]

/-- Who is called off already, or has finished, is not called off again. -/
theorem cancel_of_off {signals : Signals}
    (off : signals.mode = .terminating ∨ signals.finished = true) : signals.cancel = signals := by
  unfold Signals.cancel
  rcases off with mode | finished
  · split
    · rfl
    · rw [← mode]
  · exact if_pos finished

/-- Who joins a thread has none any more, and the record is left alone. -/
theorem join?_gone {hosted joined : Hosted μ α ε} (joins : hosted.join? = some joined) :
    joined.runner? = none ∧ joined.shake = hosted.shake ∧ joined.task? = hosted.task? := by
  -- Either it was joined before, or its thread hands over how it ended.
  cases held : hosted.runner? with
  | none =>
    simp only [join?, held, Option.some.injEq] at joins
    exact joins ▸ ⟨held, rfl, rfl⟩
  | some runner =>
    simp only [join?, held] at joins
    obtain ⟨exit, -, rfl⟩ := Option.map_eq_some_iff.mp joins
    exact ⟨rfl, rfl, rfl⟩

/-- No section of the worker undoes that it was stopped. -/
theorem Moves.stopped {hosted next : Hosted μ α ε} (moves : hosted.Moves next)
    (stopped : hosted.Stopped) : next.Stopped := by
  -- The host is where it was, since no section of the worker moves it.
  have idle : next.shake.host = .idle := moves.host.trans stopped.idle
  obtain ⟨event, ran⟩ := moves
  cases held : hosted.runner? with
  | none => simp [turn?_of_none held] at ran
  | some runner =>
    -- The mode stays as it is, and who has finished stays so.
    cases (turn?_eq_some_iff held).mp ran with
    | work => exact { stopped with }
    | cooperate =>
      obtain ⟨mode, finished⟩ := ask_signals hosted.shake hosted.shake.signals.arrive
      have arrive : hosted.shake.signals.arrive.mode = hosted.shake.signals.mode ∧
          hosted.shake.signals.arrive.finished = hosted.shake.signals.finished := by
        unfold Signals.arrive
        split <;> exact ⟨rfl, rfl⟩
      exact ⟨stopped.task?, idle, stopped.off.imp (fun off => mode.trans (arrive.1.trans off))
        fun off => finished.trans (arrive.2.trans off)⟩
    | wake =>
      obtain ⟨mode, finished⟩ := ask_signals hosted.shake hosted.shake.signals
      exact ⟨stopped.task?, idle, stopped.off.imp mode.trans finished.trans⟩
    | giveUp | finish => exact ⟨stopped.task?, idle, .inr rfl⟩

end Hosted

namespace HostCall

variable {hosted next : Hosted μ α ε} {answer : Except ThreadError Unit}

/-- What the host has when it has told the worker to give up and dropped the task. -/
theorem opening_terminate (idle : hosted.shake.host = .idle) :
    terminate.opening hosted = .ok () { hosted with
      shake := { hosted.shake with signals := hosted.shake.signals.cancel }, task? := none } := by
  show EStateM.Result.ok () { hosted with
    -- The host is idle, so nothing keeps it from calling off.
    shake := (hosted.shake.step? .terminate).getD hosted.shake, task? := none } = _
  rw [Handshake.step?, if_pos idle, Option.getD_some]

/-- A worker that was stopped for good has no thread left, and stopping it again changes nothing. -/
theorem terminate_again (idle : hosted.shake.host = .idle)
    (leads : terminate.Leads hosted answer next) :
    next.runner? = none ∧
      ∀ told other, terminate.Leads next told other ↔ told = .ok () ∧ other = next := by
  unfold Leads Returns at leads
  rw [opening_terminate idle] at leads
  -- Between the call and the joining the worker runs sections of its own.
  obtain ⟨returned, ⟨-, waited, works, joined⟩, further, -⟩ := leads
  have stopped : waited.Stopped := by
    refine works.keeps (fun stopped moves => moves.stopped stopped) ⟨rfl, idle, ?_⟩
    -- Unless it has finished, the worker is called off.
    show hosted.shake.signals.cancel.mode = _ ∨ hosted.shake.signals.cancel.finished = _
    unfold Signals.cancel
    by_cases finished : hosted.shake.signals.finished = true
    · rw [if_pos finished]
      exact .inr finished
    · rw [if_neg finished]
      exact .inl rfl
  obtain ⟨gone, shake, task⟩ := Hosted.join?_gone joined
  -- The joining leaves no thread, so the worker does nothing after it.
  obtain rfl := further.eq_of_settled (Hosted.settled_of_none gone)
  have stopped : next.Stopped :=
    ⟨task.trans stopped.task?, shake ▸ stopped.idle, shake ▸ stopped.off⟩
  refine ⟨gone, fun told other => leads_settled ?_ (Hosted.settled_of_none gone) ?_
    (Hosted.settled_of_none gone)⟩
  · -- It is told again what it was told before.
    rw [opening_terminate stopped.idle, Hosted.cancel_of_off stopped.off, ← stopped.task?]
  · -- Without a thread there is nothing to join either.
    show next.join? = _
    simp only [Hosted.join?, gone]

end HostCall

end StepMachine
