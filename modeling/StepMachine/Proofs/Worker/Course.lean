import StepMachine.Proofs.Worker.AtRest

/-! A thread that is seen only at rest, under every sequence of calls of its host: where a worker
that counts its steps can have come to. -/

namespace StepMachine

/-- What a host remembers of the calls that succeeded. -/
structure Notes where
  /-- How the worker was started, latest first. -/
  starts : List Mode := []
  /-- How many steps were granted while the worker was running. -/
  grants : Nat := 0
  /-- Whether the worker was called off while it was running. -/
  calledOff : Bool := false

/-- Remembers a call, if it succeeds; `running` says whether the worker was running before. -/
def Notes.add (notes : Notes) (call : HostCall) (running : Bool) :
    Except ThreadError Unit → Notes
  | .error _ => notes
  | .ok _ =>
    match call with
    | .runBlocking | .startFree => { notes with starts := .free :: notes.starts }
    | .startStepping => { notes with starts := .stepping :: notes.starts }
    | .resume | .cycle =>
      { notes with grants := if running then notes.grants + 1 else notes.grants }
    | .terminate => { notes with calledOff := notes.calledOff || running }
    | .outcome => notes

/-- How many of its steps a worker has taken, from what the host remembers. -/
def Notes.taken (notes : Notes) (steps : Nat) : Nat :=
  match notes.starts with
  | [] => 0
  | .free :: _ => steps
  | _ :: _ => min steps notes.grants

/-- A thread that is seen only at rest, and what its host remembers. -/
structure Sightings (μ α ε : Type) extends Notes where
  thread : Thread μ α ε

namespace Sightings

/-- Makes a call, and remembers it if it succeeds. -/
def step (patience : Nat) (sightings : Sightings μ α ε) (call : HostCall) : Sightings μ α ε :=
  let made := call.seen patience sightings.thread
  { sightings.add call sightings.thread.isRunning made.1 with thread := made.2 }

/-- Makes calls one after the other. -/
def run (patience : Nat) (sightings : Sightings μ α ε) (calls : List HostCall) :
    Sightings μ α ε :=
  calls.foldl (step patience) sightings

/-- Where a worker that counts to `steps` can have come to. -/
inductive Course (steps : Nat) (ending : Ending Nat String) (spawnable : Bool) :
    Sightings (List Nat) Nat String → Prop where
  | unstarted : Course steps ending spawnable {
      thread := { worker := (Task.counting steps ending).worker, spawnable } }
  /-- The worker is gone and never ran. -/
  | discarded : Course steps ending spawnable {
      thread := { worker := (Task.counting steps ending).worker, spawnable, status := .discarded } }
  | free (granted : Nat) : Course steps ending spawnable {
      thread := {
        worker := (Task.counting steps ending).worker
        spawnable
        status := .started .free granted (.ended (List.range steps) ending.outcome steps) }
      starts := [.free] }
  /-- The worker has used every grant and waits for another one. -/
  | parked (granted : Nat) (few : granted < steps) : Course steps ending spawnable {
      thread := {
        worker := (Task.counting steps ending).worker
        spawnable
        status := .started .stepping granted (.parked (List.range granted) (List.range granted)) }
      starts := [.stepping]
      grants := granted }
  /-- The worker has ended by itself; it may have been granted more since. -/
  | ended (granted : Nat) : Course steps ending spawnable {
      thread := {
        worker := (Task.counting steps ending).worker
        spawnable
        status := .started .stepping granted (.ended (List.range steps) ending.outcome steps) }
      starts := [.stepping]
      grants := steps }
  | cancelled (granted : Nat) (few : granted < steps) : Course steps ending spawnable {
      thread := {
        worker := (Task.counting steps ending).worker
        spawnable
        status := .started .terminating granted (.ended (List.range granted) .cancelled granted) }
      starts := [.stepping]
      grants := granted
      calledOff := true }

end Sightings

namespace Task

variable {steps taken : Nat} {ending : Ending Nat String}

/-- A task that counts to `steps` asks before each of them. -/
theorem counting_asks (few : taken < steps) :
    (counting steps ending).turn taken = .asks (· ++ [taken]) := if_pos few

/-- It ends when it has taken them all. -/
theorem counting_ends : (counting steps ending).turn steps = .ends ending :=
  if_neg (Nat.lt_irrefl steps)

/-- It does not end before. -/
theorem counting_reaches (le : taken ≤ steps) : (counting steps ending).Reaches taken :=
  fun _ before => ⟨_, counting_asks (Nat.lt_of_lt_of_le before le)⟩

/-- So it stops. -/
theorem counting_stops : (counting steps ending).Stops steps :=
  ⟨steps, ending, Nat.le_refl steps, counting_reaches (Nat.le_refl steps), counting_ends⟩

/-- It has written down the numbers of the steps that it has taken. -/
theorem counting_after (le : taken ≤ steps) :
    (counting steps ending).after taken = List.range taken := by
  -- The induction is on the steps that it has taken.
  induction taken with
  | zero => rfl
  | succ taken ih =>
    -- Each step appends its own number.
    rw [after_succ (counting_asks le), ih (Nat.le_of_succ_le le), List.range_succ]

/-- A worker that is granted so many steps has ended if these are all that it takes, and waits
otherwise. -/
theorem counting_paced (granted : Nat) :
    (counting steps ending).worker.paced granted =
      if granted < steps then .parked (List.range granted) (List.range granted)
      else .ended (List.range steps) ending.outcome steps := by
  -- The grants end before the steps do, or the steps end first.
  split
  · rename_i few
    rw [paced_parked (counting_reaches few), counting_after (Nat.le_of_lt few)]
  · rename_i enough
    rw [paced_ended (counting_reaches (Nat.le_refl steps)) counting_ends (Nat.le_of_not_lt enough),
      counting_after (Nat.le_refl steps)]

/-- A worker that nothing holds back counts to the end. -/
theorem counting_free {patience : Nat} (enough : steps ≤ patience) :
    (counting steps ending).worker.free patience =
      .ended (List.range steps) ending.outcome steps :=
  (counting_paced patience).trans (if_neg (Nat.not_lt.mpr enough))

end Task

namespace Sightings

variable {steps patience : Nat} {ending : Ending Nat String} {spawnable : Bool}
  {sightings : Sightings (List Nat) Nat String}

/-- A worker that is started freely has come to its end. -/
theorem Course.startFree (enough : steps ≤ patience) : Course steps ending true {
    thread := {
      worker := (Task.counting steps ending).worker
      spawnable := true
      status := .started .free 0 ((Task.counting steps ending).worker.free patience) }
    starts := [.free] } := by
  -- With patience enough the thread shows the end of the count.
  rw [Task.counting_free enough]
  exact .free 0

/-- A worker that is started to be stepped waits before its first step, or it has none. -/
theorem Course.startStepping : Course steps ending true {
    thread := {
      worker := (Task.counting steps ending).worker
      spawnable := true
      status := .started .stepping 0 ((Task.counting steps ending).worker.paced 0) }
    starts := [.stepping] } := by
  -- Without steps it ends at once.
  rw [Task.counting_paced]
  cases steps with
  | zero => exact .ended 0
  | succ steps => exact .parked 0 (Nat.succ_pos steps)

/-- A worker that waits and is granted a step takes it, and then it waits again or has ended. -/
theorem Course.grant {granted : Nat} (few : granted < steps) : Course steps ending spawnable {
    thread := {
      worker := (Task.counting steps ending).worker
      spawnable
      status := .started .stepping (granted + 1)
        ((Task.counting steps ending).worker.paced (granted + 1)) }
    starts := [.stepping]
    grants := granted + 1 } := by
  -- The step that was granted is the last one, or there are more.
  rw [Task.counting_paced]
  split
  · rename_i further
    exact .parked (granted + 1) further
  · have all : granted + 1 = steps := by omega
    subst all
    exact .ended (granted + 1)

/-- Every call leads from one such place to another one. -/
theorem Course.step (course : Course steps ending spawnable sightings) (enough : steps ≤ patience)
    (call : HostCall) : Course steps ending spawnable (sightings.step patience call) := by
  -- In each place the thread answers a call in one way, which can be read off.
  cases course with
  | unstarted =>
    cases call with
    | runBlocking | startFree =>
      cases spawnable with
      | true => exact .startFree enough
      | false => exact .discarded
    | startStepping =>
      cases spawnable with
      | true => exact .startStepping
      | false => exact .discarded
    | resume | cycle | outcome => exact .unstarted
    | terminate => exact .discarded
  | discarded =>
    cases call <;> exact .discarded
  | free granted =>
    -- A worker that has run freely has ended, and nothing is done to it any more.
    cases call <;> exact .free granted
  | parked granted few =>
    cases call with
    | runBlocking | startFree | startStepping | outcome => exact .parked granted few
    | resume | cycle => exact .grant few
    | terminate => exact .cancelled granted few
  | ended granted =>
    cases call with
    | runBlocking | startFree | startStepping | outcome | terminate => exact .ended granted
    -- More grants are counted by the thread, but nobody makes use of them.
    | resume | cycle => exact .ended (granted + 1)
  | cancelled granted few =>
    cases call <;> exact .cancelled granted few

/-- Every sequence of calls leads from one such place to another one. -/
theorem Course.run (course : Course steps ending spawnable sightings) (enough : steps ≤ patience)
    (calls : List HostCall) : Course steps ending spawnable (sightings.run patience calls) := by
  -- The induction is on the calls, each made where the one before has led.
  induction calls generalizing sightings with
  | nil => exact course
  | cons call calls ih => exact ih (course.step enough call)

/-- The worker has written down the numbers of the steps that it has taken. -/
theorem Course.log (course : Course steps ending spawnable sightings) :
    sightings.thread.view = List.range (sightings.taken steps) := by
  cases course with
  | unstarted | discarded | free _ => rfl
  | parked granted few | cancelled granted few =>
    -- What was granted while the worker was running is less than all of its steps.
    simp [Notes.taken, Thread.view, Rest.view, Nat.min_eq_right (Nat.le_of_lt few)]
  | ended granted => simp [Notes.taken, Thread.view, Rest.view]

/-- The worker was started once at most. -/
theorem Course.once (course : Course steps ending spawnable sightings) :
    sightings.starts.length ≤ 1 := by
  -- No place has more than one start to remember.
  cases course <;> simp

/-- A worker has an outcome just if it was started and is not running: that it was called off, if it
was while it waited, and its own ending otherwise. -/
theorem Course.outcome (course : Course steps ending spawnable sightings) :
    sightings.thread.outcome? =
      if sightings.thread.isStarted = true ∧ sightings.thread.isRunning = false then
        some (if sightings.calledOff then .cancelled else ending.outcome)
      else none := by
  -- What the thread shows in each place is what the host has noted.
  cases course <;> rfl

/-- A worker is called off only while it is stepped, and then it does not run any more. -/
theorem Course.calledOff (course : Course steps ending spawnable sightings)
    (off : sightings.calledOff = true) :
    sightings.starts = [.stepping] ∧ sightings.thread.outcome? = some .cancelled := by
  -- Only one place has the note, and there the worker was called off.
  cases course with
  | cancelled granted few => exact ⟨rfl, rfl⟩
  | unstarted | discarded | free _ | parked _ _ | ended _ => cases off

/-- A call changes neither that a worker has stopped nor how it ended. -/
theorem Course.stopped_step (course : Course steps ending spawnable sightings)
    (started : sightings.thread.isStarted = true) (stopped : sightings.thread.isRunning = false)
    (patience : Nat) (call : HostCall) :
    (sightings.step patience call).thread.isStarted = true ∧
      (sightings.step patience call).thread.isRunning = false ∧
      (sightings.step patience call).calledOff = sightings.calledOff := by
  -- A worker that has stopped is in one of three places, and no call leads away from them.
  cases course with
  | unstarted | discarded => cases started
  | parked _ _ => cases stopped
  | free _ | ended _ | cancelled _ _ => cases call <;> exact ⟨rfl, rfl, rfl⟩

/-- No calls change that a worker has stopped, or how it ended. -/
theorem Course.stopped_run (course : Course steps ending spawnable sightings)
    (enough : steps ≤ patience) (started : sightings.thread.isStarted = true)
    (stopped : sightings.thread.isRunning = false) (calls : List HostCall) :
    (sightings.run patience calls).thread.isStarted = true ∧
      (sightings.run patience calls).thread.isRunning = false ∧
      (sightings.run patience calls).calledOff = sightings.calledOff := by
  -- The induction is on the calls.
  induction calls generalizing sightings with
  | nil => exact ⟨started, stopped, rfl⟩
  | cons call calls ih =>
    obtain ⟨started, stopped, off⟩ := course.stopped_step started stopped patience call
    obtain ⟨still, resting, same⟩ := ih (course.step enough call) started stopped
    exact ⟨still, resting, same.trans off⟩

/-- The sight of a worker that is gone and never ran. -/
def gone (worker : Worker μ α ε) (spawnable : Bool) : Sightings μ α ε where
  thread := { worker, spawnable, status := .discarded }

/-- A worker that is gone stays so, whatever the calls. -/
theorem gone_run (worker : Worker μ α ε) (spawnable : Bool) (patience : Nat)
    (calls : List HostCall) :
    (gone worker spawnable).run patience calls = gone worker spawnable := by
  -- The induction is on the calls.
  induction calls with
  | nil => rfl
  | cons call calls ih =>
    -- Each call is refused, or it does nothing.
    cases call <;> exact ih

/-- A worker that was not started is gone after a start that fails for want of a thread, and after
the host has stopped it for good. -/
theorem Course.discards (course : Course steps ending spawnable sightings)
    (idle : sightings.thread.isStarted = false) {call : HostCall}
    (loses : call = .terminate ∨ .error .spawn = (call.seen patience sightings.thread).1) :
    sightings.step patience call = gone (Task.counting steps ending).worker spawnable := by
  -- Not started are a fresh worker and one that is gone, and the latter stays so.
  cases course with
  | free _ | parked _ _ | ended _ | cancelled _ _ => cases idle
  | discarded => cases call <;> rfl
  | unstarted =>
    rcases loses with rfl | fails
    · rfl
    · -- Only a start can fail so, and only where there is no thread to be had.
      cases call with
      | runBlocking | startFree | startStepping =>
        cases spawnable with
        | true => cases fails
        | false => rfl
      | resume | cycle | terminate | outcome => cases fails

end Sightings

end StepMachine
