import Mathlib.Logic.Relation
import StepMachine.Proofs.Worker.Counters
import StepMachine.Worker.Hosted

/-! A worker that is left alone: it comes to rest in one place only, in whatever order its sections
and its wakings without reason follow each other. -/

namespace StepMachine

namespace Hosted

/-- What is left of a worker whose thread has ended. -/
def left (hosted : Hosted μ α ε) (runner : Runner μ α ε) (exit : Exit α ε) : Hosted μ α ε :=
  { hosted with
    shake := { hosted.shake with
      signals := { hosted.shake.signals with finished := true }, worker := .ended }
    runner? := some { runner with exit? := some exit } }

/-- What a worker can do in each place, one rule for each section and for each way to end. -/
inductive Does (hosted : Hosted μ α ε) (runner : Runner μ α ε) :
    WorkerEvent → Hosted μ α ε → Prop where
  | work {effect : μ → μ} (working : hosted.shake.worker = .working)
    (within : runner.taken < hosted.shake.begun)
    (asks : runner.task.turn runner.taken = .asks effect) :
    Does hosted runner .work { hosted with
      memory := effect hosted.memory
      runner? := some { runner with taken := runner.taken + 1 } }
  | cooperate {effect : μ → μ} (working : hosted.shake.worker = .working)
    (level : runner.taken = hosted.shake.begun)
    (asks : runner.task.turn runner.taken = .asks effect) :
    Does hosted runner .cooperate
      { hosted with shake := hosted.shake.ask hosted.shake.signals.arrive }
  | wake (parked : hosted.shake.worker = .parked) :
    Does hosted runner .wake { hosted with shake := hosted.shake.ask hosted.shake.signals }
  /-- It ends because it was called off. -/
  | giveUp (leaving : hosted.shake.worker = .leaving) :
    Does hosted runner .finish (hosted.left runner (.returned .cancelled))
  /-- It ends by itself. -/
  | finish {ending : Ending α ε} (working : hosted.shake.worker = .working)
    (level : runner.taken = hosted.shake.begun)
    (ends : runner.task.turn runner.taken = .ends ending) :
    Does hosted runner .finish (hosted.left runner ending.exit)

variable {hosted next other last : Hosted μ α ε} {runner : Runner μ α ε} {event : WorkerEvent}

/-- A section of a worker that has a thread does what the rules say. -/
theorem turn?_eq_some_iff (held : hosted.runner? = some runner) :
    hosted.turn? event = some next ↔ hosted.Does runner event next := by
  obtain ⟨spawnable, task, thread, outcome, shake, memory⟩ := hosted
  cases held
  constructor
  · intro ran
    -- Each section has its guards, which are those of its rule.
    cases event with
    | work =>
      simp only [turn?, Option.bind_eq_bind, Option.bind_some] at ran
      split at ran
      · rename_i place
        split at ran
        · rename_i asks
          cases ran
          exact .work place.1 place.2 asks
        · cases ran
      · cases ran
    | cooperate =>
      simp only [turn?, Option.bind_eq_bind, Option.bind_some] at ran
      split at ran
      · rename_i asks
        split at ran
        · rename_i level
          obtain ⟨after, done, rfl⟩ := Option.map_eq_some_iff.mp ran
          obtain ⟨working, rfl⟩ := Handshake.step?_eq_some done
          exact .cooperate working level asks
        · cases ran
      · cases ran
    | wake =>
      simp only [turn?, Option.bind_eq_bind, Option.bind_some] at ran
      obtain ⟨after, done, rfl⟩ := Option.map_eq_some_iff.mp ran
      obtain ⟨parked, rfl⟩ := Handshake.step?_eq_some done
      exact .wake parked
    | finish =>
      simp only [turn?, Option.bind_eq_bind, Option.bind_some] at ran
      split at ran
      · rename_i leaving
        obtain ⟨after, done, rfl⟩ := Option.map_eq_some_iff.mp ran
        obtain ⟨-, rfl⟩ := Handshake.step?_eq_some done
        exact .giveUp leaving
      -- A worker at work takes a step, comes to the cooperation point, or ends.
      · rename_i working
        split at ran
        · cases ran
        · rename_i ends
          split at ran
          · rename_i level
            obtain ⟨after, done, rfl⟩ := Option.map_eq_some_iff.mp ran
            obtain ⟨-, rfl⟩ := Handshake.step?_eq_some done
            exact .finish working level ends
          · cases ran
      · cases ran
      · cases ran
  · intro does
    -- In the place that its rule names, each section can be run.
    cases does with
    | work working within asks =>
      dsimp only at working within
      simp [turn?, working, within, asks]
    | cooperate working level asks =>
      dsimp only at working level
      simp [turn?, Handshake.step?, working, ← level, asks]
    | wake parked =>
      dsimp only at parked
      simp [turn?, Handshake.step?, parked]
    | giveUp leaving =>
      dsimp only at leaving
      simp [turn?, leave?, left, Handshake.step?, leaving]
    | finish working level ends =>
      dsimp only at working level
      simp [turn?, leave?, left, Handshake.step?, working, ← level, ends]

/-- Without a thread there is nobody to run a section. -/
theorem turn?_of_none (gone : hosted.runner? = none) : hosted.turn? event = none := by
  -- Every section asks for the thread first.
  simp [turn?, gone]

/-- Who wakes without reason is told to wait again, and nothing has changed. -/
theorem ask_of_wait {shake : Handshake} (parked : shake.worker = .parked)
    (waits : shake.signals.consult.1 = .wait) : shake.ask shake.signals = shake := by
  -- Only a worker that is stepped and has no grant left is told to wait, and it uses nothing up.
  unfold Signals.consult at waits
  unfold Handshake.ask Signals.consult
  cases mode : shake.signals.mode with
  | free => simp [mode] at waits
  | terminating => simp [mode] at waits
  | stepping =>
    -- With a grant left it would go on.
    by_cases left : shake.signals.consumed < shake.signals.requested
    · simp [mode, left] at waits
    · simp only [if_neg left]
      rw [← parked]

/-- A section that a worker runs is the one that is due, or it is to wake without reason. -/
theorem Does.due (does : hosted.Does runner event next) : hosted.due runner = event := by
  -- In each place one section is due: the one whose rule names the place.
  cases does with
  | work working within _ => simp [Hosted.due, working, within]
  | cooperate working level asks => simp [Hosted.due, working, ← level, asks]
  | wake parked => simp [Hosted.due, parked]
  | giveUp leaving => simp [Hosted.due, leaving]
  | finish working level ends => simp [Hosted.due, working, ← level, ends]

/-- A section of the worker leads from one state to another one. -/
def Moves (hosted next : Hosted μ α ε) : Prop := ∃ event, hosted.turn? event = some next

/-- Sections of the worker, any number of them, lead from one state to another one. -/
def Works : Hosted μ α ε → Hosted μ α ε → Prop := Relation.ReflTransGen Moves

/-- A worker that has done all that it can do: each section that it could run changes nothing. -/
def Settled (hosted : Hosted μ α ε) : Prop := ∀ next, hosted.Moves next → next = hosted

/-- A section changes nothing, or it is the one that the worker runs when it is left alone. -/
theorem Moves.next? (moves : hosted.Moves next) : next = hosted ∨ hosted.next? = some next := by
  obtain ⟨event, ran⟩ := moves
  -- A thread must run for a section to be run.
  cases held : hosted.runner? with
  | none => simp [turn?_of_none held] at ran
  | some runner =>
    have does := (turn?_eq_some_iff held).mp ran
    by_cases idle : hosted.shake.worker = .parked ∧ hosted.shake.signals.consult.1 = .wait
    · -- The only section of a worker that waits is to wake, here without reason.
      left
      cases does with
      | wake parked => rw [ask_of_wait idle.1 idle.2]
      | work working | cooperate working | finish working | giveUp working =>
        exact absurd (idle.1.symm.trans working) nofun
    · right
      simp only [Hosted.next?, held, Option.bind_eq_bind, Option.bind_some, if_neg idle, does.due]
      exact ran

/-- Two sections lead to the same state, or one of them changes nothing. -/
theorem Moves.unique (one : hosted.Moves next) (two : hosted.Moves other) :
    next = other ∨ next = hosted ∨ other = hosted := by
  rcases one.next? with same | due
  · exact .inr (.inl same)
  · rcases two.next? with same | also
    · exact .inr (.inr same)
    · exact .inl (Option.some.inj (due.symm.trans also))

/-- What every section of the worker keeps, all of them keep. -/
theorem Works.keeps {invariant : Hosted μ α ε → Prop}
    (step : ∀ {hosted next : Hosted μ α ε}, invariant hosted → hosted.Moves next → invariant next)
    (works : hosted.Works next) (holds : invariant hosted) : invariant next := by
  -- The induction is on the sections, from the last one back.
  induction works with
  | refl => exact holds
  | tail _ moves ih => exact step ih moves

/-- One section does not lead away from where the worker comes to rest. -/
theorem Moves.confluent (moves : hosted.Moves next) (rests : hosted.Works last)
    (settled : last.Settled) : next.Works last := by
  -- The first section on the way to rest is this one, or one of the two changes nothing.
  induction rests using Relation.ReflTransGen.head_induction_on with
  | refl => exact settled _ moves ▸ .refl
  | head first rest ih =>
    rcases moves.unique first with rfl | rfl | rfl
    · exact rest
    · exact .head first rest
    · exact ih moves

/-- Nor do any number of them. -/
theorem Works.confluent (works : hosted.Works next) (rests : hosted.Works last)
    (settled : last.Settled) : next.Works last := by
  -- Section by section, each is on a way to the place of rest or changes nothing.
  induction works with
  | refl => exact rests
  | tail _ moves ih => exact moves.confluent ih settled

/-- A worker that has nothing to do stays where it is. -/
theorem Works.eq_of_settled (works : hosted.Works next) (settled : hosted.Settled) :
    next = hosted := by
  -- Each section leads back to where it started.
  induction works with
  | refl => rfl
  | tail _ moves ih =>
    subst ih
    exact settled _ moves

/-- The worker comes to rest in one place only. -/
theorem Works.unique (one : hosted.Works next) (rests : next.Settled) (two : hosted.Works last)
    (settled : last.Settled) : last = next :=
  (one.confluent two settled).eq_of_settled rests

/-- A section of the worker is one of the handshake's, or it leaves the record alone. -/
theorem Moves.step? (moves : hosted.Moves next) :
    next.shake = hosted.shake ∨ ∃ event, hosted.shake.step? event = some next.shake := by
  -- Each rule names the event of the handshake that it stands for, but for the step itself.
  obtain ⟨event, ran⟩ := moves
  cases held : hosted.runner? with
  | none => simp [turn?_of_none held] at ran
  | some runner =>
    cases (turn?_eq_some_iff held).mp ran with
    | work => exact .inl rfl
    | cooperate working => exact .inr ⟨.cooperate, by simp [Handshake.step?, working]⟩
    | wake parked => exact .inr ⟨.wake, by simp [Handshake.step?, parked]⟩
    | giveUp leaving => exact .inr ⟨.finish, by simp [Handshake.step?, left, leaving]⟩
    | finish working => exact .inr ⟨.finish, by simp [Handshake.step?, left, working]⟩

/-- The counters stay in order while the worker works. -/
theorem Works.counted (works : hosted.Works next) (counted : hosted.shake.Counted) :
    next.shake.Counted := by
  -- Each section keeps them, since each event of the handshake does.
  refine works.keeps (fun {one two} (held : one.shake.Counted) moves => ?_) counted
  rcases moves.step? with same | ⟨event, done⟩
  · rw [same]
    exact held
  · exact held.step done

/-- A worker without a thread has nothing to do. -/
theorem settled_of_none (gone : hosted.runner? = none) : hosted.Settled := by
  rintro next ⟨event, ran⟩
  simp [turn?_of_none gone] at ran

/-- Nor has one that has ended. -/
theorem settled_of_ended (ended : hosted.shake.worker = .ended) : hosted.Settled := by
  rintro next ⟨event, ran⟩
  cases held : hosted.runner? with
  | none => simp [turn?_of_none held] at ran
  | some runner =>
    -- No rule names the place where it is.
    cases (turn?_eq_some_iff held).mp ran with
    | work other | cooperate other | wake other | giveUp other | finish other =>
      exact absurd (ended.symm.trans other) nofun

/-- Nor has one that waits and would be told to wait again. -/
theorem settled_of_wait (parked : hosted.shake.worker = .parked)
    (waits : hosted.shake.signals.consult.1 = .wait) : hosted.Settled := by
  intro next moves
  -- A section changes nothing or is the one that is due, and none is.
  rcases moves.next? with same | due
  · exact same
  · obtain ⟨runner, -, due⟩ := Option.bind_eq_some_iff.mp due
    rw [if_pos ⟨parked, waits⟩] at due
    cases due

/-- Whether a thread has left something behind only if it has ended. -/
def Whole (hosted : Hosted μ α ε) : Prop :=
  ∀ runner, hosted.runner? = some runner → runner.exit?.isSome = true →
    hosted.shake.worker = .ended

/-- No section lets a thread leave something behind before it has ended. -/
theorem Moves.whole (moves : hosted.Moves next) (whole : hosted.Whole) : next.Whole := by
  obtain ⟨event, ran⟩ := moves
  cases held : hosted.runner? with
  | none => simp [turn?_of_none held] at ran
  | some runner =>
    have ended := whole runner held
    -- A worker that runs a section has not ended, so its thread has left nothing yet.
    cases (turn?_eq_some_iff held).mp ran with
    | work working =>
      rintro _ ⟨⟩ exits
      exact absurd (working.symm.trans (ended exits)) nofun
    -- To ask leaves the thread as it is, and a worker that asks has not ended.
    | cooperate working =>
      intro other same exits
      cases held.symm.trans same
      exact absurd (working.symm.trans (ended exits)) nofun
    | wake parked =>
      intro other same exits
      cases held.symm.trans same
      exact absurd (parked.symm.trans (ended exits)) nofun
    | giveUp | finish => exact fun _ _ _ => rfl

/-- A thread can be joined only where the worker has nothing to do any more. -/
theorem Works.settled_of_join? (works : hosted.Works next) (whole : hosted.Whole)
    (joined : next.join? = some last) : next.Settled := by
  -- Along the way, no thread leaves anything before it has ended.
  have whole : next.Whole := works.keeps (fun whole moves => moves.whole whole) whole
  cases held : next.runner? with
  | none => exact settled_of_none held
  | some runner =>
    simp only [join?, held] at joined
    obtain ⟨exit, left, -⟩ := Option.map_eq_some_iff.mp joined
    exact settled_of_ended (whole runner held (by simp [left]))

/-- Asking does not move the host. -/
theorem ask_host (shake : Handshake) (signals : Signals) :
    (shake.ask signals).host = shake.host := by
  -- Whatever the worker is told, only its own place and count change.
  unfold Handshake.ask
  split <;> rfl

/-- No section of the worker moves the host. -/
theorem Moves.host (moves : hosted.Moves next) : next.shake.host = hosted.shake.host := by
  obtain ⟨event, ran⟩ := moves
  cases held : hosted.runner? with
  | none => simp [turn?_of_none held] at ran
  | some runner =>
    -- Only when the worker asks is the record changed, and the host's place in it is not.
    cases (turn?_eq_some_iff held).mp ran with
    | cooperate | wake => exact ask_host ..
    | work | giveUp | finish => rfl

/-- The wait of a cycle is over only where the worker has nothing to do. -/
theorem Works.settled_of_endCycle? (works : hosted.Works next) (counted : hosted.shake.Counted)
    {target : Nat} (waiting : hosted.shake.host = .waiting target)
    (done : next.endCycle? = some last) : next.Settled := by
  -- The counters are in order, and the host still waits for the same arrival.
  have counted := works.counted counted
  have waiting : next.shake.host = .waiting target :=
    works.keeps (fun waits moves => moves.host.trans waits) waiting
  simp only [endCycle?, waiting] at done
  obtain ⟨shake, arrived, -⟩ := Option.bind_eq_some_iff.mp done
  cases alive : next.shake.signals.finished with
  | true => exact settled_of_ended (counted.finished.mp alive)
  | false =>
    -- Unless it has finished, the worker has used every grant and waits.
    obtain ⟨_, _, _, rfl⟩ := Handshake.step?_eq_some arrived
    obtain ⟨used, -, parked, -⟩ := counted.quiescent arrived alive
    have mode := (counted.waiting target waiting).2
    have used : next.shake.signals.requested = next.shake.signals.consumed := used
    exact settled_of_wait parked (by simp [Signals.consult, mode, used])

/-- A worker that has no section due has nothing to do. -/
theorem settled_of_next? (rests : hosted.next? = none) : hosted.Settled := by
  -- What a section changes, it changes because it is due.
  intro next moves
  rcases moves.next? with same | due
  · exact same
  · rw [rests] at due
    cases due

/-- The section that is due is one of the worker's. -/
theorem moves_of_next? (due : hosted.next? = some next) : hosted.Moves next := by
  -- A worker that waits without a grant has no section due.
  obtain ⟨runner, -, due⟩ := Option.bind_eq_some_iff.mp due
  split at due
  · cases due
  · exact ⟨_, due⟩

/-- A worker that is left alone runs sections of its own. -/
theorem settle_works (patience : Nat) (hosted : Hosted μ α ε) :
    hosted.Works (hosted.settle patience) := by
  -- The induction is on the sections that it may still run.
  induction patience generalizing hosted with
  | zero => exact .refl
  | succ patience ih =>
    rw [settle]
    cases due : hosted.next? with
    | none => exact .refl
    | some next => exact .head (moves_of_next? due) (ih next)

end Hosted

end StepMachine
