import StepMachine.Proofs.Worker.Course

/-! A worker under every sequence of calls of its host, seen after each call when the worker has
done all that it can do without a further grant. -/

namespace StepMachine

/-- A worker, and what its host remembers of the calls that succeeded. -/
structure Dealings (μ α ε : Type) extends Notes where
  hosted : Hosted μ α ε

namespace Dealings

/-- The dealings with a task that no thread was made for. -/
def fresh (task : Task μ α ε) (spawnable : Bool) : Dealings μ α ε where
  hosted := .fresh task spawnable

/-- Calls that are made one after the other, each when the worker has done all that it can do, lead
from some dealings to others. -/
inductive Comes : Dealings μ α ε → List HostCall → Dealings μ α ε → Prop where
  | done {dealings : Dealings μ α ε} : Comes dealings [] dealings
  | call {dealings last : Dealings μ α ε} {call : HostCall} {calls : List HostCall}
      {answer : Except ThreadError Unit} {next : Hosted μ α ε}
      (leads : call.Leads dealings.hosted answer next)
      (rest : Comes { dealings.add call dealings.hosted.isRunning answer with hosted := next } calls
        last) :
      Comes dealings (call :: calls) last

/-- Calls lead to one state only, and it has the property. -/
def LeadsTo (dealings : Dealings μ α ε) (calls : List HostCall)
    (property : Dealings μ α ε → Prop) : Prop :=
  ∃ last, (∀ other, dealings.Comes calls other ↔ other = last) ∧ property last

/-- Nothing is known of a worker that never ran. -/
structure Untouched (dealings : Dealings (List Nat) α ε) : Prop where
  starts : dealings.starts = []
  notStarted : dealings.hosted.isStarted = false
  answer : dealings.hosted.answer? = none
  log : dealings.hosted.memory = []

end Dealings

namespace Dealings

variable {task : Task μ α ε} {spawnable : Bool} {patience : Nat} {dealings : Dealings μ α ε}
  {sightings : Sightings μ α ε} {call : HostCall} {calls : List HostCall}

/-- A worker at rest, and a thread that shows the same after the same calls. -/
structure SeenAs (task : Task μ α ε) (spawnable : Bool) (dealings : Dealings μ α ε)
    (sightings : Sightings μ α ε) : Prop where
  notes : dealings.toNotes = sightings.toNotes
  rests : Hosted.RestsAs task spawnable dealings.hosted sightings.thread

/-- No calls lead nowhere. -/
theorem comes_nil {last : Dealings μ α ε} : dealings.Comes [] last ↔ last = dealings :=
  ⟨fun | .done => rfl, fun same => same ▸ .done⟩

/-- The first call leads somewhere, and the others on from there. -/
theorem comes_cons {last : Dealings μ α ε} : dealings.Comes (call :: calls) last ↔
    ∃ answer next, call.Leads dealings.hosted answer next ∧
      Comes { dealings.add call dealings.hosted.isRunning answer with hosted := next } calls last :=
  ⟨fun | .call leads rest => ⟨_, _, leads, rest⟩, fun ⟨_, _, leads, rest⟩ => .call leads rest⟩

/-- Where the first call leads to one state only, so do all calls that do so from there. -/
theorem LeadsTo.cons {property : Dealings μ α ε → Prop} {answer : Except ThreadError Unit}
    {next : Hosted μ α ε}
    (first : ∀ told other, call.Leads dealings.hosted told other ↔ told = answer ∧ other = next)
    (rest : LeadsTo { dealings.add call dealings.hosted.isRunning answer with hosted := next } calls
      property) :
    dealings.LeadsTo (call :: calls) property := by
  -- Whatever the first call is found to lead to, it is the one state that the others start from.
  obtain ⟨last, comes, holds⟩ := rest
  refine ⟨last, fun other => comes_cons.trans ⟨?_, fun same => ?_⟩, holds⟩
  · rintro ⟨told, next, leads, comes'⟩
    obtain ⟨rfl, rfl⟩ := (first told next).mp leads
    exact (comes other).mp comes'
  · exact ⟨_, _, (first _ _).mpr ⟨rfl, rfl⟩, (comes other).mpr same⟩

/-- After the same calls a worker and its thread show the same again. -/
theorem SeenAs.leadsTo (seen : SeenAs task spawnable dealings sightings)
    (stops : task.Stops patience) (calls : List HostCall) :
    dealings.LeadsTo calls fun last =>
      SeenAs task spawnable last (sightings.run patience calls) := by
  -- The induction is on the calls, and each is answered alike by the worker and by its thread.
  induction calls generalizing dealings sightings with
  | nil => exact ⟨dealings, fun _ => comes_nil, seen⟩
  | cons call calls ih =>
    obtain ⟨next, leads, rests⟩ := seen.rests.leads call fun _ => stops
    refine LeadsTo.cons leads (ih ⟨?_, rests⟩)
    -- The host is told the same, and the worker was running in both.
    show dealings.toNotes.add .. = sightings.toNotes.add ..
    rw [seen.notes, seen.rests.shows.2.1]

/-- What holds of the one state that calls lead to, may be said in other words. -/
theorem LeadsTo.mono {property other : Dealings μ α ε → Prop}
    (leads : dealings.LeadsTo calls property) (weaker : ∀ last, property last → other last) :
    dealings.LeadsTo calls other :=
  leads.imp fun last => And.imp_right (weaker last)

/-- Stopping a worker for good twice is stopping it once. -/
theorem terminate_twice (idle : dealings.hosted.shake.host = .idle) {last : Dealings μ α ε} :
    dealings.Comes [.terminate, .terminate] last ↔ dealings.Comes [.terminate] last := by
  -- Both sides are followed through the first call.
  rw [comes_cons, comes_cons]
  refine exists_congr fun answer => exists_congr fun next => and_congr_right fun leads => ?_
  obtain ⟨gone, again⟩ := HostCall.terminate_again idle leads
  -- The second call leads nowhere else, and there is nobody left whom it could call off.
  have running : next.isRunning = false := by simp [Hosted.isRunning, gone]
  have noted (notes : Notes) : notes.add .terminate false (.ok ()) = notes := by
    simp only [Notes.add, Bool.or_false]
  simp only [comes_cons, comes_nil, again]
  constructor
  · rintro ⟨_, _, ⟨rfl, rfl⟩, same⟩
    rw [running, noted] at same
    exact same
  · intro same
    refine ⟨_, _, ⟨rfl, rfl⟩, ?_⟩
    rw [running, noted]
    exact same

section Counting

variable {steps : Nat} {ending : Ending Nat String} {dealings : Dealings (List Nat) Nat String}
  {sightings : Sightings (List Nat) Nat String}

/-- A worker has an outcome just if it was started and is not running: that it was called off, if it
was while it waited, and its own ending otherwise. -/
theorem SeenAs.answer (seen : SeenAs (.counting steps ending) spawnable dealings sightings)
    (course : Sightings.Course steps ending spawnable sightings) :
    dealings.hosted.answer? =
      if dealings.hosted.isStarted = true ∧ dealings.hosted.isRunning = false then
        some (if dealings.calledOff then .cancelled else ending.outcome)
      else none := by
  -- What the worker shows is what its thread shows, and the host has noted the same.
  obtain ⟨started, running, answer, -⟩ := seen.rests.shows
  rw [started, running, answer, seen.notes]
  exact course.outcome

/-- A worker that has stopped does not run again, and its outcome stays the same. -/
theorem SeenAs.stays (seen : SeenAs (.counting steps ending) spawnable dealings sightings)
    (course : Sightings.Course steps ending spawnable sightings)
    (started : dealings.hosted.isStarted = true) (stopped : dealings.hosted.isRunning = false)
    (more : List HostCall) :
    dealings.LeadsTo more fun later =>
      later.hosted.answer? = dealings.hosted.answer? ∧ later.hosted.isRunning = false := by
  -- The thread stays stopped under the calls, and the worker shows the same as it.
  obtain ⟨isStarted, isRunning, -⟩ := seen.rests.shows
  obtain ⟨still, resting, same⟩ := course.stopped_run (Nat.le_refl steps) (isStarted ▸ started)
    (isRunning ▸ stopped) more
  refine (seen.leadsTo Task.counting_stops more).mono fun later lasts => ?_
  obtain ⟨isStarted', isRunning', -⟩ := lasts.rests.shows
  -- What the host remembers of calling it off has not changed.
  have off : later.calledOff = dealings.calledOff := by
    rw [seen.notes, lasts.notes]
    exact same
  refine ⟨?_, isRunning'.trans resting⟩
  rw [lasts.answer (course.run (Nat.le_refl steps) more), seen.answer course, off,
    if_pos (And.intro (isStarted'.trans still) (isRunning'.trans resting)),
    if_pos (And.intro started stopped)]

/-- A worker that was not started never is after a start that fails for want of a thread, nor after
the host has stopped it for good. -/
theorem SeenAs.loses (seen : SeenAs (.counting steps ending) spawnable dealings sightings)
    (course : Sightings.Course steps ending spawnable sightings)
    (idle : dealings.hosted.isStarted = false) {call : HostCall}
    (loses : call = .terminate ∨ ∃ next, call.Leads dealings.hosted (.error .spawn) next)
    (more : List HostCall) : dealings.LeadsTo (call :: more) Untouched := by
  obtain ⟨next, leads, -⟩ := seen.rests.leads call fun _ => Task.counting_stops
  -- The thread that shows the same is gone after the call, and it stays so.
  have gone : sightings.run steps (call :: more) =
      .gone (Task.counting steps ending).worker spawnable := by
    have discarded := course.discards (seen.rests.shows.1 ▸ idle)
      (loses.imp_right fun ⟨other, fails⟩ => ((leads _ other).mp fails).1)
    show (sightings.step steps call).run steps more = _
    rw [discarded]
    exact Sightings.gone_run ..
  refine (seen.leadsTo Task.counting_stops (call :: more)).mono fun later lasts => ?_
  rw [gone] at lasts
  -- So nothing is noted, nothing was answered, and the log is that of a fresh task.
  obtain ⟨started, -, answer, log, -⟩ := lasts.rests.shows
  exact ⟨congrArg Notes.starts lasts.notes, started, answer, log⟩

end Counting

/-- A worker keeps to its contract under every sequence of calls of its host. Whatever the order in
which the sections of the two follow each other, the calls lead to one state only. There the worker
was started once at most, and it has written down the numbers of the steps that it has taken: none
if it was not started, all if it was started freely, and otherwise as many as it was granted while
it was running. It has an outcome just if it was started and is not running. That outcome never
changes, and neither does it run again; it says that the worker was called off just if it was
stopped for good while it waited, and otherwise how the worker ended by itself. Stopping it for good
twice is stopping it once. After a start that fails for want of a thread, or after the host has
stopped a worker that was not started, the worker is never started, has no outcome and writes
nothing down. -/
theorem thread_keeps_its_contract (steps : Nat) (ending : Ending Nat String) (spawnable : Bool)
    (calls : List HostCall) :
    (fresh (.counting steps ending) spawnable).LeadsTo calls fun dealings =>
      dealings.hosted.memory = List.range (dealings.taken steps) ∧
      dealings.starts.length ≤ 1 ∧
      (dealings.hosted.answer?.isSome = true ↔
        dealings.hosted.isStarted = true ∧ dealings.hosted.isRunning = false) ∧
      (∀ outcome, dealings.hosted.answer? = some outcome →
        (outcome = .cancelled ↔ dealings.calledOff = true) ∧
        (dealings.calledOff = false → outcome = ending.outcome) ∧
        ∀ more, dealings.LeadsTo more fun later =>
          later.hosted.answer? = some outcome ∧ later.hosted.isRunning = false) ∧
      (dealings.calledOff = true →
        dealings.starts = [.stepping] ∧ dealings.hosted.answer? = some .cancelled) ∧
      (∀ last, dealings.Comes [.terminate, .terminate] last ↔ dealings.Comes [.terminate] last) ∧
      (dealings.hosted.isStarted = false → ∀ call, (call = .terminate ∨
          ∃ next, call.Leads dealings.hosted (.error .spawn) next) →
        ∀ more, dealings.LeadsTo (call :: more) Untouched) := by
  -- The worker and its thread are fresh, and they show the same after the calls.
  have start : SeenAs (Task.counting steps ending) spawnable
      (fresh (.counting steps ending) spawnable)
      { thread := { worker := (Task.counting steps ending).worker, spawnable } } :=
    ⟨rfl, .unstarted⟩
  obtain ⟨dealings, comes, seen⟩ := start.leadsTo Task.counting_stops calls
  have course : Sightings.Course steps ending spawnable _ :=
    .run .unstarted (Nat.le_refl steps) calls
  -- What is said of the worker is said of its thread, and that is where it can have come to.
  have answer := seen.answer course
  obtain ⟨-, -, shown, log, -⟩ := seen.rests.shows
  refine ⟨dealings, comes, ?_, ?_, ?_, fun outcome ended => ?_, fun off => ?_,
    fun last => terminate_twice seen.rests.idle,
    fun idle call loses => seen.loses course idle loses⟩
  · rw [log, seen.notes]
    exact course.log
  · rw [seen.notes]
    exact course.once
  · rw [answer]
    split <;> simp [*]
  · rw [answer] at ended
    split at ended
    · rename_i stopped
      obtain rfl := Option.some.inj ended
      refine ⟨?_, fun not => by simp [not], fun more =>
        (seen.stays course stopped.1 stopped.2 more).mono fun later stays => ?_⟩
      · -- What the worker ends with by itself is never that it was called off.
        cases dealings.calledOff with
        | true => simp
        | false => simp [ending.outcome_ne_cancelled]
      · -- Later calls lead to the same outcome and not to a running worker.
        rw [stays.1, answer, if_pos stopped]
        exact ⟨rfl, stays.2⟩
    · cases ended
  · rw [shown, seen.notes]
    exact course.calledOff (by rw [← seen.notes]; exact off)

/-- A worker of three steps that is granted one too early, then two, and then stopped for good has
taken two, whatever is asked of it later. -/
theorem thread_keeps_its_contract_after_two_of_three :
    (fresh (.counting 3 (.finishes 3)) true).LeadsTo
      [.resume, .startStepping, .resume, .cycle, .terminate, .cycle] fun dealings =>
        dealings.hosted.memory = [0, 1] ∧ ∀ more, dealings.LeadsTo more fun later =>
          later.hosted.answer? = some .cancelled := by
  -- The theorem says what holds wherever these calls lead, and they lead to one place.
  obtain ⟨dealings, comes, log, -, -, outcome, off, -⟩ := thread_keeps_its_contract 3 (.finishes 3)
    true [.resume, .startStepping, .resume, .cycle, .terminate, .cycle]
  -- What the host remembers is found by making the calls.
  have made : (fresh (.counting 3 (.finishes 3)) true).Comes
      [.resume, .startStepping, .resume, .cycle, .terminate, .cycle] _ :=
    .call (HostCall.leads_of_make? 9 rfl rfl) <| .call (HostCall.leads_of_make? 9 rfl rfl) <|
    .call (HostCall.leads_of_make? 9 rfl rfl) <| .call (HostCall.leads_of_make? 9 rfl rfl) <|
    .call (HostCall.leads_of_make? 9 rfl rfl) <| .call (HostCall.leads_of_make? 9 rfl rfl) .done
  obtain rfl := (comes _).mp made
  exact ⟨_, comes, log, fun more => (((outcome .cancelled (off rfl).2).2.2 more)).mono
    fun _ stays => stays.1⟩

end Dealings

end StepMachine
