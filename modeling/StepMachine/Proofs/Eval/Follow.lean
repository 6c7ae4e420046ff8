import StepMachine.Proofs.Eval.Pacing
import StepMachine.Proofs.Stack.Discipline

/-! A program that is held back goes the same way as one that may go further, up to the moment at
which it is suspended; the other one passes through that moment. -/

namespace StepMachine

namespace Exec

/-- Where a run with `extra` more grants comes to, if the run without them is suspended: with none
more it is suspended as well, and otherwise it is let in at the moment that was seen. -/
structure Passes (extra : Nat) (view : View) (last : Context) (moments : List Moment)
    (long : EStateM.Result Unwind Context α) : Prop where
  stops : extra = 0 → ∃ seen : View, seen.toScene = view.toScene ∧
    long = .error (.suspended seen) (last.repaced 0 (.full moments))
  goesOn : 0 < extra → ∃ later moment, moment.scene = view.toScene ∧
    (stateOf long).journal = .full (later ++ moment :: moments)

/-- How a run with `granted` grants and one with `extra` more, which records what it enters, belong
together: they end alike, with as many new moments as grants were used, unless the first one is
suspended; it has used all its grants then. -/
def Follows (extra granted : Nat) (earlier : List Moment)
    (short long : EStateM.Result Unwind Context α) : Prop :=
  match short with
  | .ok result last => ∃ newer, newer.length + last.grants = granted ∧
      long = .ok result (last.repaced (last.grants + extra) (.full (newer ++ earlier)))
  | .error (.fault cause) last => ∃ newer, newer.length + last.grants = granted ∧
      long = .error (.fault cause) (last.repaced (last.grants + extra) (.full (newer ++ earlier)))
  | .error (.suspended view) last => last.grants = 0 ∧
      ∃ newer, newer.length = granted ∧ Passes extra view last (newer ++ earlier) long

/-- Two computations belong together from a state on. -/
def TracksAt (extra : Nat) (earlier : List Moment) (short long : Exec α) (context : Context) :
    Prop :=
  Follows extra context.grants earlier (short context)
    (long (context.repaced (context.grants + extra) (.full earlier)))

/-- A computation that goes the same way however far it may go, and only ever further. -/
structure Paced (run : Exec α) : Prop where
  tracks : ∀ extra earlier context, TracksAt extra earlier run run context
  onward : Obeys Effect.pacing run

/-- What was recorded before a run counts among the new moments of the run that it is part of. -/
theorem Follows.after {extra granted : Nat} {newer earlier : List Moment} {left : Nat}
    (count : newer.length + left = granted) {short long : EStateM.Result Unwind Context α}
    (follows : Follows extra left (newer ++ earlier) short long) :
    Follows extra granted earlier short long := by
  -- In each case what is recorded later stands in front of what was recorded before.
  match short, follows with
  | .ok result last, ⟨newest, more, same⟩ =>
    refine ⟨newest ++ newer, by rw [List.length_append]; omega, ?_⟩
    rw [same, List.append_assoc]
  | .error (.fault cause) last, ⟨newest, more, same⟩ =>
    refine ⟨newest ++ newer, by rw [List.length_append]; omega, ?_⟩
    rw [same, List.append_assoc]
  | .error (.suspended view) last, ⟨spent, newest, more, passes⟩ =>
    refine ⟨spent, newest ++ newer, by rw [List.length_append]; omega, ?_⟩
    rw [List.append_assoc]
    exact passes

/-- A computation that takes no part in pacing goes the same way. -/
theorem Paced.of_unpaced {run : Exec α} (unpaced : Unpaced run) : Paced run := by
  refine ⟨fun extra earlier context => ?_, pacing_of_unpaced unpaced⟩
  unfold TracksAt
  -- Nothing is recorded, so that there is no new moment and no grant is used.
  rcases unpaced.outcome context with
    ⟨result, last, grants, own, same⟩ | ⟨cause, last, grants, own, same⟩
  · rw [own, same]
    exact ⟨[], by simpa using grants, by rw [grants]; rfl⟩
  · rw [own, same]
    exact ⟨[], by simpa using grants, by rw [grants]; rfl⟩

/-- A run that passes through a moment does so as well if it goes on from there. -/
theorem Passes.bind {extra : Nat} {view : View} {last context : Context} {moments : List Moment}
    {long : Exec α} (passes : Passes extra view last moments (long context)) {next : α → Exec β}
    (onward : ∀ result, Obeys Effect.pacing (next result)) :
    Passes extra view last moments ((long >>= next) context) := by
  rw [bind_run]
  refine ⟨fun stops => ?_, fun goes => ?_⟩
  · -- A suspended run does not go on at all.
    obtain ⟨seen, scene, same⟩ := passes.stops stops
    rw [same]
    exact ⟨seen, scene, rfl⟩
  · obtain ⟨later, moment, scene, recorded⟩ := passes.goesOn goes
    cases reached : long context with
    | error reason middle =>
      rw [reached] at recorded
      exact ⟨later, moment, scene, recorded⟩
    | ok result middle =>
      rw [reached] at recorded
      -- The rest only adds to the record, however it ends.
      have grown : middle.Onward (stateOf (next result middle)) :=
        (Effect.allows_iff rfl).mp (onward result middle)
      obtain ⟨latest, recorded⟩ := grown.journal _ recorded
      exact ⟨latest ++ later, moment, scene, by simpa using recorded⟩

/-- A run that passes through a moment does so as well if something comes last that takes no part
in pacing. -/
theorem Passes.close {extra : Nat} {view : View} {middle left context : Context}
    {moments : List Moment} {long : Exec α}
    (passes : Passes extra view middle moments (long context)) {last : Exec β}
    (unpaced : Unpaced last) {other : β}
    (closes : ∀ grants journal,
      last (middle.repaced grants journal) = .ok other (left.repaced grants journal)) :
    Passes extra view left moments (tryFinally' long (fun _ => last) context) := by
  rw [tryFinally'_run]
  refine ⟨fun stops => ?_, fun goes => ?_⟩
  · -- The suspension stays, since what comes last does not fail in its place.
    obtain ⟨seen, scene, same⟩ := passes.stops stops
    rw [same]
    simp only [closes]
    exact ⟨seen, scene, rfl⟩
  · obtain ⟨later, moment, scene, recorded⟩ := passes.goesOn goes
    refine ⟨later, moment, scene, ?_⟩
    rw [← recorded]
    -- The record is the same before and after what comes last, however that ends.
    have kept : ∀ state : Context, (stateOf (last state)).journal = state.journal :=
      fun state => (unpaced.keeps state).2
    cases long context with
    | ok result state =>
      have kept := kept state
      cases ran : last state <;> simpa [ran] using kept
    | error reason state =>
      have kept := kept state
      cases ran : last state <;> simpa [ran] using kept

/-- Sequences belong together if their parts do. -/
theorem TracksAt.bind {extra : Nat} {earlier : List Moment} {short long : Exec α}
    {next later : α → Exec β} {context : Context}
    (first : TracksAt extra earlier short long context)
    (rest : ∀ result last, short context = .ok result last →
      ∀ recorded, TracksAt extra recorded (next result) (later result) last)
    (onward : ∀ result, Obeys Effect.pacing (later result)) :
    TracksAt extra earlier (short >>= next) (long >>= later) context := by
  unfold TracksAt at first ⊢
  rw [bind_run short]
  cases ran : short context with
  | ok result last =>
    rw [ran] at first
    obtain ⟨newer, count, same⟩ := first
    rw [bind_run, same]
    -- What the first part recorded lies before what the second one records.
    exact Follows.after count (rest result last ran (newer ++ earlier))
  | error reason last =>
    rw [ran] at first
    cases reason with
    | fault cause =>
      obtain ⟨newer, count, same⟩ := first
      rw [bind_run, same]
      exact ⟨newer, count, rfl⟩
    | suspended view =>
      obtain ⟨spent, newer, count, passes⟩ := first
      exact ⟨spent, newer, count, passes.bind onward⟩

/-- Sequences of computations that go the same way do so. -/
theorem Paced.bind {run : Exec α} {next : α → Exec β} (first : Paced run)
    (rest : ∀ result, Paced (next result)) : Paced (run >>= next) where
  -- The second part starts with what the first one has left of grants and record.
  tracks extra earlier context := (first.tracks extra earlier context).bind
    (fun result last _ recorded => (rest result).tracks extra recorded last)
    fun result => (rest result).onward
  onward := Obeys.bind first.onward fun result => (rest result).onward

/-- What is taken from the state first may decide what happens next, unless it is the pace. -/
theorem Paced.consult {body : Context → Exec α} (paceless : Context.Paceless body)
    (rest : ∀ context, Paced (body context)) : Paced (get >>= body) := by
  refine ⟨fun extra earlier context => ?_,
    Obeys.bind Obeys.get fun context => (rest context).onward⟩
  -- The look does not show the pace, so both runs go on with the same computation.
  have tracks := (rest context).tracks extra earlier context
  unfold TracksAt at tracks ⊢
  simp only [bind_run, get_run, paceless context (context.grants + extra) (.full earlier)]
  exact tracks

/-- Being let in goes the same way; a run with more grants is let in where one without is
suspended. -/
theorem Paced.enter (location : Location) : Paced (enter location) := by
  refine ⟨fun extra earlier context => ?_, enter_pacing location⟩
  unfold TracksAt
  -- Whether the first run is let in decides; the other one has `extra` grants more.
  cases allowed : context.grants with
  | zero =>
    rw [enter_without allowed]
    refine ⟨allowed, [], rfl, fun stops => ?_, fun goes => ?_⟩
    · subst stops
      -- With no grant more the other run is suspended at the same moment.
      have also : (context.repaced (0 + 0) (.full earlier)).grants = 0 := rfl
      rw [enter_without also]
      refine ⟨_, ?_, rfl⟩
      rfl
    · -- With more grants it is let in, and the moment that was seen is recorded.
      obtain ⟨further, rfl⟩ := Nat.exists_eq_add_of_lt goes
      have more : (context.repaced (0 + (0 + further + 1)) (.full earlier)).grants =
          further + 1 := by
        simp only [Context.repaced]
        omega
      rw [enter_with more]
      exact ⟨[], _, rfl, rfl⟩
  | succ grants =>
    -- Both are let in, and both use up one grant.
    have more : (context.repaced (grants + 1 + extra) (.full earlier)).grants =
        grants + extra + 1 := by
      simp only [Context.repaced]
      omega
    rw [enter_with allowed, enter_with more]
    exact ⟨[(context.reached location).moment], by simp [Context.entered]; omega, rfl⟩

/-- What comes last, if it takes no part in pacing and does not fail in place of a suspension,
leaves computations together. -/
theorem TracksAt.tryFinally' {extra : Nat} {earlier : List Moment} {short long : Exec α}
    {last : Exec β} {context : Context} (first : TracksAt extra earlier short long context)
    (unpaced : Unpaced last)
    (closes : ∀ view middle, short context = .error (.suspended view) middle →
      ∃ result left, last middle = .ok result left) :
    TracksAt extra earlier (tryFinally' short fun _ => last) (tryFinally' long fun _ => last)
      context := by
  unfold TracksAt at first ⊢
  rw [tryFinally'_run short]
  cases ran : short context with
  | ok result middle =>
    rw [ran] at first
    obtain ⟨newer, count, same⟩ := first
    rw [tryFinally'_run, same]
    -- What comes last does the same in both runs, since it takes no part in pacing.
    rcases unpaced.outcome middle with
      ⟨other, final, grants, own, left⟩ | ⟨cause, final, grants, own, left⟩
    · simp only [own, left]
      exact ⟨newer, by omega, by rw [grants]⟩
    · simp only [own, left]
      exact ⟨newer, by omega, by rw [grants]⟩
  | error reason middle =>
    rw [ran] at first
    cases reason with
    | fault cause =>
      obtain ⟨newer, count, same⟩ := first
      rw [tryFinally'_run, same]
      rcases unpaced.outcome middle with
        ⟨other, final, grants, own, left⟩ | ⟨other, final, grants, own, left⟩
      · simp only [own, left]
        exact ⟨newer, by omega, by rw [grants]⟩
      · simp only [own, left]
        exact ⟨newer, by omega, by rw [grants]⟩
    -- A suspension is the one case in which the runs part.
    | suspended view =>
      obtain ⟨spent, newer, count, passes⟩ := first
      obtain ⟨other, left, closed⟩ := closes view middle ran
      rcases unpaced.outcome middle with
        ⟨result, final, grants, own, same⟩ | ⟨cause, final, grants, own, same⟩
      · simp only [own]
        exact ⟨by omega, newer, count, passes.close unpaced same⟩
      · rw [own] at closed
        cases closed

/-- The same for what stands under `finally`. -/
theorem TracksAt.tryFinally {extra : Nat} {earlier : List Moment} {short long : Exec α}
    {last : Exec β} {context : Context} (first : TracksAt extra earlier short long context)
    (unpaced : Unpaced last)
    (closes : ∀ view middle, short context = .error (.suspended view) middle →
      ∃ result left, last middle = .ok result left) :
    TracksAt extra earlier (tryFinally short last) (tryFinally long last) context := by
  -- It is the same pair of runs, of which only the first result is handed on.
  have both := (first.tryFinally' unpaced closes).bind
    (fun results final _ recorded =>
      (Paced.of_unpaced (Unpaced.pure results.1)).tracks extra recorded final)
    fun results => Obeys.pure results.1
  rw [← map_eq_pure_bind, ← map_eq_pure_bind] at both
  exact both

/-- The temporary objects of a computation go the same way. -/
theorem Paced.alone {run : Exec α} (paced : Paced run) : Paced (alone run) := by
  -- Counting and releasing temporary objects take no part in pacing.
  have counted : Unpaced temporaryMark := Unpaced.consult (fun _ _ _ => rfl) fun _ => Unpaced.pure _
  refine (Paced.of_unpaced counted).bind fun mark => ?_
  have released := releaseTemporaries_unpaced mark
  refine ⟨fun extra earlier context => ?_,
    Obeys.tryFinally paced.onward (pacing_of_unpaced released)⟩
  refine (paced.tracks extra earlier context).tryFinally released fun view middle _ => ?_
  exact ⟨(), _, releaseTemporaries_run mark middle⟩

/-- A statement goes the same way if its effect does. -/
theorem Paced.statement (location : Location) {effect : Exec Unit} (paced : Paced effect) :
    Paced (statement location effect) := by
  have entered : Paced (Exec.alone (Exec.enter location >>= fun _ => effect)) :=
    ((Paced.enter location).bind fun _ => paced).alone
  -- Which statements are under way has nothing to do with the pace.
  have activate {change : Context → List Location} (same : Context.Paceless change) :
      Unpaced (modify fun context => { context with active := change context }) :=
    Unpaced.modify fun context grants journal => by
      rw [same context grants journal]
      rfl
  refine Paced.consult (fun _ _ _ => rfl) fun context => ?_
  split
  · exact Paced.of_unpaced (Unpaced.pure ())
  · refine (Paced.of_unpaced (activate fun _ _ _ => rfl)).bind fun _ => ?_
    exact entered.bind fun _ => Paced.of_unpaced (activate fun _ _ _ => rfl)

/-- A block goes the same way if its body does and leaves the block to be closed. -/
theorem Paced.inBlock {body : Exec Unit} (paced : Paced body)
    (obeys : Obeys Effect.execution body) : Paced (inBlock body) := by
  have onward : Obeys Effect.pacing (tryFinally body popScope) :=
    Obeys.tryFinally paced.onward (pacing_of_unpaced popScope_unpaced)
  -- Opening takes no part in pacing, and neither does closing.
  have opened := Paced.of_unpaced pushScope_unpaced
  refine ⟨fun extra earlier context => ?_, Obeys.bind opened.onward fun _ => onward⟩
  refine (opened.tracks extra earlier context).bind
    (fun _ inside pushed recorded => ?_) fun _ => onward
  refine (paced.tracks extra recorded inside).tryFinally popScope_unpaced fun view middle ran => ?_
  rw [pushScope_run] at pushed
  cases frames : context.stack.frames with
  | nil =>
    rw [frames] at pushed
    cases pushed
  | cons frame callers =>
    rw [frames] at pushed
    cases pushed
    -- A body that is suspended is confined as well, so that its block can still be closed.
    have obeys := obeys { context with
      stack := { context.stack with frames := frame.pushScope :: callers } }
    rw [ran] at obeys
    obtain ⟨left, closed, -⟩ := popScope_closes frames obeys.1
    exact ⟨(), left, closed⟩

/-- An activation goes the same way if its body does and leaves the activation to be left. -/
theorem Paced.activation (function : String) (buffer : Option Block) {body : Exec Unit}
    (paced : Paced body) (obeys : Obeys Effect.execution body) :
    Paced (activation function buffer body) := by
  -- Opening, leaving and handing out the activation take no part in pacing.
  have yields (results : Unit × Frame) : Paced (pure results.2) :=
    Paced.of_unpaced (Unpaced.pure results.2)
  have onward : Obeys Effect.pacing (tryFinally' body fun _ => popFrame) :=
    Obeys.tryFinally' paced.onward (pacing_of_unpaced popFrame_unpaced)
  have rest : Obeys Effect.pacing
      ((tryFinally' body fun _ => popFrame) >>= fun results => pure results.2) :=
    Obeys.bind onward fun results => (yields results).onward
  have opened := Paced.of_unpaced (pushFrame_unpaced function buffer)
  refine ⟨fun extra earlier context => ?_, Obeys.bind opened.onward fun _ => rest⟩
  refine (opened.tracks extra earlier context).bind
    (fun _ inside pushed recorded => ?_) fun _ => rest
  refine TracksAt.bind ?_
    (fun results last _ recorded => (yields results).tracks extra recorded last)
    fun results => (yields results).onward
  refine (paced.tracks extra recorded inside).tryFinally' popFrame_unpaced fun view middle ran => ?_
  rw [pushFrame_run] at pushed
  cases left : context.stack.room with
  | zero =>
    rw [left] at pushed
    cases pushed
  | succ room =>
    rw [left] at pushed
    cases pushed
    -- A body that is suspended leaves its activation on top, so that it can still be left.
    have obeys := obeys { context with
      stack := { frames := { function, buffer } :: context.stack.frames, room } }
    rw [ran] at obeys
    obtain ⟨changed, after, closed, -⟩ := popFrame_closes left obeys.1
    exact ⟨changed, after, closed⟩

/-- A loop whose body is a statement goes the same way, although a run that may go further may also
take more turns. -/
theorem Paced.loop (location : Location) {test : Exec Bool} {effect : Exec Unit}
    (tests : Paced test) (still : Obeys Effect.evaluation test) (paced : Paced effect) :
    Paced (loop test (Exec.statement location effect)) := by
  have body : Paced (Exec.statement location effect) := paced.statement location
  have onward (turns : Nat) :
      Obeys Effect.pacing (repeatWhile test (Exec.statement location effect) turns) :=
    Obeys.repeatWhile tests.onward body.onward turns
  -- A round uses up a grant, so that a loop with more turns than grants does not run out of them.
  have rounds (extra turns : Nat) : ∀ earlier (context : Context), context.grants < turns →
      TracksAt extra earlier (repeatWhile test (Exec.statement location effect) turns)
        (repeatWhile test (Exec.statement location effect) (turns + extra)) context := by
    induction turns with
    -- No turn is left, and so no grant either.
    | zero => intro earlier context few; omega
    | succ turns ih =>
      intro earlier context few
      -- Whether the function has returned does not depend on the pace.
      have same : (context.repaced (context.grants + extra) (.full earlier)).hasReturned =
          context.hasReturned := rfl
      rw [Nat.add_right_comm]
      unfold TracksAt
      rw [repeatWhile_run, repeatWhile_run, same]
      cases returned : context.hasReturned with
      | true => exact ⟨[], by simp, rfl⟩
      | false =>
        simp only [Bool.false_eq_true, if_false]
        have spent := tests.onward context
        have kept := still context
        -- The test may call functions and so use up grants, but it does not return.
        refine (tests.tracks extra earlier context).bind
          (fun proceed middle tested recorded => ?_) fun proceed => ?_
        · rw [tested] at spent kept
          -- A loop whose test fails is over in both runs.
          cases proceed with
          | false => exact (Paced.of_unpaced (Unpaced.pure ())).tracks extra recorded middle
          | true =>
            refine (body.tracks extra recorded middle).bind
              (fun _ last ran recorded => ih recorded last ?_) fun _ => onward _
            -- The body is let in, since the test has not returned from the function.
            have running : middle.hasReturned = false := by
              rw [← returned]
              exact congrArg (fun stack => stack.current?.any (·.hasReturned)) kept.1.stack
            have fewer := statement_spends paced.onward running ran
            have before : middle.grants ≤ context.grants := spent.grants
            omega
        · cases proceed with
          | false => exact Obeys.pure ()
          | true => exact Obeys.bind body.onward fun _ => onward _
  refine ⟨fun extra earlier context => ?_, Obeys.loop tests.onward body.onward⟩
  have all := rounds extra (context.grants + 1) earlier context (Nat.lt_succ_self _)
  rw [Nat.add_right_comm] at all
  exact all

/-- What is known of expressions here: they disturb nothing and go the same way. -/
def PacedEvaluation (run : Exec α) : Prop := Obeys Effect.evaluation run ∧ Paced run

/-- What is known of statements here: they are confined and go the same way. -/
def PacedExecution (run : Exec α) : Prop := Obeys Effect.execution run ∧ Paced run

/-- Evaluation and execution go the same way however far they may go. -/
theorem executes_paced :
    Executes (fun _ => PacedEvaluation) (fun _ => PacedExecution) where
  pure result := ⟨Obeys.pure result, .of_unpaced (Unpaced.pure result)⟩
  bind first rest := ⟨Obeys.bind first.1 fun result => (rest result).1,
    first.2.bind fun result => (rest result).2⟩
  -- A look shows the same at any pace, and so leads the same way.
  inspect look paceless := ⟨evaluates_undisturbed.inspect look paceless,
    .of_unpaced (Unpaced.consult
      (fun context grants journal => congrArg liftM (paceless context grants journal))
      fun context => Unpaced.lift (look context))⟩
  store address type value :=
    ⟨evaluates_undisturbed.store address type value, .of_unpaced (Unpaced.edit _)⟩
  returnBuffer type :=
    ⟨evaluates_undisturbed.returnBuffer type, .of_unpaced (returnBuffer_unpaced type)⟩
  print text := ⟨evaluates_undisturbed.print text, .of_unpaced (print_unpaced text)⟩
  mallocOrNull size :=
    ⟨evaluates_undisturbed.mallocOrNull size, .of_unpaced (mallocOrNull_unpaced size)⟩
  free address := ⟨evaluates_undisturbed.free address, .of_unpaced (free_unpaced address)⟩
  weaken first := ⟨confined_of_undisturbed first.1, first.2⟩
  seq first rest := ⟨Obeys.bind first.1 fun result => (rest result).1,
    first.2.bind fun result => (rest result).2⟩
  alone first := ⟨alone_undisturbed first.1, first.2.alone⟩
  handOver value := ⟨handOver_undisturbed value, .of_unpaced (handOver_unpaced value)⟩
  loadString literal :=
    ⟨executes_confined.loadString literal, .of_unpaced (loadString_unpaced literal)⟩
  declare name type init :=
    ⟨declare_confined name type init, .of_unpaced (declare_unpaced name type init)⟩
  markReturned value := ⟨markReturned_confined value, .of_unpaced (markReturned_unpaced value)⟩
  -- What is open is closed even after a suspension, which needs that the body is confined.
  inBlock body := ⟨inBlock_confined body.1, body.2.inBlock body.1⟩
  statement location _ effect :=
    ⟨statement_confined location effect.1, effect.2.statement location⟩
  loop location _ _ tests effect :=
    ⟨executes_confined.loop location tests.1 effect.1, Paced.loop location tests.2 tests.1 effect.2⟩
  activation function buffer _ body :=
    ⟨activation_undisturbed function buffer body.1, body.2.activation function buffer body.1⟩

end Exec

end StepMachine
