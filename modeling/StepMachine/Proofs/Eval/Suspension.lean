import StepMachine.Proofs.Eval.Follow

/-! What becomes of a suspension on its way out: nothing stops it or turns it into a failure, and
what was seen of the program when it was suspended is seen until it has unwound. -/

namespace StepMachine

/-- The state shows what was seen of the program before, apart from the heap. -/
structure Context.Shows (context : Context) (view : View) : Prop where
  terminal : context.terminal = view.terminal
  location : context.cursor = view.location
  entries : context.journal.entries = view.entries

/-- What a program shows of itself, it shows. -/
theorem Context.shows_view (context : Context) : context.Shows context.view := ⟨rfl, rfl, rfl⟩

/-- What cannot be seen apart from the heap: nothing is printed, no statement is reached and none is
recorded. -/
def Effect.silent : Effect :=
  .steady (fun before after => after.terminal = before.terminal ∧ after.cursor = before.cursor ∧
      after.journal = before.journal)
    (fun _ => ⟨rfl, rfl, rfl⟩)
    (fun one two => ⟨two.1.trans one.1, two.2.1.trans one.2.1, two.2.2.trans one.2.2⟩)

namespace Exec

open Effect (silent)

/-- Closing a block is silent. -/
theorem popScope_silent : Obeys silent popScope := by
  intro context
  rw [popScope_run]
  cases context.stack.frames with
  | nil => exact silent.refl context
  | cons frame callers =>
    -- Only the activation and the heap change, if there is a block to be closed.
    simp only
    cases frame.nested with
    | nil => exact silent.refl context
    | cons scope outer => exact ⟨rfl, rfl, rfl⟩

/-- Leaving an activation is silent. -/
theorem popFrame_silent : Obeys silent popFrame := by
  intro context
  rw [popFrame_run]
  cases context.stack.frames with
  | nil => exact silent.refl context
  | cons frame callers => exact ⟨rfl, rfl, rfl⟩

/-- Releasing temporary objects is silent. -/
theorem releaseTemporaries_silent (mark : Nat) : Obeys silent (releaseTemporaries mark) := by
  intro context
  rw [releaseTemporaries_run]
  exact ⟨rfl, rfl, rfl⟩

/-- A computation that, once it is suspended, leaves what was seen then. -/
def Freezes (run : Exec α) : Prop :=
  ∀ context view last, run context = .error (.suspended view) last → last.Shows view

namespace Freezes

/-- What takes no part in pacing is never suspended. -/
theorem of_unpaced {run : Exec α} (unpaced : Unpaced run) : Freezes run :=
  fun context view last ran => absurd ran (unpaced.goesOn context view last)

/-- A suspension of either part is that of the sequence. -/
theorem bind {run : Exec α} {next : α → Exec β} (first : Freezes run)
    (rest : ∀ result, Freezes (next result)) : Freezes (run >>= next) := by
  -- A result of the first part is passed to the second one, and a suspension ends both.
  intro context view last ended
  rw [bind_run] at ended
  cases ran : run context with
  | ok result middle =>
    rw [ran] at ended
    exact rest result middle view last ended
  | error reason middle =>
    rw [ran] at ended
    cases ended
    exact first context view last ran

/-- What is done last, if it is silent and takes no part in pacing, adds nothing to be seen. -/
theorem tryFinally' {body : Exec α} {last : Exec β} (first : Freezes body)
    (silent : Obeys silent last) (unpaced : Unpaced last) :
    Freezes (tryFinally' body fun _ => last) := by
  -- Either part may end as it likes, but what comes last is not suspended.
  intro context view final ended
  rw [tryFinally'_run] at ended
  cases ran : body context with
  | ok result middle =>
    rw [ran] at ended
    -- The body went through, and what comes last is never suspended.
    cases left : last middle with
    | ok other after => simp [left] at ended
    | error reason after =>
      simp only [left] at ended
      cases ended
      exact absurd left (unpaced.goesOn middle view final)
  | error reason middle =>
    rw [ran] at ended
    have quiet := silent middle
    cases left : last middle with
    | error other after =>
      simp only [left] at ended
      cases ended
      exact absurd left (unpaced.goesOn middle view final)
    | ok other after =>
      -- The suspension goes on, and what is shown is the same as before.
      rw [left] at quiet
      simp only [left] at ended
      cases ended
      have shown := first context view middle ran
      exact ⟨quiet.1.trans shown.terminal, quiet.2.1.trans shown.location,
        (congrArg Journal.entries quiet.2.2).trans shown.entries⟩

/-- The same for what stands under `finally`. -/
theorem tryFinally {body : Exec α} {last : Exec β} (first : Freezes body)
    (silent : Obeys silent last) (unpaced : Unpaced last) : Freezes (tryFinally body last) := by
  -- The result of what comes last is dropped, which takes no part in pacing.
  have both := bind (tryFinally' first silent unpaced) fun results =>
    of_unpaced (Unpaced.pure results.1)
  rw [← map_eq_pure_bind] at both
  exact both

/-- A statement that is not let in shows where the program stopped. -/
theorem enter (location : Location) : Freezes (enter location) := by
  intro context view last ended
  -- Without a grant the state is seen as it is, and with one there is no suspension.
  cases allowed : context.grants with
  | zero =>
    rw [enter_without allowed] at ended
    cases ended
    exact Context.shows_view _
  | succ grants =>
    rw [enter_with allowed] at ended
    cases ended

/-- The temporary objects of a computation go silently. -/
theorem alone {run : Exec α} (freezes : Freezes run) : Freezes (alone run) := by
  have counted : Unpaced temporaryMark := Unpaced.consult (fun _ _ _ => rfl) fun _ => Unpaced.pure _
  exact bind (of_unpaced counted) fun mark =>
    tryFinally freezes (releaseTemporaries_silent mark) (releaseTemporaries_unpaced mark)

/-- Beginning and ending a statement shows nothing beyond the statement itself. -/
theorem statement (location : Location) {effect : Exec Unit} (freezes : Freezes effect) :
    Freezes (statement location effect) := by
  intro context view last ended
  rw [statement_run] at ended
  -- A statement that is skipped is not suspended.
  cases returned : context.hasReturned with
  | true => simp [returned] at ended
  | false =>
    have inside := bind (enter location) fun _ => freezes
    simp only [returned, Bool.false_eq_true, if_false] at ended
    cases ran : (Exec.enter location >>= fun _ => effect)
        { context with active := location :: context.active } with
    | ok _ middle => simp [ran] at ended
    | error reason middle =>
      simp only [ran] at ended
      cases ended
      have shown := inside _ view middle ran
      exact ⟨shown.terminal, shown.location, shown.entries⟩

/-- A loop is suspended by its test or by its body. -/
theorem repeatWhile {test : Exec Bool} {body : Exec Unit} (tests : Freezes test)
    (freezes : Freezes body) (turns : Nat) : Freezes (repeatWhile test body turns) := by
  -- The induction is on the turns that are left; beyond the last one the loop is suspended.
  induction turns with
  | zero =>
    intro context view last ended
    cases ended
    exact Context.shows_view context
  | succ turns ih =>
    intro context view last ended
    rw [repeatWhile_run] at ended
    cases returned : context.hasReturned with
    | true => simp [returned] at ended
    | false =>
      simp only [returned, Bool.false_eq_true, if_false] at ended
      -- A round tests, runs the body and goes on with one turn less.
      refine bind tests (fun proceed => ?_) context view last ended
      cases proceed with
      | true => exact bind freezes fun _ => ih
      | false => exact of_unpaced (Unpaced.pure ())

/-- A loop looks at the allowance only to count its turns. -/
theorem loop {test : Exec Bool} {body : Exec Unit} (tests : Freezes test)
    (freezes : Freezes body) : Freezes (loop test body) := by
  -- The turns are counted from the grants, so the first look is no round.
  intro context view last ended
  exact repeatWhile tests freezes (context.grants + 1) context view last ended

end Freezes

/-- Evaluation and execution leave what was seen when they were suspended. -/
theorem executes_freezes : Executes (fun _ => Freezes) (fun _ => Freezes) where
  pure result := .of_unpaced (Unpaced.pure result)
  bind := Freezes.bind
  inspect look _ := Freezes.bind (fun _ _ _ ran => by cases ran) fun context =>
    .of_unpaced (Unpaced.lift (look context))
  store _ _ _ := .of_unpaced (Unpaced.edit _)
  returnBuffer type := .of_unpaced (returnBuffer_unpaced type)
  print text := .of_unpaced (print_unpaced text)
  mallocOrNull size := .of_unpaced (mallocOrNull_unpaced size)
  free address := .of_unpaced (free_unpaced address)
  weaken freezes := freezes
  seq := Freezes.bind
  alone := Freezes.alone
  handOver value := .of_unpaced (handOver_unpaced value)
  loadString literal := .of_unpaced (loadString_unpaced literal)
  declare name type init := .of_unpaced (declare_unpaced name type init)
  markReturned value := .of_unpaced (markReturned_unpaced value)
  -- Blocks and activations are closed on the way out, which cannot be seen.
  inBlock body := Freezes.bind (.of_unpaced pushScope_unpaced) fun _ =>
    Freezes.tryFinally body popScope_silent popScope_unpaced
  statement := Freezes.statement
  loop location _ _ tests effect := Freezes.loop tests (effect.statement location)
  activation function buffer _ body :=
    Freezes.bind (.of_unpaced (pushFrame_unpaced function buffer)) fun _ =>
      Freezes.bind (Freezes.tryFinally' body popFrame_silent popFrame_unpaced) fun results =>
        .of_unpaced (Unpaced.pure results.2)

/-- A pause inside a computation is a pause of the whole: if with more grants it is let into a
statement beyond those that it may enter, then with its own grants it is suspended, and shows the
scene in which it would have been let in. -/
def Yields (run : Exec α) : Prop :=
  ∀ (context : Context) (extra : Nat) (moment : Moment),
    (run.after (context.repaced (context.grants + extra) (.full []))).journal.moments.reverse[
      context.grants]? = some moment →
    ∃ view last, run context = .error (.suspended view) last ∧ view.toScene = moment.scene

/-- What goes the same way however far it may go holds no suspension back. -/
theorem Paced.yields {run : Exec α} (paced : Paced run) : Yields run := by
  intro context extra moment reached
  have tracks := paced.tracks extra [] context
  unfold TracksAt at tracks
  unfold after at reached
  -- A run with as many moments as it has grants has none beyond them.
  have beyond (newer : List Moment) (few : newer.length ≤ context.grants) :
      (newer ++ []).reverse[context.grants]? = none := by
    rw [List.getElem?_eq_none_iff]
    simpa using few
  -- How the run ends with its own grants decides what can stand behind them.
  cases ran : run context with
  | ok result last =>
    rw [ran] at tracks
    obtain ⟨newer, count, same⟩ := tracks
    rw [same] at reached
    have none := beyond newer (by omega)
    exact absurd (none.symm.trans reached) (by simp)
  | error reason last =>
    rw [ran] at tracks
    cases reason with
    | fault cause =>
      obtain ⟨newer, count, same⟩ := tracks
      rw [same] at reached
      have none := beyond newer (by omega)
      exact absurd (none.symm.trans reached) (by simp)
    | suspended view =>
      obtain ⟨-, newer, count, passes⟩ := tracks
      refine ⟨view, last, rfl, ?_⟩
      rcases Nat.eq_zero_or_pos extra with none | more
      · -- Without more grants the run stops at the same place.
        obtain ⟨seen, -, same⟩ := passes.stops none
        rw [same] at reached
        have none := beyond newer (by omega)
        exact absurd (none.symm.trans reached) (by simp)
      · -- With more grants the moment after all that were used is the one that was seen.
        obtain ⟨later, seen, scene, recorded⟩ := passes.goesOn more
        rw [recorded] at reached
        have found : (later ++ seen :: (newer ++ [])).reverse[context.grants]? = some seen := by
          simp [← count]
        have same : some moment = some seen := reached.symm.trans found
        cases same
        exact scene.symm

end Exec

end StepMachine
