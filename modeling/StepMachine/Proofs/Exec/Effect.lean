import StepMachine.Proofs.Exec.Run

/-! What a computation may do to the state, as a relation that sequences and handlers keep. -/

namespace StepMachine

/-- The state that a computation leaves. -/
def Exec.after (run : Exec α) (context : Context) : Context := stateOf (run context)

/-- What a computation may do to the state, if it yields a result and if it unwinds. -/
structure Effect where
  -- What results allow is kept apart from what unwinding allows, which may be more.
  yields : Context → Context → Prop
  unwinds : Context → Context → Prop
  refl : ∀ context, yields context context
  trans : ∀ {first second third}, yields first second → yields second third → yields first third
  unwinds_trans : ∀ {first second third},
    unwinds first second → unwinds second third → unwinds first third
  unwinds_of_yields : ∀ {first second}, yields first second → unwinds first second

namespace Effect

/-- The effect that does not depend on how a computation ends. -/
def steady (relation : Context → Context → Prop) (refl : ∀ context, relation context context)
    (trans : ∀ {first second third},
      relation first second → relation second third → relation first third) : Effect where
  yields := relation
  unwinds := relation
  refl := refl
  trans := trans
  unwinds_trans := trans
  unwinds_of_yields := id

/-- What may happen to the state if a computation yields a result, allowed however it ends. -/
def whole (effect : Effect) : Effect := steady effect.yields effect.refl effect.trans

/-- The property of states that a computation does not destroy. -/
def keeping (invariant : Context → Prop) : Effect :=
  steady (fun first second => invariant first → invariant second) (fun _ => id)
    (fun first second holds => second (first holds))

/-- Whether a run that started in a state may have ended as it did. -/
def allows (effect : Effect) (context : Context) : EStateM.Result Unwind Context α → Prop
  | .ok _ last => effect.yields context last
  | .error _ last => effect.unwinds context last

/-- An effect that does not depend on how a computation ends is about the state that is left. -/
theorem allows_iff {effect : Effect} (steady : effect.unwinds = effect.yields) {context : Context}
    {outcome : EStateM.Result Unwind Context α} :
    effect.allows context outcome ↔ effect.yields context (stateOf outcome) := by
  -- Either way it is the same relation to the state that is left.
  cases outcome with
  | ok result last => rfl
  | error reason last =>
    rw [allows, steady]
    rfl

/-- What may happen from a state on may also happen after a result that led there. -/
theorem allows_after {effect : Effect} {context middle : Context}
    (first : effect.yields context middle) {rest : EStateM.Result Unwind Context α}
    (allowed : effect.allows middle rest) : effect.allows context rest := by
  -- A result may also be read as the start of an unwinding.
  cases rest with
  | ok result last => exact effect.trans first allowed
  | error reason last => exact effect.unwinds_trans (effect.unwinds_of_yields first) allowed

end Effect

namespace Exec

/-- A computation does to every state only what an effect allows. -/
def Obeys (effect : Effect) (run : Exec α) : Prop :=
  ∀ context, effect.allows context (run context)

namespace Obeys

variable {effect : Effect}

/-- Yielding a value changes nothing. -/
theorem pure (result : α) : Obeys effect (pure result) := fun context => effect.refl context

/-- Unwinding changes nothing by itself. -/
theorem throw (reason : Unwind) : Obeys effect (throw reason : Exec α) :=
  fun context => effect.unwinds_of_yields (effect.refl context)

/-- Looking at the state changes nothing. -/
theorem get : Obeys effect (get : Exec Context) := fun context => effect.refl context

/-- A change of the state has to be allowed by itself. -/
theorem modify {change : Context → Context}
    (allowed : ∀ context, effect.yields context (change context)) :
    Obeys effect (modify change) := allowed

/-- A result of pure computing changes nothing. -/
theorem lift (result : Except RuntimeError α) : Obeys effect (liftM result : Exec α) := by
  -- Either it is a result or it is a failure from the start.
  cases result with
  | ok result => exact pure result
  | error cause => exact throw (.fault cause)

/-- A change to the heap obeys if the effect allows any heap. -/
theorem edit (allowed : ∀ context heap, effect.yields context { context with heap })
    (change : Edit RuntimeError α) : Obeys effect.whole (edit change) := by
  intro context
  rw [edit_run]
  -- An edit that fails may have changed the heap as well.
  cases change context.heap with
  | ok result heap => exact allowed context heap
  | error cause heap => exact allowed context heap

/-- Each part of a sequence has to obey. -/
theorem bind {run : Exec α} {next : α → Exec β} (first : Obeys effect run)
    (rest : ∀ result, Obeys effect (next result)) : Obeys effect (run >>= next) := by
  intro context
  have first := first context
  rw [bind_run]
  cases ran : run context with
  | error reason middle =>
    -- The first part has unwound, and the second one does not run.
    rw [ran] at first
    exact first
  | ok result middle =>
    rw [ran] at first
    -- The second part starts where the first one stopped, so that the two changes add up.
    exact effect.allows_after first (rest result middle)

/-- What comes last has to obey as well. -/
theorem tryFinally' {body : Exec α} {last : Exec β} (first : Obeys effect body)
    (rest : Obeys effect last) : Obeys effect (tryFinally' body fun _ => last) := by
  intro context
  have first := first context
  rw [tryFinally'_run]
  cases ran : body context with
  | ok result middle =>
    rw [ran] at first
    have rest := effect.allows_after first (rest middle)
    -- The last part may turn a result into an unwinding.
    cases left : last middle <;> simpa only [left, Effect.allows] using rest
  | error reason middle =>
    rw [ran] at first
    have rest := rest middle
    -- The failure of the body stays, and unwinding goes on from there.
    cases left : last middle with
    | ok _ final =>
      rw [left] at rest
      simpa only [left, Effect.allows] using
        effect.unwinds_trans first (effect.unwinds_of_yields rest)
    | error _ final =>
      rw [left] at rest
      simpa only [left, Effect.allows] using effect.unwinds_trans first rest

/-- What stands under `finally` has to obey as well. -/
theorem tryFinally {body : Exec α} {last : Exec β} (first : Obeys effect body)
    (rest : Obeys effect last) : Obeys effect (tryFinally body last) := by
  -- It is the same sequence, of which only the first result is handed on.
  have both := bind (tryFinally' first rest) fun results => pure results.1
  have same : StepMachine.Exec.Obeys effect
      ((·.1) <$> MonadFinally.tryFinally' body fun _ => last) := by
    rw [map_eq_pure_bind]
    exact both
  exact same

/-- An effect that does not depend on the ending survives the handling of failures. -/
theorem tryCatch {body : Exec α} {handle : Unwind → Exec α} (first : Obeys effect.whole body)
    (rest : ∀ reason, Obeys effect.whole (handle reason)) :
    Obeys effect.whole (tryCatch body handle) := by
  intro context
  have first := first context
  rw [tryCatch_run]
  -- Unwinding may stop here and turn into a result, which is why it may do no more than one.
  cases ran : body context with
  | ok result middle =>
    rw [ran] at first
    exact first
  | error reason middle =>
    rw [ran] at first
    exact effect.whole.allows_after first (rest reason middle)

/-- Repetition adds nothing to its test and its body. -/
theorem repeatWhile {test : Exec Bool} {body : Exec Unit} (tests : Obeys effect test)
    (obeys : Obeys effect body) (turns : Nat) : Obeys effect (repeatWhile test body turns) := by
  -- The induction is on the turns that are left; without any the run is suspended.
  induction turns with
  | zero => exact bind get fun context => throw _
  | succ turns ih =>
    -- One round is a look at the state, a test and the body; the others obey already.
    refine bind get fun context => ?_
    split
    · exact pure ()
    · refine bind tests fun proceed => ?_
      split
      · exact bind obeys fun _ => ih
      · exact pure ()

/-- A loop adds nothing to its test and its body. -/
theorem loop {test : Exec Bool} {body : Exec Unit} (tests : Obeys effect test)
    (obeys : Obeys effect body) : Obeys effect (loop test body) :=
  bind get fun _ => repeatWhile tests obeys _

/-- A computation that does no more than it may on success also obeys when it fails. -/
theorem of_whole {run : Exec α} (obeys : Obeys effect.whole run) : Obeys effect run := by
  intro context
  have obeys := obeys context
  -- What results allow, unwinding allows.
  cases ran : run context with
  | ok result last =>
    rw [ran] at obeys
    exact obeys
  | error reason last =>
    rw [ran] at obeys
    exact effect.unwinds_of_yields obeys

/-- A property that a computation does not destroy holds in the state that it leaves. -/
theorem keeps {invariant : Context → Prop} {run : Exec α}
    (obeys : Obeys (Effect.keeping invariant) run) {context : Context}
    (holds : invariant context) : invariant (run.after context) := by
  -- What is kept does not depend on the ending, so the state that is left has it.
  exact (Effect.allows_iff rfl).mp (obeys context) holds

end Obeys

end Exec

end StepMachine
