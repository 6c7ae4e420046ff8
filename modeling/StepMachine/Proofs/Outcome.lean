import StepMachine.Heap.Basic

/-! How a composed computation ends, from how its parts end. Edits of the heap, steps of a program
and calls on a machine all carry a state along and may break off. -/

namespace StepMachine

variable {ε σ α β : Type}

/-- The state that an outcome leaves, whether there is a result or not. -/
@[simp] def stateOf : EStateM.Result ε σ α → σ
  | .ok _ last => last
  | .error _ last => last

/-- How a body ends after which something comes last. -/
def closing : EStateM.Result ε σ α → EStateM.Result ε σ β → EStateM.Result ε σ (α × β)
  | .ok result _, .ok other left => .ok (result, other) left
  | .error reason _, .ok _ left => .error reason left
  | _, .error reason left => .error reason left

/-- A sequence goes on with the state of its first part, and only if that yields a result. -/
theorem bind_run (run : EStateM ε σ α) (next : α → EStateM ε σ β) (state : σ) :
    (run >>= next) state = match run state with
      | .ok result last => next result last
      | .error reason last => .error reason last := by
  simp only [bind, EStateM.bind]
  cases run state <;> rfl

/-- A sequence that yields a result has gone through a result of its first part. -/
theorem exists_of_bind_ok {run : EStateM ε σ α} {next : α → EStateM ε σ β} {state last : σ}
    {result : β} (ran : (run >>= next) state = .ok result last) :
    ∃ first middle, run state = .ok first middle ∧ next first middle = .ok result last := by
  rw [bind_run] at ran
  cases began : run state with
  | ok first middle =>
    rw [began] at ran
    exact ⟨first, middle, rfl, ran⟩
  | error reason middle =>
    rw [began] at ran
    cases ran

/-- Only a body that breaks off is handled, in the state that it leaves. -/
theorem tryCatch_run (body : EStateM ε σ α) (handle : ε → EStateM ε σ α) (state : σ) :
    tryCatch body handle state = match body state with
      | .ok result last => .ok result last
      | .error reason last => handle reason last := by
  -- What backtracks on failure restores nothing here, so the state of the failure stays.
  show EStateM.tryCatch body handle state = _
  delta EStateM.tryCatch
  cases body state <;> rfl

/-- What comes last runs however the body ends; its result is kept beside that of the body, and its
failure wins. -/
theorem tryFinally'_run (body : EStateM ε σ α) (last : EStateM ε σ β) (state : σ) :
    tryFinally' body (fun _ => last) state = match body state with
      | .ok result left => match last left with
        | .ok other left => .ok (result, other) left
        | .error reason left => .error reason left
      | .error reason left => match last left with
        | .ok _ left => .error reason left
        | .error reason left => .error reason left := by
  simp only [tryFinally']
  cases body state with
  | ok _ left => cases ran : last left <;> simp [ran]
  | error _ left => cases ran : last left <;> simp [ran]

/-- What comes last starts where the body has stopped. -/
theorem tryFinally'_closing (body : EStateM ε σ α) (last : EStateM ε σ β) (state : σ) :
    tryFinally' body (fun _ => last) state =
      closing (body state) (last (stateOf (body state))) := by
  rw [tryFinally'_run]
  -- Whether the body yields a result decides only what is kept beside that of what comes last.
  cases body state with
  | ok result left => cases ran : last left <;> simp only [stateOf, ran, closing]
  | error reason left => cases ran : last left <;> simp only [stateOf, ran, closing]

/-- What stands under `finally` runs however the body ends, and its own failure wins. -/
theorem tryFinally_run (body : EStateM ε σ α) (last : EStateM ε σ β) (state : σ) :
    tryFinally body last state = match body state with
      | .ok result left => match last left with
        | .ok _ left => .ok result left
        | .error reason left => .error reason left
      | .error reason left => match last left with
        | .ok _ left => .error reason left
        | .error reason left => .error reason left := by
  -- It is the same run, of which the result of what comes last is dropped.
  simp only [tryFinally, Functor.map, EStateM.map, tryFinally'_run]
  cases body state with
  | ok _ left => cases ran : last left <;> simp [ran]
  | error _ left => cases ran : last left <;> simp [ran]

/-- A result that is not wanted is dropped. -/
theorem discard_eq (run : EStateM ε σ α) : discard run = run >>= fun _ => pure () := by
  funext state
  rw [bind_run]
  simp only [Functor.discard, Functor.mapConst, Function.comp, EStateM.map]
  cases run state <;> rfl

end StepMachine
