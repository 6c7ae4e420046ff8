import StepMachine.Proofs.Outcome

/-! Computations with operations that are not always possible: a sum that a machine word has to
hold, a difference that must not fall below zero, an element that has to be there. A wary
computation looks first, and crashes where the operation is not possible. One that never crashes is
the same as the computation that does not look. -/

namespace StepMachine

/-- A number as a machine word, which not every number fits. -/
def word (number : Nat) : Option Nat := if number < UInt64.size then some number else none

/-- The difference of two machine words, which does not exist below zero. -/
def difference (whole part : Nat) : Option Nat := if part ≤ whole then some (whole - part) else none

/-- A number that fits its word is found in it. -/
theorem word_eq {number : Nat} (fits : number < UInt64.size) : word number = some number :=
  if_pos fits

/-- Where nothing falls below zero there is a difference. -/
theorem difference_eq {whole part : Nat} (le : part ≤ whole) :
    difference whole part = some (whole - part) := if_pos le

/-- What is there is taken, and the next step follows. -/
theorem taken {α β : Type} {result : Option α} {value : α} (there : result = some value)
    (next : α → Option β) : (result >>= next) = next value := by
  rw [there]
  rfl

/-- Computations that crash where an operation is not possible, and else end like any other. -/
def Wary (ε σ α : Type) : Type := σ → Option (EStateM.Result ε σ α)

namespace Wary

variable {ε σ α β : Type}

/-- Goes on after a result. -/
def andThen (run : Wary ε σ α) (next : α → Wary ε σ β) : Wary ε σ β := fun state =>
  match run state with
  | none => none
  | some (.ok result last) => next result last
  | some (.error reason last) => some (.error reason last)

/-- Sequences of wary computations; to yield a value is always possible. -/
instance : Monad (Wary ε σ) where
  pure result := fun state => some (.ok result state)
  bind := andThen

/-- A computation in which every operation is possible at any time. -/
def step (run : EStateM ε σ α) : Wary ε σ α := fun state => some (run state)

/-- Crashes unless there is a result. -/
def possibly (result : Option α) : Wary ε σ α := fun state => result.map (.ok · state)

/-- Looks first whether the operations of a computation are possible. -/
def looking (look : σ → Option Unit) (run : EStateM ε σ α) : Wary ε σ α := fun state =>
  (look state).map fun _ => run state

/-- Runs a body, and then what comes last, however the body ends. -/
def lastly (body : Wary ε σ α) (last : Wary ε σ β) : Wary ε σ (α × β) := fun state =>
  match body state with
  | none => none
  | some ended => (last (stateOf ended)).map (closing ended)

/-- Runs a body, and answers its failure. -/
def handling (body : Wary ε σ α) (handle : ε → Wary ε σ α) : Wary ε σ α := fun state =>
  match body state with
  | none => none
  | some (.ok result last) => some (.ok result last)
  | some (.error reason last) => handle reason last

/-- Crashes where a computation fails. -/
def certainly (run : Wary ε σ α) : Wary ε σ α := fun state =>
  match run state with
  | none => none
  | some (.ok result last) => some (.ok result last)
  | some (.error _ _) => none

/-- From a state on, a wary computation does not crash and ends like the one that does not look. -/
def Agrees (wary : Wary ε σ α) (run : EStateM ε σ α) (state : σ) : Prop :=
  wary state = some (run state)

namespace Agrees

variable {state : σ}

/-- What is there is taken. -/
theorem possibly {result : Option α} {value : α} (there : result = some value) :
    Agrees (possibly result : Wary ε σ α) (pure value) state := by
  rw [there]
  rfl

/-- What is there is taken, and the computation goes on with it. -/
theorem given {result : Option β} {value : β} (there : result = some value)
    {next : β → Wary ε σ α} {run : EStateM ε σ α} (rest : Agrees (next value) run state) :
    Agrees (Wary.possibly result >>= next) run state := by
  rw [there]
  exact rest

/-- A computation goes on where its look finds nothing wrong. -/
theorem looking {look : σ → Option Unit} (possible : look state = some ())
    (run : EStateM ε σ α) : Agrees (looking look run) run state := by
  -- The look is done in the state in which the computation starts.
  unfold Agrees Wary.looking
  rw [possible]
  rfl

/-- What is looked up in the state is known. -/
theorem seen {wary : Wary ε σ α} {next : σ → EStateM ε σ α}
    (rest : Agrees wary (next state) state) : Agrees wary (get >>= next) state := rest

/-- A sequence goes on from the state in which its first part yields a result. -/
theorem bind {wary : Wary ε σ α} {run : EStateM ε σ α} {next' : α → Wary ε σ β}
    {next : α → EStateM ε σ β} (first : Agrees wary run state)
    (rest : ∀ result middle, run state = .ok result middle →
      Agrees (next' result) (next result) middle) :
    Agrees (wary >>= next') (run >>= next) state := by
  -- The sequence goes on in the one way that its first part ends.
  show andThen wary next' state = some ((run >>= next) state)
  rw [andThen, first, bind_run]
  cases ran : run state with
  | ok result middle => exact rest result middle ran
  | error reason last => rfl

/-- What comes last is possible where the body leaves the state. -/
theorem lastly {body' : Wary ε σ α} {body : EStateM ε σ α} {last' : Wary ε σ β}
    {last : EStateM ε σ β} (first : Agrees body' body state)
    (rest : Agrees last' last (stateOf (body state))) :
    Agrees (lastly body' last') (tryFinally' body fun _ => last) state := by
  -- Both endings are known, so they are put together as they are without a look.
  unfold Agrees Wary.lastly at *
  simp only [first, rest, Option.map_some, tryFinally'_closing]

/-- A failure is handled where the body leaves the state. -/
theorem handling {body' : Wary ε σ α} {body : EStateM ε σ α} {handle' : ε → Wary ε σ α}
    {handle : ε → EStateM ε σ α} (first : Agrees body' body state)
    (rest : ∀ reason middle, body state = .error reason middle →
      Agrees (handle' reason) (handle reason) middle) :
    Agrees (handling body' handle') (tryCatch body handle) state := by
  -- Only a failure reaches the handler, and it does so where it broke off.
  unfold Agrees Wary.handling
  rw [first, tryCatch_run]
  cases ran : body state with
  | ok result middle => rfl
  | error reason middle => exact rest reason middle ran

/-- What does not fail does not crash for failing. -/
theorem certainly {wary : Wary ε σ α} {run : EStateM ε σ α} (first : Agrees wary run state)
    {result : α} {last : σ} (ran : run state = .ok result last) :
    Agrees (certainly wary) run state := by
  -- The computation ends with a result, so there is no failure to crash for.
  unfold Agrees Wary.certainly
  rw [first, ran]

end Agrees

/-- An outcome that leaves a safe state, and a good result if it leaves one. -/
def Ends (safe : σ → Prop) (good : α → Prop) : EStateM.Result ε σ α → Prop
  | .ok result last => safe last ∧ good result
  | .error _ last => safe last

namespace Ends

variable {safe : σ → Prop} {good : α → Prop} {goodNext : β → Prop}

/-- However it ends, the state that is left is safe. -/
theorem leaves {outcome : EStateM.Result ε σ α} (ends : Ends safe good outcome) :
    safe (stateOf outcome) := by
  -- A result and a failure both leave the state that they speak of.
  cases outcome with
  | ok result last => exact ends.1
  | error reason last => exact ends

/-- A sequence goes on from a safe state, with a good result. -/
theorem bind {run : EStateM ε σ α} {next : α → EStateM ε σ β} {state : σ}
    (ends : Ends safe good (run state))
    (rest : ∀ result middle, safe middle → good result →
      Ends safe goodNext (next result middle)) : Ends safe goodNext ((run >>= next) state) := by
  -- The first part ends in a safe state, and unwinding keeps that.
  rw [bind_run]
  cases ran : run state with
  | ok result middle =>
    rw [ran] at ends
    exact rest result middle ends.1 ends.2
  | error reason last =>
    rw [ran] at ends
    exact ends

/-- Only two results make a result. -/
theorem closing {outcome : EStateM.Result ε σ α} {other : EStateM.Result ε σ β}
    (ends : Ends safe good outcome) (closed : Ends safe goodNext other) :
    Ends safe (fun results => good results.1 ∧ goodNext results.2) (closing outcome other) := by
  -- Four ways to end: two results, one failure of either part, or two.
  cases outcome with
  | ok result last =>
    cases other with
    | ok next final => exact ⟨closed.1, ends.2, closed.2⟩
    | error reason final => exact closed
  | error reason last =>
    cases other with
    | ok next final => exact closed.1
    | error reason final => exact closed

end Ends

/-- From every safe state a wary computation does not crash and ends like the one that does not
look, which leaves a safe state and yields a good result. -/
def Tracks (safe : σ → Prop) (good : α → Prop) (wary : Wary ε σ α) (run : EStateM ε σ α) : Prop :=
  ∀ state, safe state → Agrees wary run state ∧ Ends safe good (run state)

namespace Tracks

variable {safe : σ → Prop} {good : α → Prop} {goodNext : β → Prop}

/-- To yield a good value is possible in every safe state. -/
theorem pure {result : α} (fine : good result) :
    Tracks safe good (pure result : Wary ε σ α) (pure result) :=
  fun _ holds => ⟨rfl, holds, fine⟩

/-- What is possible at any time is only asked to keep the state safe. -/
theorem step {run : EStateM ε σ α} (ends : ∀ state, safe state → Ends safe good (run state)) :
    Tracks safe good (step run) run :=
  fun state holds => ⟨rfl, ends state holds⟩

/-- What is there is taken, and the computation goes on with it. -/
theorem given {result : Option β} {value : β} (there : result = some value)
    {next : β → Wary ε σ α} {run : EStateM ε σ α} (rest : Tracks safe good (next value) run) :
    Tracks safe good (Wary.possibly result >>= next) run :=
  fun state holds => (rest state holds).imp_left fun agrees => .given there agrees

/-- In a sequence the second part starts from a safe state, with a good result. -/
theorem bind {wary : Wary ε σ α} {run : EStateM ε σ α} {next' : α → Wary ε σ β}
    {next : α → EStateM ε σ β} (first : Tracks safe good wary run)
    (rest : ∀ result, good result → Tracks safe goodNext (next' result) (next result)) :
    Tracks safe goodNext (wary >>= next') (run >>= next) := by
  -- The first part does not crash, and the second starts in the safe state that it leaves.
  intro state holds
  obtain ⟨agrees, ends⟩ := first state holds
  refine ⟨agrees.bind fun result middle ran => ?_,
    ends.bind fun result middle holds fine => (rest result fine middle holds).2⟩
  rw [ran] at ends
  exact (rest result ends.2 middle ends.1).1

/-- What is looked up in the state may decide what happens next. -/
theorem consult {next' : σ → Wary ε σ β} {next : σ → EStateM ε σ β}
    (rest : ∀ state, safe state → Agrees (next' state) (next state) state ∧
      Ends safe goodNext (next state state)) :
    Tracks safe goodNext (Wary.step get >>= next') (get >>= next) :=
  fun state holds => rest state holds

/-- What comes last starts from a safe state, however the body has ended. -/
theorem lastly {body' : Wary ε σ α} {body : EStateM ε σ α} {last' : Wary ε σ β}
    {last : EStateM ε σ β} (first : Tracks safe good body' body)
    (rest : Tracks safe goodNext last' last) :
    Tracks safe (fun results => good results.1 ∧ goodNext results.2) (lastly body' last')
      (tryFinally' body fun _ => last) := by
  -- However the body ends, it leaves a safe state for what comes last.
  intro state holds
  obtain ⟨agrees, ends⟩ := first state holds
  obtain ⟨closes, closed⟩ := rest (stateOf (body state)) ends.leaves
  exact ⟨agrees.lastly closes, tryFinally'_closing body last state ▸ ends.closing closed⟩

/-- The result of what comes last may not be wanted. -/
theorem finished {body' : Wary ε σ α} {body : EStateM ε σ α} {last' : Wary ε σ β}
    {last : EStateM ε σ β} (first : Tracks safe good body' body)
    (rest : Tracks safe goodNext last' last) :
    Tracks safe good (do return (← Wary.lastly body' last').1) (tryFinally body last) := by
  -- The second result is dropped.
  have both := (first.lastly rest).bind fun results fine =>
    (pure fine.1 : Tracks safe good (Pure.pure results.1 : Wary ε σ α) (Pure.pure results.1))
  exact both

end Tracks

end Wary

end StepMachine
