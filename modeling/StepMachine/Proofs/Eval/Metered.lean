import StepMachine.Proofs.Eval.Follow
import StepMachine.Proofs.Eval.Interpreter

/-! Programs run with their steps counted. Nothing here knows how many statements may still be let
in: loops turn for as long as their condition holds, texts are read up to a zero byte, and functions
call each other as they like, within a bound that lies outside of the program. Whatever is run comes
to its end within some bound. -/

namespace StepMachine

/-- A computation whose steps are counted, and which gives up where it would go beyond a bound. -/
def Metered (α : Type) : Type :=
  (bound : Nat) → Context → Option (Nat × EStateM.Result Unwind Context α)

namespace Metered

/-- Yields a value without a step. -/
def yield (result : α) : Metered α := fun _ context => some (0, .ok result context)

/-- Goes on after a result; the steps add up. -/
def andThen (run : Metered α) (next : α → Metered β) : Metered β := fun bound context =>
  match run bound context with
  | none => none
  | some (steps, .error reason last) => some (steps, .error reason last)
  | some (steps, .ok result last) =>
    (next result bound last).map fun (more, outcome) => (steps + more, outcome)

/-- Computations whose steps are counted are put together like others. -/
instance : Monad Metered where
  pure := yield
  bind := andThen

/-- Takes one step. -/
def step (run : Exec α) : Metered α := fun _ context => some (1, run context)

/-- Goes beyond every bound. -/
def giveUp : Metered α := fun _ _ => none

/-- Runs a body, and then what comes last, however the body ends. -/
def lastly (body : Metered α) (last : Metered β) : Metered (α × β) := fun bound context =>
  match body bound context with
  | none => none
  | some (steps, outcome) =>
    (last bound (stateOf outcome)).map fun (more, other) =>
      (steps + more, closing outcome other)

/-- One round of a loop, and what follows it. -/
def round (test : Metered Bool) (body rest : Metered Unit) : Metered Unit := do
  if (← step get).hasReturned then return
  if ← test then
    body
    rest

/-- Repeats a body while a test holds and the current function has not returned. Each round lowers
the bound. -/
def loop (test : Metered Bool) (body : Metered Unit) : Metered Unit
  | 0 => giveUp 0
  | bound + 1 => round test body (fun _ => loop test body bound) bound

/-- Reads one byte, and goes on unless it is zero. -/
def byteThen (address : Address) (rest : Metered (List UInt8)) : Metered (List UInt8) := do
  match ← step (do (← get).heap.read address 1) with
  | byte :: _ => if byte = 0 then return [] else return byte :: (← rest)
  | [] => return []

/-- The bytes in front of the first zero byte from an address on. Each byte lowers the bound. -/
def bytes (address : Address) : Metered (List UInt8)
  | 0 => giveUp 0
  | bound + 1 => byteThen address (fun _ => bytes (address + 1) bound) bound

/-- The text that a zero byte ends. -/
def text (address : Address) : Metered String := do return Utf8.decode (← bytes address)

/-- Programs with their steps counted. -/
def interpreter : Interpreter Metered where
  step := step
  lastly := lastly
  inside _ run := run
  loop := loop
  text := text

/-- Calls that are nested in each other up to a depth. Whether they fit on the stack is found out
when an activation is entered. -/
def calling : (depth : Nat) → Calls Metered
  | 0 => fun _ _ _ => giveUp
  | depth + 1 => interpreter.invoke (calling depth)

/-- Within a bound a sequence depends on what follows within that bound only. -/
theorem bind_congr {run : Metered α} {next next' : α → Metered β} {bound : Nat}
    (same : ∀ result, next result bound = next' result bound) :
    (run >>= next) bound = (run >>= next') bound := by
  -- Whether the run gives up or fails, nothing follows.
  funext context
  show andThen run next bound context = andThen run next' bound context
  unfold andThen
  split
  · rfl
  · rfl
  · rw [same]

/-- A loop is a round with the same loop behind it. -/
theorem loop_succ (test : Metered Bool) (body : Metered Unit) (bound : Nat) :
    loop test body (bound + 1) = round test body (loop test body) bound := by
  -- The loop is looked at as far as the round goes, and behind it stands the loop with one bound
  -- less.
  refine bind_congr fun context => ?_
  cases context.hasReturned with
  | true => rfl
  | false =>
    refine bind_congr fun proceed => ?_
    cases proceed with
    | true => exact bind_congr fun _ => rfl
    | false => rfl

/-- The bytes are one byte with those from the next address on behind it. -/
theorem bytes_succ (address : Address) (bound : Nat) :
    bytes address (bound + 1) = byteThen address (bytes (address + 1)) bound := by
  -- Only a byte that is not zero has others behind it.
  refine bind_congr fun read => ?_
  cases read with
  | nil => rfl
  | cons byte rest =>
    simp only
    split
    · rfl
    · exact bind_congr fun _ => rfl

/-- From a state on a computation ends in one way, after so many steps, within every bound that is
large enough. -/
def EndsAt (run : Metered α) (context : Context)
    (outcome : EStateM.Result Unwind Context α) : Prop :=
  ∃ steps enough, ∀ bound ≥ enough, run bound context = some (steps, outcome)

namespace EndsAt

variable {context : Context}

/-- A value is there at once. -/
theorem pure (result : α) : EndsAt (Pure.pure result) context (.ok result context) :=
  ⟨0, 0, fun _ _ => rfl⟩

/-- A single step ends. -/
theorem step (run : Exec α) : EndsAt (step run) context (run context) :=
  ⟨1, 0, fun _ _ => rfl⟩

/-- What needs a bound lower by one ends as well. -/
theorem succ {run next : Metered α} {outcome : EStateM.Result Unwind Context α}
    (unfolds : ∀ bound, run (bound + 1) = next bound) (ends : EndsAt next context outcome) :
    EndsAt run context outcome := by
  -- The bound of the rest is enough with one more for the unfolding.
  obtain ⟨steps, enough, ends⟩ := ends
  refine ⟨steps, enough + 1, fun bound large => ?_⟩
  cases bound with
  | zero => omega
  | succ bound =>
    rw [unfolds]
    exact ends bound (by omega)

/-- A sequence whose first part fails ends there. -/
theorem fails {run' : Metered α} {reason : Unwind} {last : Context}
    (ends : EndsAt run' context (.error reason last)) (next' : α → Metered β) :
    EndsAt (run' >>= next') context (.error reason last) := by
  -- The bound of the first part is enough, since the second is not reached.
  obtain ⟨steps, enough, ends⟩ := ends
  refine ⟨steps, enough, fun bound large => ?_⟩
  show andThen run' next' bound context = _
  rw [andThen, ends bound large]

/-- A sequence ends if its first part does and, after a result, its second part. -/
theorem bind {run' : Metered α} {run : Exec α} {next' : α → Metered β} {next : α → Exec β}
    (first : EndsAt run' context (run context))
    (rest : ∀ result middle, run context = .ok result middle →
      EndsAt (next' result) middle (next result middle)) :
    EndsAt (run' >>= next') context ((run >>= next) context) := by
  rw [bind_run]
  cases ran : run context with
  -- The bound of the first part does, as the second one is not reached.
  | error reason last =>
    rw [ran] at first
    exact first.fails next'
  | ok result middle =>
    -- The two parts share a bound that is large enough for both.
    obtain ⟨steps, enough, ends⟩ := first
    obtain ⟨more, further, goesOn⟩ := rest result middle ran
    refine ⟨steps + more, max enough further, fun bound large => ?_⟩
    show andThen run' next' bound context = _
    rw [andThen, ends bound (by omega), ran]
    simp only [goesOn bound (by omega), Option.map_some]

/-- What comes last ends as well. -/
theorem lastly {body' : Metered α} {body : Exec α} (ends : EndsAt body' context (body context))
    (last : Exec β) :
    EndsAt (lastly body' (Metered.step last)) context
      (tryFinally' body (fun _ => last) context) := by
  -- What comes last is a single step from the state that the body has left.
  obtain ⟨steps, enough, ends⟩ := ends
  refine ⟨steps + 1, enough, fun bound large => ?_⟩
  rw [tryFinally'_closing, Metered.lastly, ends bound large]
  rfl

/-- What stands under `finally` ends as well. -/
theorem underFinally {body' : Metered α} {body : Exec α}
    (ends : EndsAt body' context (body context)) (last : Exec β) :
    EndsAt (do return (← Metered.lastly body' (Metered.step last)).1) context
      ((tryFinally body last : Exec α) context) :=
  (ends.lastly last).bind fun results _ _ => EndsAt.pure results.1

end EndsAt

/-- What a byte that was read and the bytes behind it come to. -/
def joinBytes (rest : Except MemoryError (List UInt8)) :
    List UInt8 → Except MemoryError (List UInt8)
  | byte :: _ => if byte = 0 then .ok [] else do return byte :: (← rest)
  | [] => .ok []

/-- Failing for want of live memory is the same before and after results are taken on. -/
theorem lift_memory_bind (first : Except MemoryError α) (next : α → Except MemoryError β) :
    (liftM (first >>= next) : Exec β) = liftM first >>= fun result => liftM (next result) := by
  cases first <;> rfl

/-- Reading a byte and what follows it ends, if what follows a byte that can be read does. -/
theorem byteThen_ends {context : Context} {address : Address} {rest' : Metered (List UInt8)}
    {rest : Except MemoryError (List UInt8)}
    (ends : ∀ bytes, context.heap.read address 1 = .ok bytes →
      EndsAt rest' context ((liftM rest : Exec (List UInt8)) context)) :
    EndsAt (byteThen address rest') context
      ((liftM (context.heap.read address 1 >>= joinBytes rest) : Exec (List UInt8)) context) := by
  -- One byte is read in a single step, and the text is put together from it.
  have first : EndsAt (step (do (← get).heap.read address 1)) context
      ((liftM (context.heap.read address 1) : Exec (List UInt8)) context) := EndsAt.step _
  rw [lift_memory_bind]
  refine first.bind fun bytes middle ran => ?_
  cases found : context.heap.read address 1 with
  | error cause =>
    rw [found] at ran
    cases ran
  | ok _ =>
    rw [found] at ran
    cases ran
    cases bytes with
    | nil => exact EndsAt.pure []
    | cons byte behind =>
      simp only [joinBytes]
      -- Only a byte that is not zero has others behind it.
      split
      · exact EndsAt.pure []
      · rw [lift_memory_bind]
        exact (ends _ found).bind fun bytes _ _ => EndsAt.pure _

/-- Reading a text ends on every heap: low addresses are not live, nothing is live past the arena,
and behind the last address comes the lowest one. -/
theorem bytes_end (context : Context) (left : Nat) (address : Address)
    (far : address.toNat < heapBase ∨
      heapBase + context.heap.size ≤ address.toNat + left) :
    EndsAt (bytes address) context
      ((liftM (context.heap.bytesToZero left address) : Exec (List UInt8)) context) := by
  -- The induction is on the addresses that are left before the end of the arena.
  -- An address that cannot be live fails the read, whatever is on the heap.
  have dead (address : Address) (outside : address.toNat < heapBase ∨
      heapBase + context.heap.size ≤ address.toNat) :
      context.heap.read address 1 = .error (.invalidAccess address 1) := by
    have refused : address.toNat < heapBase ∨ 1 = 0 ∨
        context.heap.size < address.toNat - heapBase + 1 := by omega
    simp only [Heap.read, Heap.locate, if_pos refused]
    rfl
  induction left generalizing address with
  | zero =>
    -- At the end of the arena no read succeeds, with turns left or without.
    have refused := dead address (by omega)
    have same : context.heap.bytesToZero 0 address =
        context.heap.read address 1 >>= joinBytes (.ok []) := by
      rw [refused]
      rfl
    rw [same]
    refine EndsAt.succ (bytes_succ address) (byteThen_ends fun bytes read => ?_)
    rw [refused] at read
    cases read
  | succ left ih =>
    -- One byte is read here, and what follows is the same text one address further.
    have same : context.heap.bytesToZero (left + 1) address =
        context.heap.read address 1 >>=
          joinBytes (context.heap.bytesToZero left (address + 1)) := by
      rw [Heap.bytesToZero]
      rfl
    rw [same]
    refine EndsAt.succ (bytes_succ address) (byteThen_ends fun bytes read => ih (address + 1) ?_)
    -- The byte was live, so the next address is one further, or it is the lowest one.
    by_cases low : address.toNat < heapBase
    · rw [dead address (.inl low)] at read
      cases read
    · have next : (address + 1).toNat = (address.toNat + 1) % 2 ^ 64 := UInt64.toNat_add address 1
      have top := UInt64.toNat_lt address
      have base : heapBase = 4096 := rfl
      omega

/-- The text at an address is read to its end. -/
theorem text_ends (context : Context) (address : Address) :
    EndsAt (text address) context (Exec.textFrom address context) := by
  -- The arena is shorter than the bound of the machine, wherever the reading starts.
  have ends := bytes_end context (context.heap.size + 1) address (by omega)
  have all := ends.bind fun bytes _ _ => EndsAt.pure (Utf8.decode bytes)
  -- The machine reads with as many turns as the arena has bytes, and one more.
  have same : Exec.textFrom address context = ((liftM
      (context.heap.bytesToZero (context.heap.size + 1) address) : Exec (List UInt8)) >>=
        fun bytes => Pure.pure (Utf8.decode bytes)) context := by
    simp only [Exec.textFrom, bind_run, Exec.get_run, Heap.readText]
    cases context.heap.bytesToZero (context.heap.size + 1) address <;> rfl
  rw [same]
  exact all

/-- Wherever so much room is left on the stack, a computation ends as it does on the machine. -/
def Ends (room : Nat) (run' : Metered α) (run : Exec α) : Prop :=
  ∀ context : Context, context.stack.room = room → EndsAt run' context (run context)

/-- How expressions are related to counting their steps. -/
def Evaluated (room : Nat) (α : Type) (run' : Metered α) (run : Exec α) : Prop :=
  Exec.PacedEvaluation run ∧ Ends room run' run

/-- How statements are related to counting their steps. -/
def Executed (room : Nat) (α : Type) (run' : Metered α) (run : Exec α) : Prop :=
  Exec.PacedExecution run ∧ Ends room run' run

variable {room : Nat}

/-- After a result as much room is left as before. -/
theorem room_after {run : Exec α} (obeys : Exec.Obeys Effect.execution run)
    {context middle : Context} {result : α} (ran : run context = .ok result middle) :
    middle.stack.room = context.stack.room := by
  -- What an execution leaves of the stack is its room.
  have obeys := obeys context
  rw [ran] at obeys
  exact obeys.1.room

/-- The temporary objects of a computation go in a single step. -/
theorem Ends.alone {run' : Metered α} {run : Exec α} (ends : Ends room run' run) :
    Ends room (interpreter.alone run') (Exec.alone run) := by
  intro context left
  refine (EndsAt.step Exec.temporaryMark).bind fun mark middle ran => ?_
  -- Counting the temporary objects changes nothing.
  cases ran
  exact (ends context left).underFinally _

/-- A statement begins and ends by single steps. -/
theorem Ends.statement (location : Location) {effect' : Metered Unit} {effect : Exec Unit}
    (ends : Ends room effect' effect) :
    Ends room (interpreter.statement location effect') (Exec.statement location effect) := by
  -- The effect begins after the statement has been let in, which leaves the stack alone.
  have entered : Ends room (do interpreter.step (Exec.enter location); effect')
      (do Exec.enter location; effect) := by
    intro context left
    refine (EndsAt.step (Exec.enter location)).bind fun _ middle ran => ends middle ?_
    rw [← left]
    exact room_after (Exec.confined_of_undisturbed (Exec.enter_undisturbed location)) ran
  intro context left
  refine (EndsAt.step get).bind fun looked middle ran => ?_
  cases ran
  cases context.hasReturned with
  | true => exact EndsAt.pure ()
  | false =>
    refine (EndsAt.step _).bind fun _ begun ran => ?_
    cases ran
    refine EndsAt.bind (entered.alone _ left) fun _ middle _ => ?_
    exact EndsAt.step _

/-- A block is opened and closed by single steps. -/
theorem Ends.inBlock {body' : Metered Unit} {body : Exec Unit} (ends : Ends room body' body) :
    Ends room (interpreter.inBlock body') (Exec.inBlock body) := by
  -- Opening comes first, and fails if there is no activation.
  intro context left
  refine (EndsAt.step Exec.pushScope).bind fun _ opened ran => ?_
  -- Opening a block takes no room from the stack.
  have same : opened.stack.room = room := by
    rw [Exec.pushScope_run] at ran
    cases frames : context.stack.frames with
    | nil =>
      rw [frames] at ran
      cases ran
    | cons frame callers =>
      rw [frames] at ran
      cases ran
      exact left
  exact (ends opened same).underFinally _

/-- An activation takes one place of the room that is left. -/
theorem Ends.activation (function : String) (buffer : Option Block) {body' : Metered Unit}
    {body : Exec Unit} (ends : Ends room body' body) :
    Ends (room + 1) (interpreter.activation function buffer body')
      (Exec.activation function buffer body) := by
  -- If there is no room, entering fails, and otherwise a place is taken.
  intro context left
  refine (EndsAt.step (Exec.pushFrame function buffer)).bind fun _ opened ran => ?_
  have fewer : opened.stack.room = room := by
    rw [Exec.pushFrame_run, left] at ran
    cases ran
    rfl
  exact ((ends opened fewer).lastly _).bind fun results _ _ => EndsAt.pure results.2

/-- A loop whose body is a statement ends: each round uses up a grant, or it is the last one. -/
theorem Ends.loop (location : Location) {test' : Metered Bool} {test : Exec Bool}
    {effect' : Metered Unit} {effect : Exec Unit} (tests : Evaluated room Bool test' test)
    (body : Executed room Unit effect' effect) :
    Ends room (interpreter.loop test' (interpreter.statement location effect'))
      (Exec.loop test (Exec.statement location effect)) := by
  have whole : Ends room _ _ := body.2.statement location
  -- The induction is on turns of which there are more than grants, so that they are not used up.
  have rounds (turns : Nat) : ∀ context : Context, context.stack.room = room →
      -- What is left of the grants bounds the rounds that are still to come.
      context.grants < turns →
      EndsAt (Metered.loop test' (interpreter.statement location effect')) context
        (Exec.repeatWhile test (Exec.statement location effect) turns context) := by
    induction turns with
    | zero => intro context left few; omega
    | succ turns ih =>
      intro context left few
      refine EndsAt.succ (loop_succ _ _) ((EndsAt.step get).bind fun looked middle ran => ?_)
      cases ran
      cases returned : context.hasReturned with
      | true => exact EndsAt.pure ()
      | false =>
        simp only [Bool.false_eq_true, if_false]
        refine (tests.2 context left).bind fun proceed middle tested => ?_
        cases proceed with
        | false => exact EndsAt.pure ()
        | true =>
          have kept := tests.1.1 context
          have spent := tests.1.2.onward context
          -- What the test spends is spent, and the body spends one grant more.
          rw [tested] at kept spent
          have same : middle.stack.room = room := by rw [kept.1.stack, left]
          refine (whole middle same).bind fun _ last ran => ih last ?_ ?_
          · rw [← same]
            exact room_after (Exec.statement_confined location body.1.1) ran
          · -- The body is let in, since the test has not returned from the function.
            have running : middle.hasReturned = false := by
              rw [← returned]
              exact congrArg (fun stack => stack.current?.any (·.hasReturned)) kept.1.stack
            have fewer := Exec.statement_spends body.1.2.onward running ran
            have before : middle.grants ≤ context.grants := spent.grants
            omega
  -- A loop has one turn more than it has grants.
  intro context left
  exact rounds (context.grants + 1) context left (Nat.lt_succ_self _)

/-- Counting the steps of a program is tied to running it, wherever so much room is left. -/
theorem interprets (room : Nat) : Interprets interpreter (fun _ => Exec.PacedEvaluation)
    (Evaluated room) (Executed room) where
  single := Exec.executes_paced.toEvaluates
  handOver := Exec.executes_paced.handOver
  step obeys := ⟨obeys, fun _ _ => EndsAt.step _⟩
  pure result := ⟨Exec.executes_paced.pure result, fun _ _ => EndsAt.pure result⟩
  bind first rest := by
    refine ⟨Exec.executes_paced.bind first.1 fun result => (rest result).1, fun context left => ?_⟩
    -- The first part leaves the room as it was, so the second is counted in the same room.
    refine (first.2 context left).bind fun result middle ran => (rest result).2 middle ?_
    rw [← left]
    exact room_after (Exec.confined_of_undisturbed first.1.1) ran
  text address :=
    ⟨Exec.executes_paced.textFrom address, fun context _ => text_ends context address⟩
  alone related := ⟨Exec.executes_paced.alone related.1, related.2.alone⟩
  weaken related := ⟨Exec.executes_paced.weaken related.1, related.2⟩
  seq first rest := by
    refine ⟨Exec.executes_paced.seq first.1 fun result => (rest result).1, fun context left => ?_⟩
    refine (first.2 context left).bind fun result middle ran => (rest result).2 middle ?_
    rw [← left]
    exact room_after first.1.1 ran
  declare name type init :=
    ⟨Exec.executes_paced.declare name type init, fun _ _ => EndsAt.step _⟩
  markReturned value := ⟨Exec.executes_paced.markReturned value, fun _ _ => EndsAt.step _⟩
  loadString literal := ⟨Exec.executes_paced.loadString literal, fun _ _ => EndsAt.step _⟩
  inBlock related := ⟨Exec.executes_paced.inBlock related.1, related.2.inBlock⟩
  statement location _ _ related :=
    ⟨Exec.executes_paced.statement location related.1, related.2.statement location⟩
  loop location _ _ _ _ tests related :=
    ⟨Exec.executes_paced.loop location tests.1 related.1, Ends.loop location tests related⟩

/-- Calls that may be nested deeper than there is room on the stack end as on the machine. -/
theorem calling_ends (room depth : Nat) (fits : room < depth) (function : Function)
    (arguments : List Value) (buffer : Option Block) :
    Evaluated room Value (calling depth function arguments buffer)
      (Function.invoke room function arguments buffer) := by
  -- The body of a function calls others with one place less, so the induction is on the room.
  induction room generalizing depth function arguments buffer with
  | zero =>
    refine ⟨Exec.executes_paced.invoke 0 function arguments buffer, fun context left => ?_⟩
    -- A depth above the room is never used up.
    cases depth with
    | zero => omega
    | succ depth =>
      rw [Function.invoke]
      refine (EndsAt.step _).bind fun _ middle ran => ?_
      -- Counting the arguments leaves the stack alone, on which there is no room.
      have same : middle.stack.room = 0 := by
        rw [← left]
        exact room_after (Exec.executes_confined.weaken
          (Exec.executes_confined.checkCount function arguments)) ran
      have full : EndsAt (interpreter.step (Exec.pushFrame function.name buffer)) middle
          (.error (.fault (.stack (.overflow middle.stack.limit))) middle) := by
        have ends : EndsAt _ middle _ := EndsAt.step (Exec.pushFrame function.name buffer)
        rwa [Exec.pushFrame_run, same] at ends
      exact (full.fails _).fails _
  | succ room ih =>
    cases depth with
    | zero => omega
    | succ depth =>
      exact (interprets (room + 1)).invoke (interprets room)
        (fun function buffer _ _ related =>
          ⟨Exec.executes_paced.activation function buffer related.1,
            related.2.activation function buffer⟩)
        (fun function arguments buffer => ih depth (by omega) function arguments buffer)
        function arguments buffer

/-- The moments at which a computation that is granted so many statements is let into them, in
order. -/
def entries (run : Exec α) (context : Context) (grants : Nat) : List Moment :=
  (stateOf (run (context.repaced grants (.full [])))).journal.moments.reverse

/-- A computation that is granted so many statements comes, after finitely many steps and with any
record, to its end or to the entry of the one statement more. There it is suspended, at the moment
at which a run with more grants is let in after as many others. -/
structure FiniteStep (run' : Metered α) (run : Exec α) (context : Context) (grants : Nat) :
    Prop where
  ends : ∀ journal, EndsAt run' (context.repaced grants journal)
    (run (context.repaced grants journal))
  few : (entries run context grants).length ≤ grants
  reaches : ∀ view last, run (context.repaced grants (.full [])) = .error (.suspended view) last →
    (entries run context grants).length = grants ∧
      ∀ more, grants < more → ∃ moment, (entries run context more)[grants]? = some moment ∧
        moment.scene = view.toScene

/-- A run that follows another one with the same grants is let into no more statements than it is
granted, and into all of them if the other one is suspended. -/
theorem moments_of_follows {granted : Nat} {short long : EStateM.Result Unwind Context α}
    (follows : Exec.Follows 0 granted [] short long) :
    (stateOf long).journal.moments.length ≤ granted ∧
      ∀ view last, short = .error (.suspended view) last →
        (stateOf long).journal.moments.length = granted := by
  -- How the run ends decides how many statements were let in.
  match short, follows with
  | .ok result last, ⟨newer, count, same⟩ =>
    rw [same]
    exact ⟨by simp [Context.repaced, Journal.moments]; omega, by simp⟩
  | .error (.fault cause) last, ⟨newer, count, same⟩ =>
    rw [same]
    exact ⟨by simp [Context.repaced, Journal.moments]; omega, by simp⟩
  | .error (.suspended view) last, ⟨spent, newer, count, passes⟩ =>
    obtain ⟨seen, -, same⟩ := passes.stops rfl
    rw [same]
    simp [Context.repaced, Journal.moments, count]

/-- Statements whose steps are counted come to an end or to an entry. -/
theorem Executed.finite {run' : Metered α} {run : Exec α} {context : Context}
    (related : Executed context.stack.room α run' run) (grants : Nat) :
    FiniteStep run' run context grants := by
  -- The two runs are the same program with different grants and a full record.
  have follows (extra : Nat) : Exec.Follows extra grants []
      (run (context.repaced grants (.full [])))
      (run (context.repaced (grants + extra) (.full []))) :=
    related.1.2.tracks extra [] (context.repaced grants (.full []))
  obtain ⟨few, all⟩ := moments_of_follows (follows 0)
  have count (more : Nat) : (entries run context more).length =
      (stateOf (run (context.repaced more (.full [])))).journal.moments.length :=
    List.length_reverse
  refine ⟨fun journal => related.2 _ rfl, Nat.le_trans (Nat.le_of_eq (count grants)) few,
    fun view last ran => ?_⟩
  refine ⟨(count grants).trans (all view last ran), fun more lt => ?_⟩
  -- A run with more grants is let in at the moment at which this one is suspended.
  obtain ⟨extra, rfl⟩ := Nat.exists_eq_add_of_lt lt
  have further := follows (extra + 1)
  rw [ran] at further
  obtain ⟨-, newer, rfl, passes⟩ := further
  obtain ⟨later, moment, scene, recorded⟩ := passes.goesOn (Nat.succ_pos extra)
  refine ⟨moment, ?_, scene⟩
  rw [entries, Nat.add_assoc, recorded]
  simp [Journal.moments]

section Present

variable {depth : Nat} (fits : room < depth)

include fits

/-- What is related wherever calls are run from the depth on that is left is related at the present
depth. -/
theorem Executed.present (run' : Calls Metered → Metered α) (run : Invoke → Exec α)
    (related : ∀ room depth, room < depth →
      Executed room α (run' (calling depth)) (run (Function.invoke room))) :
    Executed room α (run' (calling depth)) (Exec.invoker >>= run) := by
  -- The depth of the calls is no less than the room, whatever that is.
  refine ⟨Exec.executes_paced.invoked fun room =>
    (related room (room + 1) (Nat.lt_succ_self room)).1, fun context left => ?_⟩
  have ends := (related room depth fits).2 context left
  rwa [← left] at ends

/-- Statements end where calls may be nested deeper than there is room. -/
theorem exec_executed (statement : Stmt) :
    Executed room Unit (interpreter.exec (calling depth) statement)
      (Exec.runStatement statement) :=
  Executed.present fits (interpreter.exec · statement) statement.exec fun room depth fits =>
    (interprets room).exec (calling_ends room depth fits) statement

/-- Expressions end where calls may be nested deeper than there is room. -/
theorem eval_executed (expression : Expr) :
    Executed room Value (interpreter.eval (calling depth) expression)
      (Exec.evaluate expression) :=
  Executed.present fits (interpreter.eval · expression) expression.eval fun room depth fits =>
    (interprets room).weaken (((interprets room).expressions (calling_ends room depth fits)).1 _)

/-- Places are found where calls may be nested deeper than there is room. -/
theorem place_executed (expression : Expr) :
    Executed room Place (interpreter.place (calling depth) expression)
      (Exec.placeOf expression) :=
  Executed.present fits (interpreter.place · expression) expression.place fun room depth fits =>
    (interprets room).weaken (((interprets room).expressions (calling_ends room depth fits)).2.2 _)

/-- Calls end where they may be nested deeper than there is room. -/
theorem call_executed (callee : Callable) (arguments : List Value) (buffer : Option Block) :
    Executed room Value (interpreter.call (calling depth) arguments buffer callee)
      (do callee.call (← Exec.invoker) arguments buffer) :=
  Executed.present fits (interpreter.call · arguments buffer callee)
    (callee.call · arguments buffer) fun room depth fits => (interprets room).weaken
      ((interprets room).call (calling_ends room depth fits) arguments buffer callee)

/-- Whole programs end where calls may be nested deeper than there is room. -/
theorem runProgram_executed (entryPoint : String) :
    Executed room Int32 (interpreter.runProgram (calling depth) entryPoint)
      (Exec.runProgram entryPoint) := by
  -- A program looks up how much room there is first, and then runs with it.
  refine ⟨Exec.executes_paced.runProgram entryPoint, fun context left => ?_⟩
  rw [Exec.runProgram_eq, left]
  exact ((interprets room).programBy (calling_ends room depth fits) entryPoint).2 context left

end Present

end Metered

end StepMachine
