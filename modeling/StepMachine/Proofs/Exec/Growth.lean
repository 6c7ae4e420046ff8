import StepMachine.Proofs.Context.Housing
import StepMachine.Proofs.Eval.Parallel
import StepMachine.Proofs.Stack.Discipline

/-! A program and the same program with more room, in memory and on the stack: every step that no
want of room touches is the same in both, so that evaluation and execution are. -/

namespace StepMachine

section Grown

variable (more deeper : Nat)

/-- The stack with room for more activations. -/
def CallStack.grown (stack : CallStack) : CallStack := { stack with room := stack.room + deeper }

/-- The same view of a program with more room. -/
def View.grown (view : View) : View := { view with heap := view.heap.grown more }

/-- The same moment of a program with more room. -/
def Moment.grown (moment : Moment) : Moment :=
  { moment with
    scene := { moment.scene with heap := moment.scene.heap.grown more }
    stack := moment.stack.grown deeper }

/-- The record of a program with more room. -/
def Journal.grown : Journal → Journal
  | off => off
  -- A short record shows what is used, which is the same.
  | brief entries => brief entries
  | full moments => full (moments.map (Moment.grown more deeper))

/-- The same state of a program with more room. -/
def Context.grown (context : Context) : Context :=
  { context with
    heap := context.heap.grown more
    stack := context.stack.grown deeper
    journal := context.journal.grown more deeper }

/-- A short record is the same with more room. -/
theorem Journal.entries_grown (journal : Journal) :
    (journal.grown more deeper).entries = journal.entries := by
  -- What a short record keeps has neither heap nor stack in it.
  cases journal <;> rfl

/-- What a host sees of a program with more room is the same view with more room. -/
theorem Context.view_grown (context : Context) :
    (context.grown more deeper).view = context.view.grown more := by
  -- Of the view only the heap is different, and the record is the same.
  unfold view
  rw [show (context.grown more deeper).journal.entries = context.journal.entries from
    Journal.entries_grown more deeper context.journal]
  rfl

/-- The same reason to unwind in a program with more room. -/
def Unwind.grown : Unwind → Unwind
  | fault cause => fault cause
  | suspended view => suspended (view.grown more)

/-- The same outcome in a program with more room. -/
def Exec.grown : EStateM.Result Unwind Context α → EStateM.Result Unwind Context α
  | .ok result last => .ok result (last.grown more deeper)
  | .error reason last => .error (reason.grown more) (last.grown more deeper)

end Grown

/-- Whether control leaves a statement for want of room. -/
def Unwind.wantsRoom : Unwind → Bool
  | fault cause => cause.wantsRoom
  | suspended _ => false

namespace Exec

/-- Nothing was refused for want of room, neither in the end nor before. -/
def Unhindered : EStateM.Result Unwind Context α → Prop
  | .ok _ last => last.refused = 0
  | .error reason last => reason.wantsRoom = false ∧ last.refused = 0

/-- Whatever is left behind, no request has been refused in it. -/
theorem Unhindered.refused {outcome : EStateM.Result Unwind Context α}
    (unhindered : Unhindered outcome) : (stateOf outcome).refused = 0 := by
  -- A result and a failure both say so of the state that they leave.
  cases outcome with
  | ok result last => exact unhindered
  | error reason last => exact unhindered.2

/-- Two computations of which the second one does with more room what the first one does, unless
that wants room. -/
structure Scales (more deeper : Nat) (short long : Exec α) : Prop where
  houses : Obeys Effect.housing short
  grows : ∀ context, context.Housed → Unhindered (short context) →
    long (context.grown more deeper) = grown more deeper (short context)

namespace Scales

variable {more deeper : Nat}

/-- A result given at once is the same with more room. -/
theorem pure (result : α) : Scales more deeper (pure result) (pure result) :=
  ⟨Obeys.pure result, fun _ _ _ => rfl⟩

/-- A failure is the same with more room, with what it shows of the heap. -/
theorem throw (reason : Unwind) :
    Scales more deeper (throw reason : Exec α) (throw (reason.grown more)) :=
  ⟨Obeys.throw reason, fun _ _ _ => rfl⟩

/-- A fault shows nothing of the heap. -/
theorem fail (cause : RuntimeError) : Scales more deeper (fail cause : Exec α) (fail cause) :=
  throw (.fault cause)

/-- A result of pure computing knows of no room. -/
theorem lift (result : Except RuntimeError α) :
    Scales more deeper (liftM result : Exec α) (liftM result) := by
  -- It is a result or a failure from the start.
  cases result with
  | ok result => exact pure result
  | error cause => exact fail cause

/-- A look at memory that has been taken knows of no room either. -/
theorem liftMemory (result : Except MemoryError α) :
    Scales more deeper (liftM result : Exec α) (liftM result) := by
  -- As for other results, with the cause handed on as the machine's.
  cases result with
  | ok result => exact pure result
  | error cause => exact fail (.memory cause)

/-- A sequence goes the same way if each part does. -/
theorem bind {run run' : Exec α} {next next' : α → Exec β} (first : Scales more deeper run run')
    (rest : ∀ result, Scales more deeper (next result) (next' result)) :
    Scales more deeper (run >>= next) (run' >>= next') := by
  refine ⟨Obeys.bind first.houses fun result => (rest result).houses,
    fun context housed unhindered => ?_⟩
  -- The first part goes the same way, and leaves what it holds in the arena.
  have came := first.grows context housed
  have houses := (Effect.allows_iff rfl).mp (first.houses context)
  rw [bind_run] at unhindered
  rw [bind_run, bind_run]
  cases ran : run context with
  | error reason middle =>
    -- A first part that unwinds is the whole outcome.
    rw [ran] at unhindered came
    rw [came unhindered]
    rfl
  | ok result middle =>
    rw [ran] at unhindered came houses
    -- What the second part does not find refused was not refused in the first part.
    have before : middle.refused = 0 := by
      have kept := ((Effect.allows_iff rfl).mp ((rest result).houses middle)).refused
      rw [unhindered.refused] at kept
      exact Nat.le_zero.mp kept
    rw [came before]
    exact (rest result).grows middle (houses.housed housed) unhindered

/-- What is looked up in the state may decide what happens next. -/
theorem consult {body body' : Context → Exec α}
    (rest : ∀ context, Scales more deeper (body context) (body' (context.grown more deeper))) :
    Scales more deeper (get >>= body) (get >>= body') :=
  ⟨Obeys.bind Obeys.get fun context => (rest context).houses,
    fun context => (rest context).grows context⟩

/-- What is looked up in the state and does not depend on the room there is. -/
theorem inspect {body : Context → Exec α}
    (same : ∀ context, body (context.grown more deeper) = body context)
    (rest : ∀ context, Scales more deeper (body context) (body context)) :
    Scales more deeper (get >>= body) (get >>= body) :=
  consult fun context => same context ▸ rest context

/-- A change of the state that does not look at the room there is. -/
theorem modify {change : Context → Context} (houses : Obeys Effect.housing (modify change))
    (same : ∀ context, change (context.grown more deeper) = (change context).grown more deeper) :
    Scales more deeper (modify change) (modify change) := by
  -- The change is made on both sides, and then one of them is given more room.
  refine ⟨houses, fun context _ _ => ?_⟩
  rw [modify_run, modify_run, same]
  rfl

/-- An edit that does the same in a longer arena. -/
theorem edit {change : Edit RuntimeError α} (houses : Obeys Effect.housing (edit change))
    (same : ∀ heap : Heap, heap.Bounded →
      change (heap.grown more) = Edit.grown more (change heap)) :
    Scales more deeper (edit change) (Exec.edit change) := by
  -- The edit sees a longer arena, and does the same to it.
  refine ⟨houses, fun context housed _ => ?_⟩
  have heap : (context.grown more deeper).heap = context.heap.grown more := rfl
  rw [edit_run, edit_run, heap, same context.heap housed.bounded]
  cases change context.heap <;> rfl

/-- What is read from memory is the same in a longer arena. -/
theorem readHeap (look : Heap → Except RuntimeError α) (same : ∀ heap : Heap, heap.Bounded →
      look (heap.grown more) = look heap) :
    Scales more deeper (do look (← get).heap) (do look (← get).heap) := by
  -- Reading changes nothing, so only the answers have to be compared.
  refine ⟨Obeys.bind Obeys.get fun context => Obeys.lift _, fun context housed unhindered => ?_⟩
  have heap : (context.grown more deeper).heap = context.heap.grown more := rfl
  simp only [bind_run, get_run, heap, same context.heap housed.bounded] at unhindered ⊢
  exact (lift (look context.heap)).grows context housed unhindered

end Scales

section Steps

variable {more deeper : Nat}

/-- The text at a pointer is the same in a longer arena. -/
theorem textAt_scales (pointer : Value) :
    Scales more deeper (Builtin.textAt pointer) (Builtin.textAt pointer) := by
  -- The pointer is read as an address first, which does not involve memory at all.
  refine ⟨steps_house.executes.textAt pointer, fun context housed _ => ?_⟩
  have heap : (context.grown more deeper).heap = context.heap.grown more := rfl
  simp only [Builtin.textAt, bind_run, get_run, heap]
  cases pointer.asPointer with
  | error cause => rfl
  | ok address =>
    simp only [lift_ok, pure_run, Heap.readText_grown housed.bounded]
    cases context.heap.readText address <;> rfl

/-- A temporary object that is not refused is made in the same place. -/
theorem temporary_scales (type : CType) :
    Scales more deeper (temporary type) (temporary type) := by
  refine ⟨temporary_houses type, fun context housed unhindered => ?_⟩
  have heap : (context.grown more deeper).heap = context.heap.grown more := rfl
  rw [temporary_run] at unhindered
  rw [temporary_run, temporary_run, heap, Variable.allocate_grown housed.bounded]
  · -- What was made enters the list of temporaries on both sides.
    cases Variable.allocate type context.heap <;> rfl
  · -- A refusal here would have been a want of room.
    intro cause last failed
    rw [failed] at unhindered
    exact unhindered.1

/-- A return buffer that is not refused is made in the same place. -/
theorem returnBuffer_scales (type : CType) :
    Scales more deeper (returnBuffer type) (returnBuffer type) := by
  -- A structure is given room; any other result needs none.
  unfold returnBuffer
  split
  · exact .bind (temporary_scales type) fun object =>
      .bind (.liftMemory _) fun block => .pure (some block)
  · exact .pure none

/-- Printing has nothing to do with room. -/
theorem print_scales (text : String) : Scales more deeper (print text) (print text) :=
  .modify (steps_house.print text) fun _ => rfl

/-- A request that is not refused is answered with the same block. -/
theorem mallocOrNull_scales (size : Nat) :
    Scales more deeper (Builtin.mallocOrNull size) (Builtin.mallocOrNull size) := by
  refine ⟨mallocOrNull_houses size, fun context housed unhindered => ?_⟩
  have heap : (context.grown more deeper).heap = context.heap.grown more := rfl
  rw [mallocOrNull_run] at unhindered
  rw [mallocOrNull_run, mallocOrNull_run, heap, Heap.allocate_grown]
  · -- Granted, the block is the same; refused for another cause, so is the refusal.
    cases Heap.allocate size context.heap with
    | ok block heap => rfl
    | error cause heap => cases cause <;> rfl
  · -- The two heaps answer alike because this one did not want room.
    intro cause last failed
    rw [failed] at unhindered
    -- A refusal for want of room would have been counted.
    cases cause with
    | outOfMemory requested available => cases unhindered
    | _ => rfl

/-- What the program holds lies in its arena, so that freeing it is the same in a longer one. -/
theorem releaseAll_owned {context : Context} (housed : context.Housed) {blocks : List Block}
    (held : blocks ⊆ context.owned) :
    (context.heap.grown more).releaseAll blocks = (context.heap.releaseAll blocks).grown more :=
  Heap.releaseAll_grown more fun block member => housed.inside block (held member)

/-- What is given back was held in the arena. -/
theorem free_scales (address : Address) : Scales more deeper (free address) (free address) := by
  refine ⟨free_houses address, fun context housed _ => ?_⟩
  have heap : (context.grown more deeper).heap = context.heap.grown more := rfl
  have dynamic : (context.grown more deeper).dynamic = context.dynamic := rfl
  rw [free_run, free_run, heap, dynamic]
  -- The block is looked for among those given out, which are the same.
  cases found : context.dynamic.find? (·.address = address) with
  | none => rfl
  | some block =>
    have held : [block] ⊆ context.owned := by
      simpa [Context.owned] using .inr (.inr (.inr (.inr (List.mem_of_find?_eq_some found))))
    simp only [releaseAll_owned housed held]
    rfl

/-- A result is handed over in the same way with more room. -/
theorem handOver_scales (value : Value) :
    Scales more deeper (handOver value) (handOver value) := by
  -- The buffer belongs to the current activation, which is the same.
  refine .inspect (fun _ => rfl) fun context => ?_
  split
  · -- Copying to the buffer only writes bytes that are there already.
    refine .bind (.edit ?_ fun heap bounded => ?_) fun _ => .pure _
    · refine edit_houses_of_rewrites fun heap => ?_
      rw [Edit.after_liftMemory]
      exact Block.fillFrom_rewrites ..
    · exact liftMemory_grown (Block.fillFrom_grown bounded more _ _ _)
  · exact .pure _

/-- A computation that is confined leaves a state that is, however it ends. -/
theorem execution_outcome {run : Exec α} (obeys : Obeys Effect.execution run) (context : Context) :
    context.Confined (stateOf (run context)) := by
  -- Ending and unwinding, being confined is said of the state that is left.
  have obeys := obeys context
  cases ran : run context with
  | ok result last =>
    rw [ran] at obeys
    exact obeys.1
  | error reason last =>
    rw [ran] at obeys
    exact obeys.1

/-- What a name stands for in the innermost scope is held. -/
theorem find_subset_owned (context : Context) (name : String) :
    (context.currentScope.find? name).toList.map (·.block) ⊆ context.owned := by
  refine List.Subset.trans (fun block member => ?_) context.currentScope_subset_owned
  -- It stands in one of the bindings of the scope.
  obtain ⟨object, found, rfl⟩ := List.mem_map.mp member
  obtain ⟨newer, older, bindings, -⟩ := List.lookup_eq_some_iff.mp (Option.mem_toList.mp found)
  rw [Scope.blocks, bindings]
  exact List.mem_map.mpr ⟨(name, object), by simp, rfl⟩

/-- A declaration that is not refused makes the same object and frees the same storage. -/
theorem declare_scales (name : String) (type : CType) (init : Option Value) :
    Scales more deeper (declare name type init) (declare name type init) := by
  refine ⟨declare_houses name type init, fun context housed unhindered => ?_⟩
  -- With more room the same scope is looked into, and the arena is longer.
  have heap : (context.grown more deeper).heap = context.heap.grown more := rfl
  have scope : (context.grown more deeper).currentScope = context.currentScope := rfl
  have inside := Variable.create_inside housed.bounded type init
  rw [declare_run] at unhindered
  rw [declare_run, declare_run, heap, scope, Variable.create_grown housed.bounded]
  · cases made : Variable.create type init context.heap with
    | error cause last => rfl
    | ok object last =>
      rw [made] at inside
      -- What the name stood for lies in the arena, also after the new object is made.
      have freed := Heap.releaseAll_grown more fun block member =>
        inside.1.inside (housed.inside block (find_subset_owned context name member))
      simp only [Edit.grown, grown, freed]
      congr 1
      unfold Context.setCurrentScope CallStack.current?
      cases frames : context.stack.frames <;>
        simp [Context.grown, CallStack.grown, CallStack.setCurrent, frames]
  · -- A refusal here would have been a want of room.
    intro cause last failed
    rw [failed] at unhindered
    exact unhindered.1

/-- A result is recorded in the same activation. -/
theorem markReturned_scales (value : Value) :
    Scales more deeper (markReturned value) (markReturned value) := by
  refine ⟨markReturned_houses value, fun context _ _ => ?_⟩
  have frames : (context.grown more deeper).stack.frames = context.stack.frames := rfl
  rw [markReturned_run, markReturned_run, frames]
  -- The activations are the same, and so is whether the current one has a result.
  cases context.stack.frames with
  | nil => rfl
  | cons frame callers =>
    simp only
    split <;> rfl

/-- A scope is opened in the same activation. -/
theorem pushScope_scales : Scales more deeper pushScope pushScope := by
  refine ⟨pushScope_houses, fun context _ _ => ?_⟩
  -- The activations are the same, whatever room is left beside them.
  have frames : (context.grown more deeper).stack.frames = context.stack.frames := rfl
  rw [pushScope_run, pushScope_run, frames]
  cases context.stack.frames <;> rfl

/-- A scope is closed in the same activation, and what it bound is freed in the arena. -/
theorem popScope_scales : Scales more deeper popScope popScope := by
  refine ⟨popScope_houses, fun context housed _ => ?_⟩
  -- The activations are the same, and the arena is longer.
  have same : (context.grown more deeper).stack.frames = context.stack.frames := rfl
  have heap : (context.grown more deeper).heap = context.heap.grown more := rfl
  rw [popScope_run, popScope_run, same, heap]
  cases frames : context.stack.frames with
  | nil => rfl
  | cons frame callers =>
    simp only
    cases nested : frame.nested with
    | nil => rfl
    | cons scope outer =>
      -- What the block binds is part of what the stack holds.
      have held : scope.blocks ⊆ context.owned := by
        intro block member
        simp only [Context.owned, List.mem_append, CallStack.blocks, frames, List.flatMap_cons,
          Frame.blocks, Frame.scopes, nested, List.cons_append]
        grind
      simp only [releaseAll_owned housed held]
      rfl

/-- An activation that fits also fits where there is more room. -/
theorem pushFrame_scales (function : String) (buffer : Option Block) :
    Scales more deeper (pushFrame function buffer) (pushFrame function buffer) := by
  refine ⟨pushFrame_houses function buffer, fun context _ unhindered => ?_⟩
  have room : (context.grown more deeper).stack.room = context.stack.room + deeper := rfl
  rw [pushFrame_run] at unhindered
  rw [pushFrame_run, pushFrame_run, room]
  cases left : context.stack.room with
  | zero =>
    -- A stack that is full is a want of room.
    rw [left] at unhindered
    cases unhindered.1
  | succ room =>
    rw [Nat.add_right_comm]
    rfl

/-- An activation is closed, which makes room for one more on both sides. -/
theorem popFrame_scales : Scales more deeper popFrame popFrame := by
  refine ⟨popFrame_houses, fun context housed _ => ?_⟩
  -- The activations are the same, and the room that comes back is one more on both sides.
  have same : (context.grown more deeper).stack.frames = context.stack.frames := rfl
  have heap : (context.grown more deeper).heap = context.heap.grown more := rfl
  have room : (context.grown more deeper).stack.room + 1 = context.stack.room + 1 + deeper :=
    Nat.add_right_comm ..
  rw [popFrame_run, popFrame_run, same, heap, room]
  cases frames : context.stack.frames with
  | nil => rfl
  | cons frame callers =>
    -- What the activation binds is part of what the stack holds.
    have held : frame.blocks ⊆ context.owned := by
      intro block member
      simp only [Context.owned, List.mem_append, CallStack.blocks, frames, List.flatMap_cons]
      grind
    simp only [releaseAll_owned housed held]
    rfl

/-- What is recorded when a statement is let in is the present moment, also with more room. -/
theorem enter_scales (location : Location) :
    Scales more deeper (enter location) (enter location) := by
  refine ⟨enter_houses location, fun context _ _ => ?_⟩
  -- The grants are not room, so that both pause or both go on.
  have same : (context.grown more deeper).grants = context.grants := rfl
  cases allowed : context.grants with
  | zero =>
    rw [enter_without allowed, enter_without (same.trans allowed)]
    have reached : (context.grown more deeper).reached location =
      (context.reached location).grown more deeper := rfl
    rw [reached, Context.view_grown]
    rfl
  | succ grants =>
    rw [enter_with allowed, enter_with (same.trans allowed)]
    -- A full record shows the moment with more room, and a short one what is used.
    cases journal : context.journal <;>
      simp only [grown, Context.grown, Context.entered, Context.reached, Journal.grown, Journal.add,
        journal] <;> rfl

/-- Dropping temporary objects is the same with more room. -/
theorem dropTemporaries_grown {context : Context} (housed : context.Housed) (mark : Nat) :
    (context.grown more deeper).dropTemporaries mark =
      (context.dropTemporaries mark).grown more deeper := by
  -- Temporary objects are held by the program, so they lie in the arena.
  have held : (context.temporaries.toList.drop mark).map (·.block) ⊆ context.owned := by
    intro block member
    have older := List.map_subset _ (List.drop_subset mark context.temporaries.toList) member
    simp only [Context.owned, List.mem_append]
    grind
  simp only [Context.dropTemporaries, Context.grown, releaseAll_owned housed held]

/-- The temporary objects of a computation go in the same way. -/
theorem alone_scales {run run' : Exec α} (first : Scales more deeper run run') :
    Scales more deeper (alone run) (alone run') := by
  refine ⟨steps_house.alone first.houses, fun context housed unhindered => ?_⟩
  -- Both end the same way, and after that release what lies behind the same mark.
  have came := first.grows context housed
  have houses := (Effect.allows_iff rfl).mp (first.houses context)
  have size : (context.grown more deeper).temporaries.size = context.temporaries.size := rfl
  rw [alone_run] at unhindered
  rw [alone_run, alone_run, size]
  cases ran : run context with
  | ok result last =>
    rw [ran] at unhindered came houses
    rw [came unhindered]
    exact congrArg _ (dropTemporaries_grown (houses.housed housed) _)
  | error reason last =>
    rw [ran] at unhindered came houses
    rw [came unhindered]
    exact congrArg _ (dropTemporaries_grown (houses.housed housed) _)

/-- A statement goes the same way if its effect does. -/
theorem statement_scales (location : Location) {effect effect' : Exec Unit}
    (first : Scales more deeper effect effect') :
    Scales more deeper (statement location effect) (statement location effect') := by
  -- Whether the function has returned decides first, and it is the same.
  refine .consult fun context => ?_
  have returned : (context.grown more deeper).hasReturned = context.hasReturned := rfl
  rw [returned]
  split
  · exact .pure ()
  · -- Beginning and ending a statement only change what is under way.
    have active (change : List Location → List Location) : Scales more deeper
        (modify fun context => { context with active := change context.active })
        (modify fun context => { context with active := change context.active }) :=
      .modify (Obeys.modify fun context => steps_house.activate context _) fun _ => rfl
    exact .bind (active _) fun _ =>
      .bind (alone_scales (.bind (enter_scales location) fun _ => first)) fun _ => active _

/-- A loop goes the same way if its test and its body do. -/
theorem loop_scales {test test' : Exec Bool} {body body' : Exec Unit}
    (tests : Scales more deeper test test') (bodies : Scales more deeper body body') :
    Scales more deeper (loop test body) (loop test' body') := by
  have rounds (turns : Nat) :
      Scales more deeper (repeatWhile test body turns) (repeatWhile test' body' turns) := by
    -- The induction is on the turns, of which both have the same number.
    induction turns with
    | zero =>
      -- Without turns left both show what a host sees, one of them with more room.
      refine .consult fun context => ?_
      rw [Context.view_grown]
      exact .throw (.suspended context.view)
    | succ turns ih =>
      -- A turn begins with a look at the return, then comes the test.
      refine .consult fun context => ?_
      have returned : (context.grown more deeper).hasReturned = context.hasReturned := rfl
      rw [returned]
      split
      · exact .pure ()
      · refine .bind tests fun proceed => ?_
        cases proceed with
        | true => exact .bind bodies fun _ => ih
        | false => exact .pure ()
  -- Both may take as many turns as there are grants.
  exact .consult fun context => rounds (context.grants + 1)

/-- What is opened around a body and closed however that ends goes the same way if the body does.
Closing has to succeed, so that it does not cover up what stopped the body. -/
theorem enclosed_scales {start : Exec Unit} {close : Exec β} {body body' : Exec Unit}
    (opens : Scales more deeper start start) (closes : Scales more deeper close close)
    (first : Scales more deeper body body')
    (succeeds : ∀ context opened, start context = .ok () opened →
      ∃ result left, close (stateOf (body opened)) = .ok result left) :
    Scales more deeper (start >>= fun _ => tryFinally' body fun _ => close)
      (start >>= fun _ => tryFinally' body' fun _ => close) := by
  refine ⟨Obeys.bind opens.houses fun _ => Obeys.tryFinally' first.houses closes.houses,
    fun context housed unhindered => ?_⟩
  -- Opening, body and closing are compared one after the other.
  have opening := opens.grows context housed
  have houses := (Effect.allows_iff rfl).mp (opens.houses context)
  have succeeds := succeeds context
  rw [bind_run] at unhindered
  rw [bind_run, bind_run]
  cases started : start context with
  | error reason opened =>
    -- If nothing could be opened, that is the outcome on both sides.
    rw [started] at unhindered opening
    rw [opening unhindered]
    rfl
  | ok _ opened =>
    rw [started] at unhindered opening houses
    obtain ⟨result, left, closed⟩ := succeeds opened started
    have came := first.grows opened (houses.housed housed)
    have inner := (Effect.allows_iff rfl).mp (first.houses opened)
    have closing := closes.grows (stateOf (body opened)) (inner.housed (houses.housed housed))
    have kept := ((Effect.allows_iff rfl).mp (closes.houses (stateOf (body opened)))).refused
    rw [closed] at closing kept
    simp only [tryFinally'_run] at unhindered ⊢
    -- Nothing was refused up to the end of the body, since nothing is in the end.
    have left_refused : left.refused = 0 := by
      -- Both endings of the body hand on the state that closing has left.
      cases ran : body opened <;> simp only [ran, stateOf] at unhindered closed <;>
        simp only [closed] at unhindered
      · exact unhindered
      · exact unhindered.2
    have body_refused : (stateOf (body opened)).refused = 0 :=
      Nat.le_zero.mp (left_refused ▸ kept)
    have open_refused : opened.refused = 0 := Nat.le_zero.mp (body_refused ▸ inner.refused)
    rw [opening open_refused]
    simp only [grown]
    cases ran : body opened with
    | ok result' last =>
      -- The body has ended, and so closing decides on the outcome.
      rw [ran] at came closed closing body_refused unhindered
      rw [came body_refused]
      simp only [grown, stateOf] at closing closed ⊢
      rw [closing left_refused, closed]
    | error reason last =>
      rw [ran] at came closed closing body_refused unhindered
      -- The body has unwound, and closing succeeds without covering that up.
      simp only [stateOf] at closed closing body_refused
      simp only [closed] at unhindered
      rw [came ⟨unhindered.1, body_refused⟩]
      simp only [grown] at closing ⊢
      rw [closing left_refused, closed]

/-- A block around a body that is confined goes the same way if the body does. -/
theorem inBlock_scales {body body' : Exec Unit} (confined : Obeys Effect.execution body)
    (first : Scales more deeper body body') :
    Scales more deeper (inBlock body) (inBlock body') := by
  -- A body that is confined leaves the block to be closed.
  have enclosed := enclosed_scales pushScope_scales popScope_scales first
    fun context opened started => by
      rw [pushScope_run] at started
      cases frames : context.stack.frames with
      | nil =>
        rw [frames] at started
        cases started
      | cons frame callers =>
        rw [frames] at started
        cases started
        obtain ⟨left, closed, -⟩ := popScope_closes frames (execution_outcome confined _)
        exact ⟨_, left, closed⟩
  -- The result of the body is handed on, and that of closing is dropped.
  have both := Scales.bind enclosed fun results => Scales.pure results.1
  simp only [inBlock, tryFinally, map_eq_pure_bind, ← bind_assoc]
  exact both

/-- An activation around a body that is confined goes the same way if the body does. -/
theorem activation_scales (function : String) (buffer : Option Block) {body body' : Exec Unit}
    (confined : Obeys Effect.execution body) (first : Scales more deeper body body') :
    Scales more deeper (activation function buffer body) (activation function buffer body') := by
  -- A body that is confined leaves the activation to be closed.
  have enclosed := enclosed_scales (pushFrame_scales function buffer) popFrame_scales first
    fun context opened started => by
      rw [pushFrame_run] at started
      cases left : context.stack.room with
      | zero =>
        rw [left] at started
        cases started
      | succ room =>
        rw [left] at started
        cases started
        obtain ⟨changed, after, closed, -⟩ := popFrame_closes left (execution_outcome confined _)
        exact ⟨changed, after, closed⟩
  -- The activation itself is handed on, since it keeps the result.
  have both := Scales.bind enclosed fun results => Scales.pure results.2
  simp only [activation, ← bind_assoc]
  exact both

/-- A literal that is not refused is laid out in the same place. -/
theorem loadString_scales (literal : String) :
    Scales more deeper (loadString literal) (loadString literal) := by
  refine ⟨loadString_houses literal, fun context housed unhindered => ?_⟩
  -- The request for its block comes first, and is the only one.
  have heap : (context.grown more deeper).heap = context.heap.grown more := rfl
  rw [loadString_run] at unhindered
  rw [loadString_run, loadString_run, heap, Heap.allocate_grown]
  · cases allocated : Heap.allocate ((utf8Bytes literal).length + 1) context.heap with
    | error cause last => rfl
    | ok block middle =>
      -- The block that was had lies in the arena, and writing to it keeps the arena.
      obtain ⟨same, inside⟩ := Heap.allocate_inside housed.bounded allocated
      have written := Heap.SameArena.of_rewritten
        (writeText_rewrites block (utf8Bytes literal) middle)
      unfold Edit.after at written
      simp only [Edit.grown, block.writeText_grown (same.bounded housed.bounded)]
      cases wrote : block.writeText (utf8Bytes literal) middle with
      | ok _ last => rfl
      | error cause last =>
        -- The block that is given back lies in the arena.
        rw [wrote] at written
        have freed : (last.grown more).releaseAll [block] = (last.releaseAll [block]).grown more :=
          Heap.releaseAll_grown more fun other member => by
            rw [List.mem_singleton.mp member]
            exact written.inside inside
        simp only [freed]
        rfl
  · -- A refusal here would have been a want of room.
    intro cause last failed
    rw [failed] at unhindered
    exact unhindered.1

end Steps

section Programs

variable {more deeper : Nat}

/-- Expressions with more room disturb nothing, like those they are compared with. -/
abbrev EvaluationScales (more deeper : Nat) (α : Type) (short long : Exec α) : Prop :=
  Obeys Effect.evaluation short ∧ Scales more deeper short long

/-- Statements with more room are confined, like those they are compared with. -/
abbrev ExecutionScales (more deeper : Nat) (α : Type) (short long : Exec α) : Prop :=
  Obeys Effect.execution short ∧ Scales more deeper short long

/-- Every step of evaluation and execution is the same with more room. -/
theorem steps_scale :
    ParallelStatements (EvaluationScales more deeper) (ExecutionScales more deeper) where
  pure result := ⟨Obeys.pure result, .pure result⟩
  bind first rest := ⟨Obeys.bind first.1 fun result => (rest result).1,
    first.2.bind fun result => (rest result).2⟩
  lift result := ⟨Obeys.lift result, .lift result⟩
  stringAddress index := by
    refine ⟨evaluates_undisturbed.stringAddress index, .inspect (fun _ => rfl) fun context => ?_⟩
    split
    · exact .pure _
    · exact .fail _
  lookup name := by
    refine ⟨evaluates_undisturbed.lookup name, .inspect (fun _ => rfl) fun context => ?_⟩
    split
    · exact .pure _
    · exact .fail _
  resolve name := by
    refine ⟨evaluates_undisturbed.resolve name, .inspect (fun _ => rfl) fun context => ?_⟩
    split
    · exact .pure _
    · exact .pure _
    · exact .fail _
  loadPlace place := ⟨evaluates_undisturbed.loadPlace place,
    .readHeap (·.load place.address place.type) fun _ bounded => Heap.load_grown bounded more _ _⟩
  textAt pointer := ⟨evaluates_undisturbed.textAt pointer, textAt_scales pointer⟩
  expand format arguments := ⟨evaluates_undisturbed.readHeap (Format.expand · format arguments),
    .readHeap (Format.expand · format arguments) fun _ bounded =>
      Format.expand_grown bounded more format arguments⟩
  store address type value := ⟨evaluates_undisturbed.store address type value,
    .edit (steps_house.store address type value) fun _ bounded =>
      Heap.store_grown bounded more address type value⟩
  returnBuffer type := ⟨evaluates_undisturbed.returnBuffer type, returnBuffer_scales type⟩
  print text := ⟨evaluates_undisturbed.print text, print_scales text⟩
  mallocOrNull size := ⟨evaluates_undisturbed.mallocOrNull size, mallocOrNull_scales size⟩
  free address := ⟨evaluates_undisturbed.free address, free_scales address⟩
  weaken related := ⟨confined_of_undisturbed related.1, related.2⟩
  seq first rest := ⟨Obeys.bind first.1 fun result => (rest result).1,
    first.2.bind fun result => (rest result).2⟩
  alone related := ⟨alone_undisturbed related.1, alone_scales related.2⟩
  handOver value := ⟨handOver_undisturbed value, handOver_scales value⟩
  declare name type init := ⟨declare_confined name type init, declare_scales name type init⟩
  markReturned value := ⟨markReturned_confined value, markReturned_scales value⟩
  inBlock related := ⟨inBlock_confined related.1, inBlock_scales related.1 related.2⟩
  statement location _ _ related :=
    ⟨statement_confined location related.1, statement_scales location related.2⟩
  loop location _ _ _ _ tests related :=
    ⟨executes_confined.loop location tests.1 related.1,
      loop_scales tests.2 (statement_scales location related.2)⟩

/-- A call with the wrong number of arguments fails, however much room there is. -/
theorem invoke_miscounted {function : Function} {arguments : List Value}
    (miscounted : arguments.length ≠ function.parameters.length) (room : Nat)
    (buffer : Option Block) :
    Function.invoke room function arguments buffer =
      fail (.argumentCount function.name function.parameters.length arguments.length) := by
  -- The arguments are counted before anything else is done.
  cases room <;> rw [Function.invoke, Function.checkCount, if_neg miscounted] <;> rfl

/-- Calls go the same way with more room, each with as much more as there is. -/
theorem invoke_scales (room : Nat) (function : Function) (arguments : List Value)
    (buffer : Option Block) :
    EvaluationScales more deeper Value (Function.invoke room function arguments buffer)
      (Function.invoke (room + deeper) function arguments buffer) := by
  -- The induction is on the room of the program with less of it.
  induction room generalizing function arguments buffer with
  | zero =>
    have obeys := executes_confined.invoke 0 function arguments buffer
    have houses := steps_house.executes.invoke 0 function arguments buffer
    by_cases counted : arguments.length = function.parameters.length
    · -- Without room a call that is right fails for want of it.
      refine ⟨obeys, houses, fun context _ unhindered => ?_⟩
      rw [Function.invoke, Function.checkCount, if_pos counted] at unhindered
      cases unhindered.1
    · rw [invoke_miscounted counted, invoke_miscounted counted]
      exact steps_scale.fail _
  | succ room ih =>
    obtain ⟨-, bodies⟩ := steps_scale.statements ih
    have body := steps_scale.seq (steps_scale.bindAll function.parameters arguments)
      fun _ => bodies function.body
    rw [Nat.add_right_comm, Function.invoke, Function.invoke]
    exact steps_scale.bind (steps_scale.checkCount function arguments) fun _ =>
      steps_scale.bind ⟨activation_undisturbed function.name buffer body.1,
        activation_scales function.name buffer body.1 body.2⟩ fun frame =>
          steps_scale.yielded frame function.result

/-- The depth that is left decides how calls are run, with more room for deeper ones. -/
theorem invoked_scales {next next' : Invoke → Exec α} (rest : ∀ room,
      Scales more deeper (next (Function.invoke room)) (next' (Function.invoke (room + deeper)))) :
    Scales more deeper (invoker >>= next) (invoker >>= next') :=
  .consult fun context => rest context.stack.room

/-- A statement at the present depth goes the same way with more room. -/
theorem runStatement_scales (statement : Stmt) :
    Scales more deeper (runStatement statement) (runStatement statement) := by
  -- The statement is taken apart into its location and its effect, which are the same.
  refine invoked_scales fun room => ?_
  obtain ⟨effect, effect', same, same', related⟩ :=
    (steps_scale.statements (invoke_scales room)).1 statement
  rw [same, same']
  exact statement_scales statement.location related.2

/-- An expression at the present depth goes the same way with more room, for its value and for its
place. -/
theorem evaluate_scales (expression : Expr) :
    Scales more deeper (evaluate expression) (evaluate expression) ∧
      Scales more deeper (placeOf expression) (placeOf expression) :=
  ⟨invoked_scales fun room => ((steps_scale.expressions (invoke_scales room)).1 expression).2,
    invoked_scales fun room => ((steps_scale.expressions (invoke_scales room)).2.2 expression).2⟩

/-- The literals of a program are laid out in the same way with more room. -/
theorem loadStrings_scales : Scales more deeper loadStrings loadStrings := by
  -- One literal after the other, each on an arena that is longer on one side.
  have each (literals : List String) :
      Scales more deeper (literals.forM loadString) (literals.forM loadString) := by
    induction literals with
    | nil => exact .pure ()
    | cons literal literals ih => exact .bind (loadString_scales literal) fun _ => ih
  exact .inspect (fun _ => rfl) fun context => each context.program.strings.toList

/-- Whole programs go the same way with more room. -/
theorem runProgram_scales (entryPoint : String) :
    Scales more deeper (runProgram entryPoint) (runProgram entryPoint) := by
  -- Literals first, then the globals, then the entry point, at the depth that is left.
  refine .bind loadStrings_scales fun _ => .inspect (fun _ => rfl) fun context => ?_
  dsimp only
  cases context.program.function? entryPoint with
  | none => exact .fail _
  | some entry =>
    refine invoked_scales fun room => ?_
    have calls : ∀ function arguments buffer, EvaluationScales more deeper Value
        (Function.invoke room function arguments buffer)
        (Function.invoke (room + deeper) function arguments buffer) := invoke_scales room
    obtain ⟨-, lists⟩ := steps_scale.statements calls
    exact .bind (lists context.program.globals).2 fun _ =>
      .bind (invoke_scales room entry [] none).2 fun value => .pure _

end Programs

end Exec

end StepMachine
