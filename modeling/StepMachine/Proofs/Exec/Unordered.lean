import Mathlib.Data.List.Nodup
import StepMachine.Proofs.Context.Reordered

/-! No computation depends on the order in which a program lists what it holds: from states that
differ in that only, every step, and so every expression, statement and call, ends in the same way
and in such states again. -/

namespace StepMachine

namespace Exec

/-- Outcomes that are the same up to the order of what is held, with results that belong
together. -/
inductive Alike (belong : α → α → Prop) :
    EStateM.Result Unwind Context α → EStateM.Result Unwind Context α → Prop where
  | ok {result other : α} {last left : Context} (results : belong result other)
    (same : last.Reordered left) : Alike belong (.ok result last) (.ok other left)
  | error (reason : Unwind) {last left : Context} (same : last.Reordered left) :
    Alike belong (.error reason last) (.error reason left)

/-- Outcomes that are alike leave states that differ in the order only. -/
theorem Alike.states {belong : α → α → Prop} {one other : EStateM.Result Unwind Context α}
    (alike : Alike belong one other) : (stateOf one).Reordered (stateOf other) := by
  -- Results and failures alike carry the state that they leave.
  cases alike with
  | ok _ same => exact same
  | error _ same => exact same

/-- A computation that does not depend on the order of what is held. -/
structure Unordered (belong : α → α → Prop) (run : Exec α) : Prop where
  owns : Obeys Effect.ownership run
  alike : ∀ context other, context.Owns → context.Reordered other →
    Alike belong (run context) (run other)

namespace Unordered

/-- A result given at once is the same in any order. -/
theorem pure (result : α) : Unordered Eq (pure result) :=
  ⟨Obeys.pure result, fun _ _ _ same => .ok rfl same⟩

/-- A failure is the same in any order. -/
theorem throw (reason : Unwind) : Unordered Eq (throw reason : Exec α) :=
  ⟨Obeys.throw reason, fun _ _ _ same => .error reason same⟩

/-- A fault is the same in any order. -/
theorem fail (cause : RuntimeError) : Unordered Eq (fail cause : Exec α) := throw (.fault cause)

/-- A result of pure computing does not know the state. -/
theorem lift (result : Except RuntimeError α) : Unordered Eq (liftM result : Exec α) := by
  -- It is a result or a failure from the start.
  cases result with
  | ok result => exact pure result
  | error cause => exact fail cause

/-- A look at memory that has been taken does not know the state any more. -/
theorem liftMemory (result : Except MemoryError α) : Unordered Eq (liftM result : Exec α) := by
  -- As for other results, with the cause handed on as the machine's.
  cases result with
  | ok result => exact pure result
  | error cause => exact fail (.memory cause)

/-- A sequence does not depend on the order if neither part does, where the second part goes on with
results that belong together. -/
theorem bind_of {belong : α → α → Prop} {together : β → β → Prop} {run : Exec α}
    {next : α → Exec β} (first : Unordered belong run)
    (owns : ∀ result, Obeys Effect.ownership (next result))
    (rest : ∀ result other, belong result other → ∀ context left, context.Owns →
      context.Reordered left → Alike together (next result context) (next other left)) :
    Unordered together (run >>= next) := by
  refine ⟨Obeys.bind first.owns owns, fun context other held same => ?_⟩
  -- The first part ends alike, and its last state still owns what it holds, as the second asks.
  have kept := first.owns.keeps held
  have alike := first.alike context other held same
  unfold after at kept
  rw [bind_run, bind_run]
  generalize run context = one, run other = two at alike kept
  cases alike with
  | error reason same => exact .error reason same
  | ok results same => exact rest _ _ results _ _ kept same

variable {belong : β → β → Prop}

/-- A sequence does not depend on the order if no part does. -/
theorem bind {run : Exec α} {next : α → Exec β} (first : Unordered Eq run)
    (rest : ∀ result, Unordered belong (next result)) : Unordered belong (run >>= next) := by
  -- Results that belong together are the same one here, so the rest is run with one of them.
  refine first.bind_of (fun result => (rest result).owns) ?_
  rintro result _ rfl
  exact (rest result).alike

/-- What is looked up in the state may decide what happens next, if the order does not matter to
it. -/
theorem consult {body : Context → Exec β}
    (respects : ∀ context other, context.Owns → context.Reordered other →
      body other = body context)
    (rest : ∀ context, Unordered belong (body context)) : Unordered belong (get >>= body) := by
  refine ⟨Obeys.bind Obeys.get fun context => (rest context).owns,
    fun context other owns same => ?_⟩
  rw [bind_run, bind_run, get_run, get_run]
  simp only
  -- The same continuation runs on both, in states that are still the same up to the order.
  rw [respects context other owns same]
  exact (rest context).alike context other owns same

/-- A change of the state that leaves it the same up to the order. -/
theorem modify {change : Context → Context} (owns : Obeys Effect.ownership (modify change))
    (respects : ∀ context other, context.Reordered other →
      (change context).Reordered (change other)) :
    Unordered Eq (modify change) :=
  -- The heap is one and the same on both sides, so the edit has one outcome.
  ⟨owns, fun context other _ same => .ok rfl (respects context other same)⟩

/-- The heap is the same, and so is what is done to it. -/
theorem edit {change : Edit RuntimeError α} (owns : Obeys Effect.ownership (edit change)) :
    Unordered Eq (Exec.edit change) := by
  refine ⟨owns, fun context other _ same => ?_⟩
  rw [edit_run, edit_run, same.heap]
  cases change context.heap with
  | ok result heap => exact .ok rfl { same with heap := rfl }
  | error cause heap => exact .error _ { same with heap := rfl }

/-- What is read from the heap does not depend on the order of what is held. -/
theorem readHeap (look : Heap → Except RuntimeError α) : Unordered Eq (do look (← get).heap) :=
  consult (fun _ _ _ same => by rw [same.heap]) fun context => lift (look context.heap)

/-- What comes last does not depend on the order either. -/
theorem lastly' {body : Exec α} {last : Exec β} (first : Unordered Eq body)
    (rest : Unordered belong last) :
    Unordered (fun one two => one.1 = two.1 ∧ belong one.2 two.2)
      (tryFinally' body fun _ => last) := by
  refine ⟨Obeys.tryFinally' first.owns rest.owns, fun context other owns same => ?_⟩
  have kept := first.owns.keeps owns
  have alike := first.alike context other owns same
  unfold after at kept
  rw [tryFinally'_run, tryFinally'_run]
  generalize body context = one, body other = two at alike kept
  -- However the body ends, what comes last starts in states that belong together.
  cases alike with
  | @ok result _ middle left results same =>
    have closing := rest.alike _ _ kept same
    simp only [stateOf] at closing ⊢
    generalize last middle = three, last left = four at closing
    cases closing with
    | ok closed same => exact .ok ⟨results, closed⟩ same
    | error reason same => exact .error reason same
  | @error reason middle left same =>
    have closing := rest.alike _ _ kept same
    simp only [stateOf] at closing ⊢
    generalize last middle = three, last left = four at closing
    cases closing with
    | ok closed same => exact .error reason same
    | error reason same => exact .error reason same

/-- What stands under `finally` does not depend on the order if no part does. -/
theorem lastly {body : Exec α} {last : Exec β} (first : Unordered Eq body)
    (rest : Unordered belong last) : Unordered Eq (tryFinally body last) := by
  -- The result of what comes last is dropped.
  rw [tryFinally, map_eq_pure_bind]
  exact (first.lastly' rest).bind_of (fun _ => Obeys.pure _)
    fun _ _ results _ _ _ same => .ok results.1 same

end Unordered

section Steps

/-- Storing a value is a change of the heap. -/
theorem store_unordered (address : Address) (type : CType) (value : Value) :
    Unordered Eq (edit (Heap.store address type value)) :=
  .edit (steps_own.store address type value)

/-- A temporary object is made on the same heap and put behind the same others. -/
theorem temporary_unordered (type : CType) : Unordered Eq (temporary type) := by
  -- The heap and the list of temporaries are the same on both sides.
  refine ⟨temporary_owns type, fun context other _ same => ?_⟩
  rw [temporary_run, temporary_run, same.heap]
  cases Variable.allocate type context.heap with
  | ok object heap =>
    exact .ok rfl { same with heap := rfl, temporaries := by simp only [same.temporaries] }
  | error cause heap => exact .error _ { same with heap := rfl }

/-- A return buffer is made as the temporary object for it is. -/
theorem returnBuffer_unordered (type : CType) : Unordered Eq (returnBuffer type) := by
  unfold returnBuffer
  -- A structure is given room; any other result needs none.
  split
  · exact (temporary_unordered type).bind fun object =>
      (Unordered.liftMemory _).bind fun block => .pure (some block)
  · exact .pure none

/-- Printing depends on the location only, which is the same in any order. -/
theorem print_unordered (text : String) : Unordered Eq (print text) := by
  -- The location is that of the innermost statement under way.
  refine .modify (steps_own.print text) fun context other same => ?_
  have location : other.location = context.location := by
    unfold Context.location
    rw [same.active]
  exact { same with terminal := by rw [location, same.terminal] }

/-- A request is granted in the same way, and its block is added to what was given out. -/
theorem malloc_unordered (size : Nat) : Unordered Eq (malloc size) := by
  refine ⟨malloc_owns size, fun context other _ same => ?_⟩
  simp only [malloc, bind_run, lift_edit, edit_run, liftMemory, same.heap]
  -- The heap is the same, and so is the block that it hands out.
  cases Heap.allocate size context.heap with
  | ok block heap => exact .ok rfl { same with heap := rfl, dynamic := same.dynamic.cons block }
  | error cause heap => exact .error _ { same with heap := rfl }

/-- The same for a request that may be answered with null. -/
theorem mallocOrNull_unordered (size : Nat) : Unordered Eq (Builtin.mallocOrNull size) := by
  -- Granted, out of room, or refused for another cause: the heap decides which.
  refine ⟨mallocOrNull_owns size, fun context other _ same => ?_⟩
  rw [mallocOrNull_run, mallocOrNull_run, same.heap]
  cases Heap.allocate size context.heap with
  | ok block heap => exact .ok rfl { same with heap := rfl, dynamic := same.dynamic.cons block }
  | error cause heap =>
    cases cause with
    | outOfMemory _ _ =>
      -- Want of room is answered with null, and only counted.
      exact .ok rfl { same with heap := rfl, refused := by rw [same.refused] }
    | _ => exact .error _ { same with heap := rfl }

/-- Of blocks with different addresses, that at an address is found. -/
theorem find?_address_eq_some_iff {blocks : List Block}
    (once : (blocks.map (·.address)).Nodup) {address : Address} {block : Block} :
    blocks.find? (·.address = address) = some block ↔ block ∈ blocks ∧ block.address = address := by
  constructor
  -- What is found belongs to the list and has the address; the other way is by uniqueness.
  · intro found
    exact ⟨List.mem_of_find?_eq_some found, by simpa using List.find?_some found⟩
  · rintro ⟨member, rfl⟩
    cases found : blocks.find? (·.address = block.address) with
    -- A block at that address is in the list, so something is found.
    | none =>
      rw [List.find?_eq_none] at found
      exact absurd (decide_eq_true rfl) (found block member)
    | some other =>
      -- What is found first has the same address, and so it is the same block.
      have here : other.address = block.address := by simpa using List.find?_some found
      rw [List.inj_on_of_nodup_map once (List.mem_of_find?_eq_some found) member here]

/-- It is found in any order of them. -/
theorem find?_address_perm {one other : List Block} (once : (one.map (·.address)).Nodup)
    (same : one.Perm other) (address : Address) :
    other.find? (·.address = address) = one.find? (·.address = address) := by
  -- Both lists hold the same blocks, so an equivalence with membership settles it.
  have again := (same.map (·.address)).nodup_iff.mp once
  apply Option.ext
  -- Both lists have one block at most for each address, and they have the same blocks.
  intro block
  rw [find?_address_eq_some_iff once, find?_address_eq_some_iff again, same.mem_iff]

/-- Of the blocks given out the same one is given back in any order. -/
theorem free_unordered (address : Address) : Unordered Eq (free address) := by
  refine ⟨free_owns address, fun context other owns same => ?_⟩
  -- What was given lies at the end of what is held, no two of which have one address.
  have once : (context.dynamic.map (·.address)).Nodup :=
    List.pairwise_map.mpr (owns.holds.addresses.sublist (List.sublist_append_right ..))
  rw [free_run, free_run, find?_address_perm once same.dynamic]
  -- The same block is found on both sides, or none.
  cases context.dynamic.find? (·.address = address) with
  | none => exact .error _ same
  | some block =>
    exact .ok rfl { same with
      heap := by rw [same.heap]
      dynamic := same.dynamic.filter _ }

/-- A result is handed over through the buffer of the current activation, which is the same. -/
theorem handOver_unordered (value : Value) : Unordered Eq (handOver value) := by
  refine .consult (fun context other _ same => ?_) fun context => ?_
  · -- The innermost activations have the same buffer.
    have buffer :
        other.stack.current?.bind (·.buffer) = context.stack.current?.bind (·.buffer) := by
      unfold CallStack.current?
      rcases same.stack.cases with
        ⟨none, empty⟩ | ⟨frame, callers, after, others, one, two, head, -⟩
      · rw [none, empty]
      · simp only [one, two, Option.bind_some, head.buffer]
    simp only [buffer]
  · -- With a buffer the copy is an edit of the heap, which leaves every block where it is.
    split
    · refine Unordered.bind (.edit (owns_of_rewriting (edit_rewrites fun heap => ?_))) fun _ =>
        .pure _
      rw [Edit.after_liftMemory]
      exact Block.fillFrom_rewrites ..
    · exact .pure _

/-- A literal is laid out on the same heap and put behind the same others. -/
theorem loadString_unordered (literal : String) : Unordered Eq (loadString literal) := by
  -- The table of literals is not one of the parts whose order may differ.
  refine ⟨loadString_owns literal, fun context other _ same => ?_⟩
  rw [loadString_run, loadString_run, same.heap]
  cases Heap.allocate ((utf8Bytes literal).length + 1) context.heap with
  | error cause heap => exact .error _ { same with heap := rfl }
  | ok block heap =>
    simp only
    -- The text is written to the same block, or is refused there on both sides.
    cases block.writeText (utf8Bytes literal) heap with
    | ok _ last =>
      exact .ok rfl { same with heap := rfl, strings := by simp only [same.strings] }
    | error cause last => exact .error _ { same with heap := rfl }

/-- A name is bound anew in the same way, and what it stood for is freed. -/
theorem declare_unordered (name : String) (type : CType) (init : Option Value) :
    Unordered Eq (declare name type init) := by
  -- Only what the name stood for in the current scope is looked up there.
  refine ⟨declare_owns name type init, fun context other owns same => ?_⟩
  rw [declare_run, declare_run, same.heap]
  cases Variable.create type init context.heap with
  | error cause heap => exact .error _ { same with heap := rfl }
  | ok object heap =>
    have scope := same.currentScope
    have bound := same.setCurrentScope (scope.bind name object)
    -- In the current scope each name stands once, so that in any order the same block is freed.
    simp only [scope.find? owns.currentScope]
    exact .ok rfl { bound with heap := rfl }

/-- A result is recorded in the innermost activation, which is there on both sides or on neither. -/
theorem markReturned_unordered (value : Value) : Unordered Eq (markReturned value) := by
  refine ⟨markReturned_owns value, fun context other _ same => ?_⟩
  rw [markReturned_run, markReturned_run]
  -- The two stacks are empty together, or have innermost activations that belong together.
  rcases same.stack.cases with ⟨none, empty⟩ | ⟨frame, callers, after, others, one, two, head, rest⟩
  · rw [none, empty]
    exact .error _ same
  · -- Whether there is a result already is the same on both sides.
    have returned : after.hasReturned = frame.hasReturned := by
      rw [Frame.hasReturned, Frame.hasReturned, head.returned]
    simp only [one, two, returned]
    split
    · exact .error _ same
    · exact .ok rfl { same with
        stack := ⟨.cons { head with returned := rfl } rest, same.stack.room⟩ }

/-- A scope is opened in the innermost activation, with nothing in it that has an order. -/
theorem pushScope_unordered : Unordered Eq pushScope := by
  refine ⟨pushScope_owns, fun context other _ same => ?_⟩
  rw [pushScope_run, pushScope_run]
  -- The two stacks are empty together, or have innermost activations that belong together.
  rcases same.stack.cases with ⟨none, empty⟩ | ⟨frame, callers, after, others, one, two, head, rest⟩
  · rw [none, empty]
    exact .error _ same
  · rw [one, two]
    have opened : frame.pushScope.Reordered after.pushScope :=
      { head with nested := .cons (.refl _) head.nested }
    exact .ok rfl { same with stack := ⟨.cons opened rest, same.stack.room⟩ }

/-- The bindings of the block are freed in any order. -/
theorem popScope_unordered : Unordered Eq popScope := by
  refine ⟨popScope_owns, fun context other _ same => ?_⟩
  rw [popScope_run, popScope_run]
  -- The two stacks are empty together, or have innermost activations that belong together.
  rcases same.stack.cases with ⟨none, empty⟩ | ⟨frame, callers, after, others, one, two, head, rest⟩
  · rw [none, empty]
    exact .error _ same
  · -- The two activations have as many nested scopes, pairwise the same up to the order.
    have nested := head.nested
    simp only [one, two, same.heap]
    cases opened : frame.nested with
    | nil =>
      rw [opened, List.forall₂_nil_left_iff] at nested
      rw [nested]
      exact .error _ same
    | cons scope outer =>
      rw [opened, List.forall₂_cons_left_iff] at nested
      obtain ⟨changed, outers, first, inner, opened⟩ := nested
      rw [opened]
      -- The innermost scopes hold the same blocks, which leave the same heap in any order.
      exact .ok rfl { same with
        heap := (context.heap.releaseAll_perm first.blocks).symm
        stack := ⟨.cons { head with nested := inner } rest, same.stack.room⟩ }

/-- An activation is opened with nothing in it that has an order. -/
theorem pushFrame_unordered (function : String) (buffer : Option Block) :
    Unordered Eq (pushFrame function buffer) := by
  refine ⟨pushFrame_owns function buffer, fun context other _ same => ?_⟩
  -- Only the room that is left decides, and it is the same.
  rw [pushFrame_run, pushFrame_run, same.stack.room, same.stack.limit]
  cases context.stack.room with
  | zero => exact .error _ same
  | succ room =>
    have opened : Frame.Reordered { function, buffer } { function, buffer } :=
      ⟨rfl, .refl _, .nil, rfl, rfl⟩
    exact .ok rfl { same with stack := ⟨.cons opened same.stack.frames, rfl⟩ }

/-- The bindings of the activation are freed in any order, and the activation that is left is the
same up to it. -/
theorem popFrame_unordered : Unordered Frame.Reordered popFrame := by
  refine ⟨popFrame_owns, fun context other _ same => ?_⟩
  rw [popFrame_run, popFrame_run]
  rcases same.stack.cases with ⟨none, empty⟩ | ⟨frame, callers, after, others, one, two, head, rest⟩
  · rw [none, empty]
    exact .error _ same
  · -- Both activations hold the same blocks, which leave the same heap in any order.
    simp only [one, two, same.heap]
    exact .ok head { same with
      heap := (context.heap.releaseAll_perm head.blocks).symm
      stack := ⟨rest, by rw [same.stack.room]⟩ }

/-- Temporary objects are released in their own order, which is the same. -/
theorem releaseTemporaries_unordered (mark : Nat) : Unordered Eq (releaseTemporaries mark) := by
  refine ⟨releaseTemporaries_owns mark, fun context other _ same => ?_⟩
  -- The heap and the list of temporaries are the same on both sides.
  rw [releaseTemporaries_run, releaseTemporaries_run]
  exact .ok rfl { same with
    heap := by simp only [Context.dropTemporaries, same.heap, same.temporaries]
    temporaries := by simp only [Context.dropTemporaries, same.temporaries] }

/-- A statement is reached, and pauses or goes on, in the same way. -/
theorem enter_unordered (location : Location) : Unordered Eq (enter location) := by
  refine ⟨enter_owns location, fun context other _ same => ?_⟩
  -- Reaching it only moves the cursor.
  have reached : (context.reached location).Reordered (other.reached location) :=
    { same with cursor := rfl }
  -- Either there is no grant left and the run pauses with what a host sees, or one is spent.
  cases allowed : context.grants with
  | zero =>
    rw [enter_without allowed, enter_without (same.grants.trans allowed), reached.view]
    exact .error _ reached
  | succ grants =>
    rw [enter_with allowed, enter_with (same.grants.trans allowed)]
    exact .ok rfl { reached with
      grants := rfl
      journal := same.journal.add location reached.moment }

/-- Releasing the temporary objects at the end adds no dependence on the order. -/
theorem alone_unordered {run : Exec α} (first : Unordered Eq run) : Unordered Eq (alone run) := by
  -- The mark is the number of temporaries, which are in the same order on both sides.
  have mark : Unordered Eq temporaryMark :=
    .consult (fun _ _ _ same => by rw [same.temporaries]) fun context => .pure _
  exact mark.bind fun mark => first.lastly (releaseTemporaries_unordered mark)

/-- A statement depends on the order no more than its effect does. -/
theorem statement_unordered (location : Location) {effect : Exec Unit}
    (first : Unordered Eq effect) : Unordered Eq (statement location effect) := by
  -- The statements under way are a list that both sides share.
  have active (change : List Location → List Location) : Unordered Eq
      (modify fun context => { context with active := change context.active } : Exec Unit) := by
    refine .modify (Obeys.modify fun context => steps_own.activate context _) ?_
    intro context other same
    exact { same with active := by rw [same.active] }
  -- A statement behind a return does nothing, on both sides or on neither.
  refine .consult (fun _ _ _ same => by simp only [same.hasReturned]) fun context => ?_
  split
  · exact .pure ()
  · exact (active _).bind fun _ =>
      (alone_unordered ((enter_unordered location).bind fun _ => first)).bind fun _ => active _

/-- A loop depends on the order no more than its test and its body do. -/
theorem loop_unordered {test : Exec Bool} {body : Exec Unit} (tests : Unordered Eq test)
    (first : Unordered Eq body) : Unordered Eq (loop test body) := by
  -- The induction is on the turns that the grants allow.
  have rounds (turns : Nat) : Unordered Eq (repeatWhile test body turns) := by
    induction turns with
    -- Without turns left the run pauses, with what a host sees.
    | zero => exact .consult (fun _ _ _ same => by rw [same.view]) fun context => .throw _
    | succ turns ih =>
      refine .consult (fun _ _ _ same => by simp only [same.hasReturned]) fun context => ?_
      split
      · exact .pure ()
      · refine tests.bind fun proceed => ?_
        cases proceed with
        | true => exact first.bind fun _ => ih
        | false => exact .pure ()
  -- The number of turns is taken from the grants, which are the same.
  exact .consult (fun _ _ _ same => by rw [same.grants]) fun context => rounds _

/-- A block depends on the order no more than its body does. -/
theorem inBlock_unordered {body : Exec Unit} (first : Unordered Eq body) :
    Unordered Eq (inBlock body) :=
  pushScope_unordered.bind fun _ => first.lastly popScope_unordered

/-- An activation depends on the order no more than its body, and leaves itself up to the order. -/
theorem activation_unordered (function : String) (buffer : Option Block) {body : Exec Unit}
    (first : Unordered Eq body) : Unordered Frame.Reordered (activation function buffer body) := by
  -- The activation is closed however its body ends, and it is its result.
  refine (pushFrame_unordered function buffer).bind fun _ => ?_
  exact (first.lastly' popFrame_unordered).bind_of (fun _ => Obeys.pure _)
    fun _ _ results _ _ _ same => .ok results.2 same

end Steps

section Programs

/-- A computation that does not depend on the order of what is held, related to itself. -/
abbrev UnorderedBoth (α : Type) (run run' : Exec α) : Prop := run = run' ∧ Unordered Eq run

/-- No step of evaluation and execution depends on the order of what is held. -/
theorem steps_unordered : ParallelStatements UnorderedBoth UnorderedBoth where
  pure result := ⟨rfl, .pure result⟩
  bind first rest := by
    obtain ⟨rfl, first⟩ := first
    exact ⟨congrArg _ (funext fun result => (rest result).1),
      first.bind fun result => (rest result).2⟩
  lift result := ⟨rfl, .lift result⟩
  stringAddress index := by
    refine ⟨rfl, .consult (fun _ _ _ same => by simp only [same.strings]) fun context => ?_⟩
    split
    · exact .pure _
    · exact .fail _
  lookup name := by
    refine ⟨rfl, .consult (fun _ _ owns same => by simp only [same.find? owns]) fun context => ?_⟩
    split
    · exact .pure _
    · exact .fail _
  resolve name := by
    refine ⟨rfl, .consult (fun _ _ _ same => by simp only [same.program]) fun context => ?_⟩
    split
    · exact .pure _
    · exact .pure _
    · exact .fail _
  loadPlace place := ⟨rfl, .readHeap (·.load place.address place.type)⟩
  textAt pointer := by
    refine ⟨rfl, .consult (fun _ _ _ same => by simp only [same.heap]) fun context => ?_⟩
    exact (Unordered.lift _).bind fun address => .liftMemory _
  expand format arguments := ⟨rfl, .readHeap (Format.expand · format arguments)⟩
  store address type value := ⟨rfl, store_unordered address type value⟩
  returnBuffer type := ⟨rfl, returnBuffer_unordered type⟩
  print text := ⟨rfl, print_unordered text⟩
  mallocOrNull size := ⟨rfl, mallocOrNull_unordered size⟩
  free address := ⟨rfl, free_unordered address⟩
  weaken related := related
  seq first rest := by
    obtain ⟨rfl, first⟩ := first
    exact ⟨congrArg _ (funext fun result => (rest result).1),
      first.bind fun result => (rest result).2⟩
  alone related := ⟨congrArg _ related.1, alone_unordered related.2⟩
  handOver value := ⟨rfl, handOver_unordered value⟩
  declare name type init := ⟨rfl, declare_unordered name type init⟩
  markReturned value := ⟨rfl, markReturned_unordered value⟩
  inBlock related := ⟨congrArg _ related.1, inBlock_unordered related.2⟩
  statement location _ _ related :=
    ⟨congrArg _ related.1, statement_unordered location related.2⟩
  loop location _ _ _ _ tests related :=
    ⟨by rw [tests.1, related.1], loop_unordered tests.2 (statement_unordered location related.2)⟩

/-- Calls do not depend on the order, however many more of them fit on the stack. -/
theorem invoke_unordered (room : Nat) (function : Function) (arguments : List Value)
    (buffer : Option Block) : Unordered Eq (Function.invoke room function arguments buffer) := by
  have counted := (steps_unordered.checkCount function arguments).2
  -- Calls inside the body have one activation less to open.
  induction room generalizing function arguments buffer with
  | zero =>
    rw [Function.invoke]
    exact counted.bind fun _ =>
      .consult (fun _ _ _ same => by rw [same.stack.limit]) fun context => .fail _
  | succ room ih =>
    obtain ⟨-, bodies⟩ := steps_unordered.statements fun function arguments buffer =>
      ⟨rfl, ih function arguments buffer (steps_unordered.checkCount function arguments).2⟩
    have body := (steps_unordered.bindAll function.parameters arguments).2.bind
      fun _ => (bodies function.body).2
    have yielded (frame : Frame) := (steps_unordered.yielded frame function.result).2
    rw [Function.invoke]
    refine counted.bind fun _ => (activation_unordered function.name buffer body).bind_of
      (fun frame => (yielded frame).owns) fun frame other same => ?_
    -- Of the activation only its result is left, which is the same.
    have result : other.result = frame.result := by rw [Frame.result, Frame.result, same.returned]
    rw [result]
    exact (yielded frame).alike

/-- Laying out the literals of a program does not depend on the order of what is held. -/
theorem loadStrings_unordered : Unordered Eq loadStrings := by
  -- One literal after the other, each on a heap that is the same.
  have each (literals : List String) : Unordered Eq (literals.forM loadString) := by
    induction literals with
    | nil => exact .pure ()
    | cons literal literals ih => exact (loadString_unordered literal).bind fun _ => ih
  exact .consult (fun _ _ _ same => by simp only [same.program]) fun context => each _

/-- The depth that is left decides how calls are run. -/
theorem invoked_unordered {next : Invoke → Exec α}
    (rest : ∀ room, Unordered Eq (next (Function.invoke room))) :
    Unordered Eq (invoker >>= next) :=
  .consult (fun _ _ _ same => by rw [same.stack.room]) fun context => rest context.stack.room

end Programs

end Exec

/-- No operation on a program depends on the order of what is held. -/
theorem Operation.perform_unordered (operation : Operation) :
    Exec.Unordered Eq operation.perform := by
  have steps := Exec.steps_unordered
  have calls (room : Nat) (function : Function) (arguments : List Value) (buffer : Option Block) :
      Exec.UnorderedBoth Value (Function.invoke room function arguments buffer)
        (Function.invoke room function arguments buffer) :=
    ⟨rfl, Exec.invoke_unordered room function arguments buffer⟩
  -- Each operation is one of the steps, or is made of them.
  cases operation with
  | loadStrings => exact Exec.loadStrings_unordered
  | run statement =>
    refine Exec.invoked_unordered fun room => ?_
    obtain ⟨effect, -, same, -, -, unordered⟩ := (steps.statements (calls room)).1 statement
    rw [same]
    exact Exec.statement_unordered statement.location unordered
  | evaluate expression =>
    exact (steps.discard ⟨rfl, Exec.invoked_unordered fun room =>
      ((steps.expressions (calls room)).1 expression).2⟩).2
  | place expression =>
    exact (steps.discard ⟨rfl, Exec.invoked_unordered fun room =>
      ((steps.expressions (calls room)).2.2 expression).2⟩).2
  | pushFrame function buffer => exact Exec.pushFrame_unordered function buffer
  | popFrame =>
    rw [Operation.perform, discard_eq]
    exact Exec.popFrame_unordered.bind_of (fun _ => Exec.Obeys.pure _)
      fun _ _ _ _ _ _ same => .ok rfl same
  | pushScope => exact Exec.pushScope_unordered
  | popScope => exact Exec.popScope_unordered
  | declare name type init =>
    exact (steps.discard ⟨rfl, Exec.declare_unordered name type init⟩).2
  | temporary type => exact (steps.discard ⟨rfl, Exec.temporary_unordered type⟩).2
  | releaseTemporaries mark => exact Exec.releaseTemporaries_unordered mark
  | markReturned value => exact Exec.markReturned_unordered value
  | malloc size => exact (steps.discard ⟨rfl, Exec.malloc_unordered size⟩).2
  | free address => exact Exec.free_unordered address
  | call callee arguments buffer =>
    refine Exec.invoked_unordered fun room => ?_
    cases callee with
    | function function => exact (steps.discard (calls room function arguments buffer)).2
    | builtin builtin => exact (steps.discard (steps.builtin builtin arguments)).2
  | write address bytes => exact .edit (Operation.perform_owns (.write address bytes))
  | print text => exact Exec.print_unordered text

/-- Operations one after the other leave states that differ in the order only. -/
theorem Operation.performAll_unordered (operations : List Operation) {context other : Context}
    (owns : context.Owns) (same : context.Reordered other) :
    (performAll operations context).Reordered (performAll operations other) := by
  -- The induction is on the operations; each starts from states that differ in the order only.
  unfold performAll
  induction operations generalizing context other with
  | nil => exact same
  | cons operation rest ih =>
    -- Whether the operation succeeds or fails, the rest goes on from states that belong together.
    have kept := (perform_owns operation).keeps owns
    have alike := operation.perform_unordered.alike context other owns same
    exact ih kept alike.states

end StepMachine
