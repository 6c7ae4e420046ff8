import StepMachine.Proofs.Eval.Closure

/-! Stack discipline: what evaluation and execution leave as it was, on every path. -/

namespace StepMachine

namespace Context

/-- As many activations fit on the stack, now and at every recorded moment. -/
structure Within (limit : Nat) (context : Context) : Prop where
  now : context.stack.limit = limit
  recorded : ∀ moment ∈ context.journal.moments, moment.stack.limit = limit

/-- No more activations than the limit are there, now or at any recorded moment. -/
theorem Within.depth_le {limit : Nat} {context : Context} (fits : context.Within limit) :
    context.stack.depth ≤ limit ∧
      ∀ moment ∈ context.journal.moments, moment.stack.depth ≤ limit := by
  -- The depth is one part of the limit, and the room that is left is the other.
  have below (stack : CallStack) : stack.depth ≤ stack.limit := Nat.le_add_right ..
  refine ⟨fits.now ▸ below context.stack, fun moment recorded => ?_⟩
  exact fits.recorded moment recorded ▸ below moment.stack

/-- What fits still does if neither the limit nor the record changes. -/
theorem Within.of_limit {limit : Nat} {before after : Context} (fits : before.Within limit)
    (same : after.stack.limit = before.stack.limit) (journal : after.journal = before.journal) :
    after.Within limit where
  now := same.trans fits.now
  recorded := by
    rw [journal]
    exact fits.recorded

/-- What no expression changes: the stack, the global names, and the temporary objects that were
there before. -/
structure Undisturbed (before after : Context) : Prop where
  stack : after.stack = before.stack
  globals : after.globals = before.globals
  temporaries : before.temporaries.toList <+: after.temporaries.toList
  within : ∀ limit, before.Within limit → after.Within limit

namespace Undisturbed

/-- A change that records nothing and leaves stack, names and temporary objects alone. -/
theorem of_eq {before after : Context} (stack : after.stack = before.stack)
    (globals : after.globals = before.globals)
    (temporaries : before.temporaries.toList <+: after.temporaries.toList)
    (journal : after.journal = before.journal) : before.Undisturbed after where
  stack := stack
  globals := globals
  temporaries := temporaries
  within limit fits := fits.of_limit (by rw [stack]) journal

/-- Nothing that happens disturbs nothing. -/
theorem refl (context : Context) : context.Undisturbed context :=
  of_eq rfl rfl (List.prefix_refl _) rfl

/-- Nothing is disturbed by parts that disturb nothing. -/
theorem trans {first second third : Context} (one : first.Undisturbed second)
    (two : second.Undisturbed third) : first.Undisturbed third where
  stack := two.stack.trans one.stack
  globals := two.globals.trans one.globals
  temporaries := one.temporaries.trans two.temporaries
  within limit fits := two.within limit (one.within limit fits)

end Undisturbed

end Context

/-- What an expression may do: it disturbs nothing, and the statements under way are the same
again unless it fails. -/
def Effect.evaluation : Effect where
  yields before after := before.Undisturbed after ∧ after.active = before.active
  unwinds before after := before.Undisturbed after ∧ before.active <:+ after.active
  refl context := ⟨.refl context, rfl⟩
  trans one two := ⟨one.1.trans two.1, two.2.trans one.2⟩
  unwinds_trans one two := ⟨one.1.trans two.1, one.2.trans two.2⟩
  unwinds_of_yields one := ⟨one.1, by simp only [one.2, List.suffix_refl]⟩

namespace Frame

/-- What a statement leaves of the activation it belongs to: all but the innermost scope and what
was returned. -/
structure Confined (before after : Frame) : Prop where
  function : after.function = before.function
  buffer : after.buffer = before.buffer
  outer : after.scopes.tail = before.scopes.tail

namespace Confined

/-- An activation that is left alone is confined. -/
theorem refl (frame : Frame) : frame.Confined frame := ⟨rfl, rfl, rfl⟩

/-- What stays between first and second, and between second and third, stays. -/
theorem trans {first second third : Frame} (one : first.Confined second)
    (two : second.Confined third) : first.Confined third :=
  ⟨two.function.trans one.function, two.buffer.trans one.buffer, two.outer.trans one.outer⟩

/-- The number of open scopes is the same. -/
theorem depth {before after : Frame} (confined : before.Confined after) :
    after.scopes.length = before.scopes.length := by
  -- The innermost scope counts on both sides, and the outer ones are the same.
  have outer := congrArg List.length confined.outer
  simp only [List.length_tail, scopes, List.length_append, List.length_singleton] at outer ⊢
  omega

/-- After a body has run in a block, that block is still there to be closed, and closing it gives
back the scopes that were open before. -/
theorem unopened {before after : Frame} (confined : before.pushScope.Confined after) :
    ∃ scope, after.nested = scope :: before.nested ∧ after.root = before.root := by
  -- Behind the block that was opened lie the scopes that were there before.
  have outer := confined.outer
  simp only [scopes, pushScope, List.cons_append, List.tail_cons] at outer
  cases nested : after.nested with
  -- An activation without an open block could not have kept those.
  | nil => simp [nested] at outer
  | cons scope rest =>
    -- The body itself is the last scope on both sides, so the open blocks agree as well.
    simp only [nested, List.cons_append, List.tail_cons] at outer
    obtain ⟨same, root⟩ := List.append_inj' outer rfl
    exact ⟨scope, by rw [same], by simpa using root⟩

end Confined

end Frame

/-- A statement is confined to the current activation; its callers stay as they are. -/
inductive CallersKept : List Frame → List Frame → Prop where
  | outside : CallersKept [] []
  | inside (confined : Frame.Confined before after) (callers : List Frame) :
    CallersKept (before :: callers) (after :: callers)

namespace CallersKept

/-- Activations that are left alone are kept. -/
theorem refl (frames : List Frame) : CallersKept frames frames := by
  cases frames with
  | nil => exact outside
  | cons frame callers => exact inside (.refl frame) callers

/-- Callers that are kept twice are kept, and the current activation is confined to its scope
twice. -/
theorem trans {first second third : List Frame} (one : CallersKept first second)
    (two : CallersKept second third) : CallersKept first third := by
  cases one with
  | outside => exact two
  | inside confined callers =>
    cases two with
    | inside further => exact inside (confined.trans further) callers

/-- The number of activations is the same. -/
theorem length {before after : List Frame} (kept : CallersKept before after) :
    after.length = before.length := by
  cases kept <;> rfl

/-- Each activation has as many open scopes as before. -/
theorem depths {before after : List Frame} (kept : CallersKept before after) :
    after.map (·.scopes.length) = before.map (·.scopes.length) := by
  cases kept with
  | outside => rfl
  | inside confined callers => simp [confined.depth]

/-- The activations below the current one are the same. -/
theorem callers {before after : List Frame} (kept : CallersKept before after) :
    after.tail = before.tail := by
  cases kept <;> rfl

end CallersKept

namespace Context

/-- What no statement changes: the callers, the outer scopes of the current function and, inside a
function, the global names. -/
structure Confined (before after : Context) : Prop where
  room : after.stack.room = before.stack.room
  frames : CallersKept before.stack.frames after.stack.frames
  globals : before.stack.frames ≠ [] → after.globals = before.globals
  temporaries : before.temporaries.toList <+: after.temporaries.toList
  within : ∀ limit, before.Within limit → after.Within limit

namespace Confined

/-- Nothing that happens is confined. -/
theorem refl (context : Context) : context.Confined context where
  room := rfl
  frames := .refl _
  globals _ := rfl
  temporaries := List.prefix_refl _
  within _ fits := fits

/-- Parts that are confined one after the other are confined. -/
theorem trans {first second third : Context} (one : first.Confined second)
    (two : second.Confined third) : first.Confined third where
  room := two.room.trans one.room
  frames := one.frames.trans two.frames
  globals active := by
    -- The second part runs inside a function just if the first one did.
    have still : second.stack.frames ≠ [] := by
      intro none
      have length := one.frames.length
      rw [none] at length
      exact active (List.length_eq_zero_iff.mp length.symm)
    exact (two.globals still).trans (one.globals active)
  temporaries := one.temporaries.trans two.temporaries
  within limit fits := two.within limit (one.within limit fits)

/-- An expression keeps all that a statement keeps. -/
theorem of_undisturbed {before after : Context} (same : before.Undisturbed after) :
    before.Confined after where
  -- The whole stack is the same, so each part of it is.
  room := by rw [same.stack]
  frames := by
    rw [same.stack]
    exact .refl _
  globals _ := same.globals
  temporaries := same.temporaries
  within := same.within

/-- A change within the current activation that records nothing. -/
theorem of_frame {context : Context} {frame changed : Frame} {callers : List Frame}
    (frames : context.stack.frames = frame :: callers) (confined : frame.Confined changed)
    (heap : Heap) :
    context.Confined { context with
      stack := { context.stack with frames := changed :: callers }, heap } where
  room := rfl
  frames := by
    rw [frames]
    exact .inside confined callers
  globals _ := rfl
  temporaries := List.prefix_refl _
  within limit fits := fits.of_limit (by simp [CallStack.limit, CallStack.depth, frames]) rfl

end Confined

end Context

/-- What a statement may do: it is confined, and the statements under way are the same again unless
it fails. -/
def Effect.execution : Effect where
  yields before after := before.Confined after ∧ after.active = before.active
  unwinds before after := before.Confined after ∧ before.active <:+ after.active
  refl context := ⟨.refl context, rfl⟩
  trans one two := ⟨one.1.trans two.1, two.2.trans one.2⟩
  unwinds_trans one two := ⟨one.1.trans two.1, one.2.trans two.2⟩
  unwinds_of_yields one := ⟨one.1, by simp only [one.2, List.suffix_refl]⟩

namespace Exec

open Effect (evaluation execution)

/-- A change of state that expressions are allowed at any time. -/
theorem evaluation_of_eq {before after : Context} (stack : after.stack = before.stack)
    (globals : after.globals = before.globals)
    (temporaries : before.temporaries.toList <+: after.temporaries.toList)
    (journal : after.journal = before.journal) (active : after.active = before.active) :
    evaluation.yields before after :=
  ⟨.of_eq stack globals temporaries journal, active⟩

/-- Changing the heap disturbs nothing. -/
theorem edit_undisturbed (change : Edit RuntimeError α) : Obeys evaluation.whole (edit change) :=
  Obeys.edit (fun _ _ => evaluation_of_eq rfl rfl (List.prefix_refl _) rfl rfl) change

/-- A new temporary object stands behind the others. -/
theorem temporary_undisturbed (type : CType) : Obeys evaluation.whole (temporary type) := by
  refine Obeys.bind (edit_undisturbed _) fun object => Obeys.bind (Obeys.modify fun context => ?_)
    fun _ => Obeys.pure object
  -- The objects that were there before are a beginning of those that are there now.
  exact evaluation_of_eq rfl rfl (by simp) rfl rfl

/-- Asking for memory disturbs nothing, whether there is enough of it or not. -/
theorem mallocOrNull_undisturbed (size : Nat) :
    Obeys evaluation.whole (Builtin.mallocOrNull size) := by
  -- What is asked for is taken from the heap and put under an address, and the stack is left alone.
  have asked : Obeys evaluation.whole (malloc size) := by
    refine Obeys.bind (edit_undisturbed _) fun block => Obeys.bind (Obeys.modify fun context => ?_)
      fun _ => Obeys.pure block.address
    exact evaluation_of_eq rfl rfl (List.prefix_refl _) rfl rfl
  refine Obeys.tryCatch (Obeys.bind asked fun address => Obeys.pure _) fun reason => ?_
  -- A lack of memory is counted and answered with null, and any other failure goes on.
  split
  · refine Obeys.bind (Obeys.modify fun context => ?_) fun _ => Obeys.pure _
    exact evaluation_of_eq rfl rfl (List.prefix_refl _) rfl rfl
  · exact Obeys.throw _

/-- Giving memory back disturbs nothing. -/
theorem free_undisturbed (address : Address) : Obeys evaluation.whole (free address) := by
  refine Obeys.bind Obeys.get fun context => ?_
  -- An address that the program was not given is refused.
  split
  · refine Obeys.bind (Obeys.modify fun context => ?_) fun _ => edit_undisturbed _
    exact evaluation_of_eq rfl rfl (List.prefix_refl _) rfl rfl
  · exact Obeys.throw _

/-- Storage for a returned structure is a temporary object. -/
theorem returnBuffer_undisturbed (type : CType) :
    Obeys evaluation.whole (returnBuffer type) := by
  unfold returnBuffer
  -- Only a structure needs storage of the caller.
  split
  · refine Obeys.bind (temporary_undisturbed type) fun object => ?_
    refine Obeys.bind ?_ fun block => Obeys.pure (some block)
    cases object.block.slice 0 object.block.size with
    | ok block => exact Obeys.pure block
    | error cause => exact Obeys.throw _
  · exact Obeys.pure none

/-- The steps of evaluation disturb nothing. -/
theorem evaluates_undisturbed : Evaluates (fun _ => Obeys evaluation) where
  pure := Obeys.pure
  bind := Obeys.bind
  inspect look _ := Obeys.bind Obeys.get fun context => Obeys.lift (look context)
  store _ _ _ := Obeys.of_whole (edit_undisturbed _)
  returnBuffer type := Obeys.of_whole (returnBuffer_undisturbed type)
  print _ := Obeys.modify fun _ => evaluation_of_eq rfl rfl (List.prefix_refl _) rfl rfl
  mallocOrNull size := Obeys.of_whole (mallocOrNull_undisturbed size)
  free address := Obeys.of_whole (free_undisturbed address)

/-- What disturbs nothing is confined. -/
theorem confined_of_undisturbed {run : Exec α} (obeys : Obeys evaluation run) :
    Obeys execution run := by
  intro context
  have obeys := obeys context
  -- Both ways to end promise the same of the statements under way.
  cases ran : run context with
  | ok result last =>
    rw [ran] at obeys
    exact ⟨.of_undisturbed obeys.1, obeys.2⟩
  | error reason last =>
    rw [ran] at obeys
    exact ⟨.of_undisturbed obeys.1, obeys.2⟩

/-- Dropping the newer temporary objects leaves exactly the older ones. -/
theorem dropTemporaries_temporaries {before after : Context}
    (older : before.temporaries.toList <+: after.temporaries.toList) :
    (after.dropTemporaries before.temporaries.size).temporaries = before.temporaries := by
  -- What lies behind the older objects is just what is dropped.
  obtain ⟨newer, split⟩ := older
  apply Array.toList_inj.mp
  simp [Context.dropTemporaries, ← split]

/-- Dropping newer temporary objects keeps an expression's promise. -/
theorem undisturbed_dropTemporaries {before after : Context} (same : before.Undisturbed after) :
    before.Undisturbed (after.dropTemporaries before.temporaries.size) where
  stack := same.stack
  globals := same.globals
  temporaries := by
    simp only [dropTemporaries_temporaries same.temporaries, List.prefix_refl]
  within limit fits := (same.within limit fits).of_limit rfl rfl

/-- Dropping newer temporary objects keeps a statement's promise. -/
theorem confined_dropTemporaries {before after : Context} (same : before.Confined after) :
    before.Confined (after.dropTemporaries before.temporaries.size) where
  room := same.room
  frames := same.frames
  globals := same.globals
  temporaries := by
    simp only [dropTemporaries_temporaries same.temporaries, List.prefix_refl]
  within limit fits := (same.within limit fits).of_limit rfl rfl

/-- A computation that disturbs nothing does not do so either if its temporary objects go. -/
theorem alone_undisturbed {run : Exec α} (obeys : Obeys evaluation run) :
    Obeys evaluation (alone run) := by
  -- What the computation itself does, it does under the same temporary objects.
  intro context
  have obeys := obeys context
  rw [alone_run]
  -- However the computation ends, its temporary objects are dropped.
  cases ran : run context with
  | ok result last =>
    rw [ran] at obeys
    exact ⟨undisturbed_dropTemporaries obeys.1, obeys.2⟩
  | error reason last =>
    rw [ran] at obeys
    exact ⟨undisturbed_dropTemporaries obeys.1, obeys.2⟩

/-- Replacing the innermost scope is confined to it. -/
theorem setCurrent_confined (frame : Frame) (scope : Scope) :
    frame.Confined (frame.setCurrent scope) := by
  unfold Frame.setCurrent
  -- The innermost scope is that of a block or that of the body.
  cases nested : frame.nested with
  | nil => exact ⟨rfl, rfl, by simp [Frame.scopes, nested]⟩
  | cons inner outer => exact ⟨rfl, rfl, by simp [Frame.scopes, nested]⟩

/-- A declaration changes the innermost scope only. -/
theorem declare_confined (name : String) (type : CType) (init : Option Value) :
    Obeys execution (declare name type init) := by
  intro context
  rw [declare_run]
  -- An object that cannot be made leaves the bindings as they are.
  cases Variable.create type init context.heap with
  | error cause heap =>
    exact confined_of_undisturbed
      (Obeys.of_whole (edit_undisturbed fun _ => .error cause heap)) context
  | ok object heap =>
    simp only [Context.setCurrentScope, CallStack.current?]
    cases frames : context.stack.frames with
    | nil =>
      -- Outside of functions the name is global, and no activation promises anything about it.
      refine ⟨⟨rfl, .refl _, fun inside => absurd frames inside, List.prefix_refl _, ?_⟩, rfl⟩
      exact fun limit fits => fits.of_limit rfl rfl
    | cons frame callers =>
      have confined := setCurrent_confined frame (context.currentScope.bind name object)
      simp only [CallStack.setCurrent, frames]
      exact ⟨.of_frame frames confined _, rfl⟩

/-- Recording a result changes the current activation only. -/
theorem markReturned_confined (value : Value) : Obeys execution (markReturned value) := by
  intro context
  rw [markReturned_run]
  -- Without an activation nothing is marked, and a second return is refused.
  cases frames : context.stack.frames with
  | nil => exact execution.unwinds_of_yields (execution.refl context)
  | cons frame callers =>
    simp only
    split
    · exact execution.unwinds_of_yields (execution.refl context)
    · -- What was returned is not among what is kept.
      have confined : frame.Confined { frame with returned := some value } := ⟨rfl, rfl, rfl⟩
      exact ⟨.of_frame frames confined context.heap, rfl⟩

/-- A structure that is handed over goes to storage that is there already. -/
theorem handOver_undisturbed (value : Value) : Obeys evaluation (handOver value) := by
  refine Obeys.bind Obeys.get fun context => ?_
  -- Only a structure that has storage of the caller is written at all.
  split
  · exact Obeys.bind (Obeys.of_whole (edit_undisturbed _)) fun _ => Obeys.pure _
  · exact Obeys.pure _

/-- Laying out a literal disturbs nothing. -/
theorem loadString_undisturbed (literal : String) :
    Obeys evaluation.whole (loadString literal) := by
  refine Obeys.bind (edit_undisturbed _) fun block => Obeys.bind ?_ fun _ =>
    Obeys.modify fun _ => ?_
  · -- A literal that does not fit its block gives the block back before the failure goes on.
    exact Obeys.tryCatch (Obeys.bind (edit_undisturbed _) fun _ => edit_undisturbed _)
      fun reason => Obeys.bind (edit_undisturbed _) fun _ => Obeys.throw reason
  · exact evaluation_of_eq rfl rfl (List.prefix_refl _) rfl rfl

/-- What a record has that a moment was added to. -/
theorem mem_add {journal : Journal} {location : Location} {added moment : Moment}
    (recorded : moment ∈ (journal.add location added).moments) :
    moment = added ∨ moment ∈ journal.moments := by
  -- Only a full record has moments.
  cases journal with
  | off => exact .inr recorded
  | brief entries => exact .inr recorded
  | full moments => exact List.mem_cons.mp recorded

/-- Being let in disturbs nothing; what is recorded shows the present stack. -/
theorem enter_undisturbed (location : Location) : Obeys evaluation (enter location) := by
  intro context
  -- Without a grant the program waits as it is; with one, a moment is recorded.
  cases allowed : context.grants with
  | zero =>
    rw [enter_without allowed]
    exact evaluation.unwinds_of_yields (evaluation_of_eq rfl rfl (List.prefix_refl _) rfl rfl)
  | succ grants =>
    rw [enter_with allowed]
    refine ⟨⟨rfl, rfl, List.prefix_refl _, fun limit fits => ⟨fits.now, ?_⟩⟩, rfl⟩
    intro moment recorded
    -- The new moment shows the present stack, which fits.
    rcases mem_add recorded with rfl | earlier
    · exact fits.now
    · exact fits.recorded moment earlier

/-- After a body has run in a block, closing the block succeeds and leaves what was there before
the block was opened. -/
theorem popScope_closes {context last : Context} {frame : Frame} {callers : List Frame}
    (frames : context.stack.frames = frame :: callers)
    (ran : Context.Confined { context with
      stack := { context.stack with frames := frame.pushScope :: callers } } last) :
    ∃ left, popScope last = .ok () left ∧ context.Confined left ∧ left.active = last.active := by
  obtain ⟨room, kept, globals, temporaries, within⟩ := ran
  -- There is an activation, and the block that was opened is open in it.
  have closed := popScope_run last
  cases inner : last.stack.frames with
  | nil =>
    rw [inner] at kept
    cases kept
  | cons changed rest =>
    rw [inner] at kept
    cases kept with
    | inside confined =>
      obtain ⟨scope, nested, root⟩ := confined.unopened
      simp only [inner, nested] at closed
      refine ⟨_, closed,
        ⟨room, ?_, fun _ => globals (by simp), temporaries, fun limit fits => ?_⟩, rfl⟩
      · -- Without the block the activation has the scopes that it had before.
        have without : frame.Confined { changed with nested := frame.nested } :=
          ⟨confined.function, confined.buffer, by simp [Frame.scopes, root]⟩
        rw [frames]
        exact .inside without callers
      · -- Opening and closing a block leave as many activations as there are.
        have opened : Context.Within limit { context with
            stack := { context.stack with frames := frame.pushScope :: callers } } :=
          fits.of_limit (by simp [CallStack.limit, CallStack.depth, frames]) rfl
        exact (within limit opened).of_limit (by simp [CallStack.limit, CallStack.depth, inner]) rfl

/-- A block around a confined body is confined. -/
theorem inBlock_confined {body : Exec Unit} (obeys : Obeys execution body) :
    Obeys execution (inBlock body) := by
  -- The block is opened on top of the current scopes.
  intro context
  rw [inBlock_run, pushScope_run]
  cases frames : context.stack.frames with
  | nil => exact execution.unwinds_of_yields (execution.refl context)
  | cons frame callers =>
    let opened : Context := { context with
      stack := { context.stack with frames := frame.pushScope :: callers } }
    have obeys := obeys opened
    simp only [tryFinally_run]
    -- However the body ends, the block is closed next.
    cases ran : body opened with
    | ok _ last =>
      rw [ran] at obeys
      obtain ⟨left, closed, confined, active⟩ := popScope_closes frames obeys.1
      simp only [closed]
      exact ⟨confined, active.trans obeys.2⟩
    | error reason last =>
      rw [ran] at obeys
      obtain ⟨left, closed, confined, active⟩ := popScope_closes frames obeys.1
      simp only [closed]
      exact ⟨confined, by rw [active]; exact obeys.2⟩

/-- After a body has run in an activation, leaving that succeeds and restores stack and names. -/
theorem popFrame_closes {context last : Context} {frame : Frame} {room : Nat}
    (left : context.stack.room = room + 1)
    (ran : Context.Confined { context with
      stack := { frames := frame :: context.stack.frames, room } } last) :
    ∃ changed after, popFrame last = .ok changed after ∧ frame.Confined changed ∧
      context.Undisturbed after ∧ after.active = last.active := by
  obtain ⟨same, kept, globals, temporaries, within⟩ := ran
  -- There is an activation above the callers, and it is left.
  have closed := popFrame_run last
  cases inner : last.stack.frames with
  | nil =>
    rw [inner] at kept
    cases kept
  | cons changed rest =>
    rw [inner] at kept
    cases kept with
    | inside confined =>
      simp only [inner] at closed
      -- What is left are the callers, with as much room as there was.
      have stack : ({ frames := context.stack.frames, room := last.stack.room + 1 } : CallStack) =
          context.stack := by
        rw [same, ← left]
      rw [stack] at closed
      refine ⟨changed, _, closed, confined,
        ⟨rfl, globals (by simp), temporaries, fun limit fits => ⟨fits.now, ?_⟩⟩, rfl⟩
      -- One activation more and one place less is the same limit, so nothing recorded breaks it.
      have opened : Context.Within limit { context with
          stack := { frames := frame :: context.stack.frames, room } } := by
        refine fits.of_limit ?_ rfl
        simp only [CallStack.limit, CallStack.depth, List.length_cons, left]
        omega
      exact (within limit opened).recorded

/-- An activation is entered where there is room, and takes one place of it. -/
theorem pushFrame_eq_ok {function : String} {buffer : Option Block} {context opened : Context}
    {entry : Unit} (entered : pushFrame function buffer context = .ok entry opened) :
    ∃ room, context.stack.room = room + 1 ∧ opened = { context with
      stack := { frames := { function, buffer } :: context.stack.frames, room } } := by
  -- On a full stack there is no success.
  rw [pushFrame_run] at entered
  cases left : context.stack.room with
  | zero =>
    rw [left] at entered
    cases entered
  | succ room =>
    rw [left] at entered
    cases entered
    exact ⟨room, rfl, rfl⟩

/-- An activation around a confined body disturbs nothing. -/
theorem activation_undisturbed (function : String) (buffer : Option Block) {body : Exec Unit}
    (obeys : Obeys execution body) : Obeys evaluation (activation function buffer body) := by
  intro context
  -- On a full stack nothing is entered.
  rw [activation_run, pushFrame_run]
  cases left : context.stack.room with
  | zero => exact evaluation.unwinds_of_yields (evaluation.refl context)
  | succ room =>
    let opened : Context := { context with
      stack := { frames := { function, buffer } :: context.stack.frames, room } }
    have obeys := obeys opened
    simp only
    -- However the body ends, the activation is left next.
    cases ran : body opened with
    | ok _ last =>
      rw [ran] at obeys
      obtain ⟨changed, after, closed, -, same, active⟩ := popFrame_closes left obeys.1
      simp only [closed]
      exact ⟨same, active.trans obeys.2⟩
    | error reason last =>
      rw [ran] at obeys
      obtain ⟨changed, after, closed, -, same, active⟩ := popFrame_closes left obeys.1
      simp only [closed]
      exact ⟨same, by rw [active]; exact obeys.2⟩

/-- What a statement with a confined effect leaves: the same temporary objects, and the same
statements under way unless it fails; then it is still among them. -/
theorem statement_outcome {effect : Exec Unit} (obeys : Obeys execution effect)
    (location : Location) (context : Context) (running : context.hasReturned = false) :
    match statement location effect context with
    | .ok _ last => context.Confined last ∧ last.temporaries = context.temporaries ∧
        last.active = context.active
    | .error _ last => context.Confined last ∧ last.temporaries = context.temporaries ∧
        location :: context.active <:+ last.active := by
  let begun : Context := { context with active := location :: context.active }
  -- Being let in is part of what the statement does, and it may be suspended there.
  have whole : Obeys execution (enter location >>= fun _ => effect) :=
    Obeys.bind (confined_of_undisturbed (enter_undisturbed location)) fun _ => obeys
  have obeys := whole begun
  -- The list of statements under way plays no part in what is confined.
  have plain {last : Context} (confined : begun.Confined last) : context.Confined last :=
    ⟨confined.room, confined.frames, confined.globals, confined.temporaries,
      fun limit fits => confined.within limit (fits.of_limit rfl rfl)⟩
  rw [statement_run, running]
  simp only [Bool.false_eq_true, if_false]
  cases ran : (enter location >>= fun _ => effect) begun with
  | ok _ last =>
    rw [ran] at obeys
    have confined := confined_dropTemporaries (plain obeys.1)
    refine ⟨⟨confined.room, confined.frames, confined.globals, confined.temporaries,
      fun limit fits => (confined.within limit fits).of_limit rfl rfl⟩,
      dropTemporaries_temporaries (plain obeys.1).temporaries, ?_⟩
    -- The statement is taken off the front again, where it was put.
    exact congrArg List.tail obeys.2
  | error reason last =>
    rw [ran] at obeys
    exact ⟨confined_dropTemporaries (plain obeys.1),
      dropTemporaries_temporaries (plain obeys.1).temporaries, obeys.2⟩

/-- A statement with a confined effect is confined. -/
theorem statement_confined (location : Location) {effect : Exec Unit}
    (obeys : Obeys execution effect) : Obeys execution (statement location effect) := by
  intro context
  -- A statement that is skipped changes nothing at all.
  cases returned : context.hasReturned with
  | true =>
    rw [statement_run, returned]
    exact execution.refl context
  | false =>
    have outcome := statement_outcome obeys location context returned
    cases ran : statement location effect context with
    | ok _ last =>
      rw [ran] at outcome
      exact ⟨outcome.1, outcome.2.2⟩
    | error reason last =>
      rw [ran] at outcome
      -- A statement that fails stays under way, in front of those that were.
      exact ⟨outcome.1, (List.suffix_cons location context.active).trans outcome.2.2⟩

/-- Expressions disturb nothing, and statements are confined. -/
theorem executes_confined :
    Executes (fun _ => Obeys evaluation) (fun _ => Obeys execution) where
  toEvaluates := evaluates_undisturbed
  weaken := confined_of_undisturbed
  seq := Obeys.bind
  alone := alone_undisturbed
  handOver := handOver_undisturbed
  loadString literal := confined_of_undisturbed (Obeys.of_whole (loadString_undisturbed literal))
  declare := declare_confined
  markReturned := markReturned_confined
  inBlock := inBlock_confined
  statement := statement_confined
  loop location _ _ tests obeys :=
    Obeys.loop (confined_of_undisturbed tests) (statement_confined location obeys)
  activation := activation_undisturbed

end Exec

namespace Context

/-- What a statement leaves exactly as it was, however it ends: the depth of the stack and of each
activation, the callers with all that they bind and return, the temporary objects and, inside a
function, the global names. -/
structure Balanced (before after : Context) : Prop where
  depth : after.stack.depth = before.stack.depth
  scopes : after.stack.frames.map (·.scopes.length) = before.stack.frames.map (·.scopes.length)
  callers : after.stack.frames.tail = before.stack.frames.tail
  globals : before.stack.frames ≠ [] → after.globals = before.globals
  temporaries : after.temporaries = before.temporaries
  within : ∀ limit, before.Within limit → after.Within limit

namespace Balanced

/-- Nothing that happens is balanced. -/
theorem refl (context : Context) : context.Balanced context where
  depth := rfl
  scopes := rfl
  callers := rfl
  globals _ := rfl
  temporaries := rfl
  within _ fits := fits

/-- What is confined and gives back its temporary objects is balanced. -/
theorem of_confined {before after : Context} (confined : before.Confined after)
    (temporaries : after.temporaries = before.temporaries) : before.Balanced after where
  depth := confined.frames.length
  scopes := confined.frames.depths
  callers := confined.frames.callers
  globals := confined.globals
  temporaries := temporaries
  within := confined.within

end Balanced

end Context

namespace Exec

open Effect (evaluation)

/-- The state that is left and the outcome say the same of what an expression may do. -/
theorem evaluation_outcome {run : Exec α} (obeys : Obeys evaluation run) (context : Context) :
    context.Undisturbed (run.after context) ∧
      ∀ result last, run context = .ok result last → last.active = context.active := by
  have obeys := obeys context
  unfold after
  -- The statements under way are promised for a result only.
  cases ran : run context with
  | ok result last =>
    rw [ran] at obeys
    refine ⟨obeys.1, fun _ _ same => ?_⟩
    cases same
    exact obeys.2
  | error reason last =>
    rw [ran] at obeys
    exact ⟨obeys.1, fun _ _ same => by cases same⟩

/-- A statement, at the present depth, is balanced; unless the current function has returned, it is
among the statements under way just if it fails. -/
theorem runStatement_outcome (statement : Stmt) (context : Context)
    (running : context.hasReturned = false) :
    context.Balanced ((runStatement statement).after context) ∧
      match runStatement statement context with
      | .ok _ last => last.active = context.active
      | .error _ last => statement.location :: context.active <:+ last.active := by
  obtain ⟨all, -⟩ := executes_confined.statements
    (executes_confined.invoke context.stack.room)
  obtain ⟨effect, same, obeys⟩ := all statement
  -- At the present depth, running a statement is its effect under the shared protocol.
  have ran : runStatement statement context =
      Exec.statement statement.location effect context := by
    rw [← same]
    rfl
  have outcome := statement_outcome obeys statement.location context running
  unfold after
  rw [ran]
  -- However it ends, what is confined is balanced.
  cases left : Exec.statement statement.location effect context with
  | ok _ last =>
    rw [left] at outcome
    exact ⟨.of_confined outcome.1 outcome.2.1, outcome.2.2⟩
  | error reason last =>
    rw [left] at outcome
    exact ⟨.of_confined outcome.1 outcome.2.1, outcome.2.2⟩

/-- On every path the stack is as it was. A statement leaves the depth of the stack and of each
activation, the callers, the temporary objects and, inside a function, the global names as they
were, and it is among the statements under way just if it fails. An expression leaves the whole
stack, the global names and the earlier temporary objects as they were. Neither ever goes deeper
than the limit. -/
theorem stack_discipline (context : Context) :
    (∀ statement : Stmt,
      context.Balanced ((runStatement statement).after context) ∧
      (context.hasReturned = true → runStatement statement context = .ok () context) ∧
      (context.hasReturned = false → match runStatement statement context with
        | .ok _ last => last.active = context.active
        | .error _ last => statement.location :: context.active <:+ last.active)) ∧
    (∀ expression : Expr,
      context.Undisturbed ((evaluate expression).after context) ∧
      (∀ value last, evaluate expression context = .ok value last →
        last.active = context.active) ∧
      context.Undisturbed ((placeOf expression).after context) ∧
      (∀ place last, placeOf expression context = .ok place last →
        last.active = context.active)) ∧
    (∀ function buffer limit, context.Within limit →
      ((pushFrame function buffer).after context).Within limit) ∧
    (∀ limit, context.Within limit → context.stack.depth ≤ limit ∧
      ∀ moment ∈ context.journal.moments, moment.stack.depth ≤ limit) := by
  refine ⟨fun statement => ?_, fun expression => ?_, fun function buffer limit fits => ?_,
    fun limit fits => fits.depth_le⟩
  · cases returned : context.hasReturned with
    | true =>
      -- In a function that has returned, the statement is skipped.
      have still : runStatement statement context = .ok () context :=
        exec_returned (Function.invoke context.stack.room) statement returned
      refine ⟨?_, fun _ => still, nofun⟩
      rw [after, still]
      exact .refl context
    | false =>
      have outcome := runStatement_outcome statement context returned
      exact ⟨outcome.1, nofun, fun _ => outcome.2⟩
  · -- An expression is evaluated from the state as it is.
    obtain ⟨values, -, places⟩ := evaluates_undisturbed.expressions
      (executes_confined.invoke context.stack.room)
    -- Values and places are evaluated at the same depth, by the same calls.
    have value := evaluation_outcome (values expression) context
    have place := evaluation_outcome (places expression) context
    exact ⟨value.1, value.2, place.1, place.2⟩
  · -- A frame is pushed only where there is room for it.
    have pushed := pushFrame_run function buffer context
    unfold after
    cases left : context.stack.room with
    | zero =>
      rw [left] at pushed
      rw [pushed]
      exact fits
    | succ room =>
      -- One place less and one activation more: the limit stays.
      rw [left] at pushed
      rw [pushed]
      refine fits.of_limit ?_ rfl
      simp only [stateOf, CallStack.limit, CallStack.depth, List.length_cons, left]
      omega

end Exec

end StepMachine
