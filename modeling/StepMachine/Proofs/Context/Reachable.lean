import StepMachine.Proofs.Heap.Stores
import StepMachine.Proofs.Lexical.Reflection
import StepMachine.Proofs.Stack.Discipline

/-! The states that a program can come to, between its statements and in the midst of them, and what
holds in all of them: the block of every variable is as large as its type asks for. -/

namespace StepMachine

/-- A single step of a program; whatever a program does is made of them. -/
inductive Step where
  | store (address : Address) (type : CType) (value : Value)
  | returnBuffer (type : CType)
  | print (text : String)
  | malloc (size : Nat)
  | free (address : Address)
  | handOver (value : Value)
  | loadString (literal : String)
  | declare (name : String) (type : CType) (init : Option Value)
  | markReturned (value : Value)
  | pushScope
  | popScope
  | pushFrame (function : String) (buffer : Option Block)
  | popFrame
  | releaseTemporaries (mark : Nat)
  | enter (location : Location)
  | activate (active : List Location)

/-- The state that a step leaves, whether it succeeds or fails. -/
def Step.after : Step → Context → Context
  | store address type value => (Exec.edit (Heap.store address type value)).after
  | returnBuffer type => (Exec.returnBuffer type).after
  | print text => (Exec.print text).after
  | malloc size => (Builtin.mallocOrNull size).after
  | free address => (Exec.free address).after
  | handOver value => (Exec.handOver value).after
  | loadString literal => (Exec.loadString literal).after
  | declare name type init => (Exec.declare name type init).after
  | markReturned value => (Exec.markReturned value).after
  | pushScope => Exec.pushScope.after
  | popScope => Exec.popScope.after
  | pushFrame function buffer => (Exec.pushFrame function buffer).after
  | popFrame => Exec.popFrame.after
  | releaseTemporaries mark => (Exec.releaseTemporaries mark).after
  | enter location => (Exec.enter location).after
  | activate active => fun context => { context with active }

namespace Context

/-- A state that single steps lead to. -/
inductive Reachable (first : Context) : Context → Prop where
  | start : Reachable first first
  | step {context : Context} (reached : Reachable first context) (step : Step) :
    Reachable first (step.after context)

/-- A property that no single step destroys holds wherever steps lead. -/
theorem Reachable.keeps {invariant : Context → Prop}
    (steps : SingleSteps (Effect.keeping invariant)) {first context : Context}
    (holds : invariant first) (reached : first.Reachable context) : invariant context := by
  -- The induction is on the steps that have led there.
  induction reached with
  | start => exact holds
  | step _ step ih =>
    cases step with
    | store address type value => exact (steps.store address type value).keeps ih
    | returnBuffer type => exact (steps.returnBuffer type).keeps ih
    | print text => exact (steps.print text).keeps ih
    | malloc size => exact (steps.mallocOrNull size).keeps ih
    | free address => exact (steps.free address).keeps ih
    | handOver value => exact (steps.handOver value).keeps ih
    | loadString literal => exact (steps.loadString literal).keeps ih
    | declare name type init => exact (steps.declare name type init).keeps ih
    | markReturned value => exact (steps.markReturned value).keeps ih
    | pushScope => exact steps.pushScope.keeps ih
    | popScope => exact steps.popScope.keeps ih
    | pushFrame function buffer => exact (steps.pushFrame function buffer).keeps ih
    | popFrame => exact steps.popFrame.keeps ih
    | releaseTemporaries mark => exact (steps.releaseTemporaries mark).keeps ih
    | enter location => exact (steps.enter location).keeps ih
    | activate active => exact steps.activate _ active ih

end Context

/-- What leads from states that can be reached to such states. -/
def Effect.reaching (first : Context) : Effect := .keeping first.Reachable

namespace Exec

open Effect (reaching)

/-- A property that a computation does not destroy holds in the state in which it yields a
result. -/
theorem Obeys.keeps_ok {invariant : Context → Prop} {run : Exec α}
    (obeys : Obeys (Effect.keeping invariant) run) {context last : Context} {result : α}
    (holds : invariant context) (ran : run context = .ok result last) : invariant last := by
  -- The invariant is kept in the state that is left, which is that of the result.
  have kept := obeys.keeps holds
  unfold after at kept
  rwa [ran] at kept

/-- A computation that is a single step leads to a state that can be reached. -/
theorem reaches_of_step {first : Context} {run : Exec α} (step : Step)
    (same : run.after = step.after) : Obeys (reaching first) run := by
  -- The state that it leaves is the one that the step leads to.
  intro context
  refine (Effect.allows_iff rfl).mpr fun reached => ?_
  have next := reached.step step
  rwa [← same] at next

/-- By single steps only states are passed that can be reached, so that every state in the midst of
an evaluation, a statement, a call or a whole program is one. -/
theorem steps_reach (first : Context) : SingleSteps (reaching first) where
  store address type value := reaches_of_step (.store address type value) rfl
  returnBuffer type := reaches_of_step (.returnBuffer type) rfl
  print text := reaches_of_step (.print text) rfl
  mallocOrNull size := reaches_of_step (.malloc size) rfl
  free address := reaches_of_step (.free address) rfl
  handOver value := reaches_of_step (.handOver value) rfl
  loadString literal := reaches_of_step (.loadString literal) rfl
  declare name type init := reaches_of_step (.declare name type init) rfl
  markReturned value := reaches_of_step (.markReturned value) rfl
  pushScope := reaches_of_step .pushScope rfl
  popScope := reaches_of_step .popScope rfl
  pushFrame function buffer := reaches_of_step (.pushFrame function buffer) rfl
  popFrame := reaches_of_step .popFrame rfl
  releaseTemporaries mark := reaches_of_step (.releaseTemporaries mark) rfl
  enter location := reaches_of_step (.enter location) rfl
  activate _ active reached := reached.step (.activate active)

end Exec

/-- The block of everything bound is as large as its type asks for. -/
def Scope.Sized (scope : Scope) : Prop := ∀ binding ∈ scope.bindings, binding.2.Sized

/-- A scope without names has no variable of a wrong size. -/
theorem Scope.Sized.empty : ({} : Scope).Sized := by
  intro binding member
  cases member

/-- A new object of the right size takes the place of what its name was bound to. -/
theorem Scope.Sized.bind {scope : Scope} (sized : scope.Sized) {object : Variable}
    (fresh : object.Sized) (name : String) : (scope.bind name object).Sized := by
  intro binding member
  -- What is bound is the new object, or was bound before.
  rcases List.mem_cons.mp member with rfl | kept
  · exact fresh
  · exact sized binding (List.mem_filter.mp kept).1

namespace Context

/-- The global scope and the open scopes of all activations. -/
def scopes (context : Context) : List Scope :=
  context.globals :: context.stack.frames.flatMap (·.scopes)

/-- The block of every variable is as large as its type asks for. -/
def Sized (context : Context) : Prop := ∀ scope ∈ context.scopes, scope.Sized

variable {before after : Context}

/-- Scopes that are new have only variables of the right size. -/
theorem Sized.of_scopes (sized : before.Sized)
    (origin : ∀ scope ∈ after.scopes, scope ∈ before.scopes ∨ scope.Sized) : after.Sized := by
  intro scope member
  -- A scope was there before, or it is sized by assumption.
  rcases origin scope member with old | new
  · exact sized scope old
  · exact new

/-- The innermost scope is one of the scopes. -/
theorem currentScope_mem (context : Context) : context.currentScope ∈ context.scopes := by
  -- It is the first of an activation, or the global one.
  unfold currentScope CallStack.current? scopes
  cases frames : context.stack.frames with
  | nil => exact List.mem_cons_self ..
  | cons frame callers =>
    have inner : frame.current ∈ frame.scopes := by
      unfold Frame.current Frame.scopes
      cases frame.nested <;> simp
    simp [inner]

/-- Replacing the innermost scope leaves the others. -/
theorem mem_scopes_setCurrentScope {context : Context} {scope other : Scope}
    (member : other ∈ (context.setCurrentScope scope).scopes) :
    other ∈ context.scopes ∨ other = scope := by
  -- The scopes are those of the activation, those of its callers and the global one.
  revert member
  unfold setCurrentScope CallStack.current? scopes
  cases frames : context.stack.frames with
  | nil =>
    intro member
    simp only [frames, List.flatMap_nil, List.mem_singleton] at member
    exact .inr member
  | cons frame callers =>
    -- The scope belongs to a block or is that of the body.
    simp only [CallStack.setCurrent, frames, List.flatMap_cons, List.mem_cons, List.mem_append,
      Frame.setCurrent, Frame.scopes]
    cases nested : frame.nested with
    | nil => grind
    | cons inner outer => grind

/-- What a name stands for is bound in one of the scopes. -/
theorem exists_scope_of_find? {context : Context} {name : String} {object : Variable}
    (found : context.find? name = some object) :
    ∃ scope ∈ context.scopes, (name, object) ∈ scope.bindings := by
  -- A global name is bound in the scope of those.
  have global (bound : context.globals.find? name = some object) :
      ∃ scope ∈ context.scopes, (name, object) ∈ scope.bindings :=
    ⟨context.globals, List.mem_cons_self .., Scope.mem_of_find? bound⟩
  -- A name is looked for in the current activation first, and then among the globals.
  unfold find? CallStack.current? at found
  cases frames : context.stack.frames with
  | nil =>
    rw [frames] at found
    exact global found
  | cons frame callers =>
    rw [frames, Option.bind_some] at found
    cases bound : frame.find? name with
    | none =>
      rw [bound] at found
      exact global found
    | some first =>
      rw [bound] at found
      cases found
      -- The activation has searched its scopes one after the other.
      rw [Frame.find?_eq] at bound
      obtain ⟨scope, member, bound⟩ := List.exists_of_findSome?_eq_some bound
      refine ⟨scope, List.mem_cons_of_mem _ ?_, Scope.mem_of_find? bound⟩
      exact List.mem_flatMap.mpr ⟨frame, by simp [frames], member⟩

/-- The program holds what its scopes bind. -/
theorem scope_subset_owned {context : Context} {scope : Scope} (member : scope ∈ context.scopes) :
    scope.blocks ⊆ context.owned := by
  -- It is the global scope, or one of an activation.
  rcases List.mem_cons.mp member with rfl | inner
  · exact context.globals_subset_owned
  · obtain ⟨frame, active, inner⟩ := List.mem_flatMap.mp inner
    intro block bound
    exact frame_subset_owned active (List.mem_flatMap.mpr ⟨scope, inner, bound⟩)

/-- What a name stands for is held by the program, and as large as its type asks for. -/
theorem Sized.found {context : Context} (sized : context.Sized) {name : String} {object : Variable}
    (found : context.find? name = some object) :
    object.Sized ∧ object.block ∈ context.owned := by
  -- Where it is bound, it has the size of its type.
  obtain ⟨scope, member, bound⟩ := exists_scope_of_find? found
  exact ⟨sized scope member _ bound,
    scope_subset_owned member (List.mem_map.mpr ⟨_, bound, rfl⟩)⟩

end Context

/-- What keeps the variables at the size of their types, however it ends. -/
def Effect.sizing : Effect := .keeping Context.Sized

namespace Exec

open Effect (sizing evaluation)

/-- What leads from each scope of a state to one that was there or is of the right size. -/
theorem sizes_of_scopes {run : Exec α} (origin : ∀ context, context.Sized →
      ∀ scope ∈ (run.after context).scopes, scope ∈ context.scopes ∨ scope.Sized) :
    Obeys sizing run :=
  fun context => (Effect.allows_iff rfl).mpr fun sized => sized.of_scopes (origin context sized)

/-- What disturbs neither the stack nor the global names binds nothing. -/
theorem sizes_of_undisturbed {run : Exec α} (obeys : Obeys evaluation run) : Obeys sizing run := by
  -- No scope has changed, since they stand on the stack or are the global one.
  refine sizes_of_scopes fun context _ scope member => .inl ?_
  have same : context.Undisturbed (run.after context) := by
    have obeys := obeys context
    -- What disturbs nothing leaves the stack and the global scope, however it ends.
    unfold after
    cases ran : run context with
    | ok result last =>
      rw [ran] at obeys
      exact obeys.1
    | error reason last =>
      rw [ran] at obeys
      exact obeys.1
  unfold Context.scopes at member ⊢
  rwa [same.stack, same.globals] at member

/-- A declared variable is as large as its type asks for. -/
theorem declare_sizes (name : String) (type : CType) (init : Option Value) :
    Obeys sizing (declare name type init) := by
  -- The name is bound in the innermost scope, to an object of the right size.
  refine sizes_of_scopes fun context sized scope => ?_
  unfold after
  rw [declare_run]
  cases made : Variable.create type init context.heap with
  | error cause heap => exact .inl
  | ok object heap =>
    intro member
    have fresh := (Variable.create_changes made).2.1
    -- Whichever scope the name is bound in, the heap is none of its business.
    rcases Context.mem_scopes_setCurrentScope member with old | rfl
    · exact .inl old
    · exact .inr ((sized _ context.currentScope_mem).bind fresh name)

/-- A block that is opened binds nothing yet. -/
theorem pushScope_sizes : Obeys sizing pushScope := by
  -- The scope that is new is empty.
  refine sizes_of_scopes fun context _ scope => ?_
  unfold after
  rw [pushScope_run]
  -- Without an activation no scope is opened.
  cases frames : context.stack.frames with
  | nil => exact .inl
  | cons frame callers =>
    intro member
    by_cases new : scope = {}
    · subst new
      exact .inr .empty
    · left
      simp only [stateOf, Context.scopes, frames, List.flatMap_cons, Frame.scopes, Frame.pushScope,
        List.cons_append, List.mem_cons, List.mem_append] at member ⊢
      grind

/-- A block that is closed leaves the outer scopes. -/
theorem popScope_sizes : Obeys sizing popScope := by
  -- One scope fewer is there, and none has changed.
  refine sizes_of_scopes fun context _ scope => ?_
  unfold after
  rw [popScope_run]
  cases frames : context.stack.frames with
  | nil => exact .inl
  | cons frame callers =>
    simp only
    -- Nothing is closed where no block is open.
    cases nested : frame.nested with
    | nil => exact .inl
    | cons inner outer =>
      intro member
      left
      simp only [stateOf, Context.scopes, frames, List.flatMap_cons, Frame.scopes, nested,
        List.cons_append, List.mem_cons, List.mem_append] at member ⊢
      grind

/-- An activation that is entered binds nothing yet. -/
theorem pushFrame_sizes (function : String) (buffer : Option Block) :
    Obeys sizing (pushFrame function buffer) := by
  -- The new activation has one scope, which is empty.
  refine sizes_of_scopes fun context _ scope => ?_
  unfold after
  rw [pushFrame_run]
  cases context.stack.room with
  | zero => exact .inl
  | succ room =>
    intro member
    simp only [stateOf, Context.scopes, List.flatMap_cons, Frame.scopes, List.nil_append,
      List.singleton_append, List.mem_cons] at member ⊢
    -- The body of the function has a scope without names.
    rcases member with global | rfl | old
    · exact .inl (.inl global)
    · exact .inr .empty
    · exact .inl (.inr old)

/-- An activation that is left leaves the scopes of its callers. -/
theorem popFrame_sizes : Obeys sizing popFrame := by
  refine sizes_of_scopes fun context _ scope => ?_
  unfold after
  rw [popFrame_run]
  -- The scopes of the activation are gone, and those of its callers are left.
  cases frames : context.stack.frames with
  | nil => exact .inl
  | cons frame callers =>
    intro member
    left
    simp only [stateOf, Context.scopes, frames, List.flatMap_cons, List.mem_cons, List.mem_append]
      at member ⊢
    grind

/-- Recording a result binds nothing. -/
theorem markReturned_sizes (value : Value) : Obeys sizing (markReturned value) := by
  refine sizes_of_scopes fun context _ scope => ?_
  -- No scope is replaced or changed.
  unfold after
  rw [markReturned_run]
  -- To mark a return is to change the activation, but none of its scopes.
  cases frames : context.stack.frames with
  | nil => exact .inl
  | cons frame callers =>
    simp only
    split
    · exact .inl
    · intro member
      left
      simp only [stateOf, Context.scopes, frames, List.flatMap_cons, Frame.scopes] at member ⊢
      exact member

/-- Every single step keeps the variables at the size of their types. -/
theorem steps_size : SingleSteps sizing where
  store address type value := sizes_of_undisturbed (evaluates_undisturbed.store address type value)
  returnBuffer type := sizes_of_undisturbed (evaluates_undisturbed.returnBuffer type)
  print text := sizes_of_undisturbed (evaluates_undisturbed.print text)
  mallocOrNull size := sizes_of_undisturbed (evaluates_undisturbed.mallocOrNull size)
  free address := sizes_of_undisturbed (evaluates_undisturbed.free address)
  handOver value := sizes_of_undisturbed (handOver_undisturbed value)
  loadString literal := sizes_of_undisturbed (Obeys.of_whole (loadString_undisturbed literal))
  declare := declare_sizes
  markReturned := markReturned_sizes
  pushScope := pushScope_sizes
  popScope := popScope_sizes
  pushFrame := pushFrame_sizes
  popFrame := popFrame_sizes
  releaseTemporaries mark := by
    -- Only temporary objects are given up, which no scope binds.
    refine sizes_of_scopes fun context _ scope => ?_
    unfold after
    rw [releaseTemporaries_run]
    exact .inl
  enter location := sizes_of_undisturbed (enter_undisturbed location)
  activate _ _ sized := sized

end Exec

end StepMachine
