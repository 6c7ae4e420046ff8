import Mathlib.Data.List.Forall2
import StepMachine.Proofs.Context.Ownership
import StepMachine.Proofs.Heap.Release

/-! States of a program that differ in nothing but the order in which each scope lists its bindings,
and the program the blocks that it was given: what is looked up in them is the same. -/

namespace StepMachine

/-- The same bindings in some order. -/
def Scope.Reordered (scope other : Scope) : Prop := scope.bindings.Perm other.bindings

/-- The same activation, with the bindings of each scope in some order. -/
structure Frame.Reordered (frame other : Frame) : Prop where
  function : other.function = frame.function
  root : frame.root.Reordered other.root
  nested : List.Forall₂ Scope.Reordered frame.nested other.nested
  returned : other.returned = frame.returned
  buffer : other.buffer = frame.buffer

/-- The same activations, each with its bindings in some order. -/
structure CallStack.Reordered (stack other : CallStack) : Prop where
  frames : List.Forall₂ Frame.Reordered stack.frames other.frames
  room : other.room = stack.room

/-- The same moment, with what is held in some order. -/
structure Moment.Reordered (moment other : Moment) : Prop where
  scene : other.scene = moment.scene
  stack : moment.stack.Reordered other.stack
  globals : moment.globals.Reordered other.globals
  temporaries : other.temporaries = moment.temporaries
  strings : other.strings = moment.strings
  dynamic : moment.dynamic.Perm other.dynamic

/-- The same record, with what was held at each moment of it in some order. -/
inductive Journal.Reordered : Journal → Journal → Prop where
  | off : Reordered .off .off
  | brief (entries : List Entry) : Reordered (.brief entries) (.brief entries)
  | full {moments others : List Moment} (same : List.Forall₂ Moment.Reordered moments others) :
    Reordered (.full moments) (.full others)

/-- The same state, with what is held in some order. -/
structure Context.Reordered (context other : Context) : Prop where
  program : other.program = context.program
  heap : other.heap = context.heap
  stack : context.stack.Reordered other.stack
  globals : context.globals.Reordered other.globals
  active : other.active = context.active
  temporaries : other.temporaries = context.temporaries
  strings : other.strings = context.strings
  dynamic : context.dynamic.Perm other.dynamic
  refused : other.refused = context.refused
  terminal : other.terminal = context.terminal
  cursor : other.cursor = context.cursor
  grants : other.grants = context.grants
  journal : context.journal.Reordered other.journal

/-- What a host reads of the record is the same. -/
theorem Journal.Reordered.entries {journal other : Journal} (same : journal.Reordered other) :
    other.entries = journal.entries := by
  -- Only a full record shows what is held.
  cases same <;> rfl

/-- A moment can be entered into records that differ in order only. -/
theorem Journal.Reordered.add {journal other : Journal} (same : journal.Reordered other)
    (location : Location) {moment changed : Moment} (entered : moment.Reordered changed) :
    (journal.add location moment).Reordered (other.add location changed) := by
  -- A record that is kept shows the scene, in which nothing has an order.
  cases same with
  | off => exact .off
  | brief entries =>
    rw [Journal.add, Journal.add, entered.scene]
    exact .brief _
  | full moments => exact .full (.cons entered moments)

/-- Lists that are related one by one have the same parts, if related members do. -/
theorem flatMap_perm_of_forall₂ {R : α → α → Prop} {parts : α → List β} {one other : List α}
    (same : List.Forall₂ R one other) (each : ∀ a b, R a b → (parts a).Perm (parts b)) :
    (one.flatMap parts).Perm (other.flatMap parts) := by
  -- The induction is on the two lists, which are as long as each other.
  induction same with
  | nil => exact .refl _
  | cons head _ ih =>
    rw [List.flatMap_cons, List.flatMap_cons]
    exact (each _ _ head).append ih

namespace Scope

variable {scope other : Scope}

/-- The same blocks are bound. -/
theorem Reordered.blocks (same : scope.Reordered other) : scope.blocks.Perm other.blocks :=
  List.Perm.map _ same

/-- Each name stands once in any order. -/
theorem Reordered.distinct (same : scope.Reordered other) (distinct : scope.Distinct) :
    other.Distinct :=
  (List.Perm.map _ same).nodup_iff.mp distinct

/-- Where each name stands once, it is found just where it is bound. -/
theorem Distinct.find?_eq_some_iff (distinct : scope.Distinct) {name : String}
    {object : Variable} : scope.find? name = some object ↔ (name, object) ∈ scope.bindings := by
  unfold Distinct names at distinct
  unfold find?
  generalize scope.bindings = bindings at distinct
  -- The induction is on the bindings.
  induction bindings with
  | nil => simp
  | cons binding rest ih =>
    obtain ⟨first, bound⟩ := binding
    rw [List.map_cons, List.nodup_cons] at distinct
    rw [List.lookup_cons, List.mem_cons]
    by_cases here : name = first
    · -- The name is not bound again in the rest.
      subst here
      have once : (name, object) ∉ rest := fun again =>
        distinct.1 (List.mem_map.mpr ⟨_, again, rfl⟩)
      simp [once, eq_comm]
    · rw [beq_false_of_ne here, ih distinct.2]
      simp [here]

/-- Where each name stands once, the order does not matter to what it stands for. -/
theorem Reordered.find? (same : scope.Reordered other) (distinct : scope.Distinct)
    (name : String) : other.find? name = scope.find? name := by
  -- Both scopes have the same bindings, and membership decides.
  apply Option.ext
  intro object
  rw [distinct.find?_eq_some_iff, (same.distinct distinct).find?_eq_some_iff, same.mem_iff]

/-- A name can be bound in any order of the others. -/
theorem Reordered.bind (same : scope.Reordered other) (name : String) (object : Variable) :
    (scope.bind name object).Reordered (other.bind name object) :=
  (List.Perm.filter _ same).cons _

end Scope

namespace Frame

variable {frame other : Frame}

/-- The same blocks are bound in an activation. -/
theorem Reordered.blocks (same : frame.Reordered other) : frame.blocks.Perm other.blocks := by
  -- They are those of the nested scopes and that of the body.
  unfold Frame.blocks Frame.scopes
  rw [List.flatMap_append, List.flatMap_append]
  refine (flatMap_perm_of_forall₂ same.nested fun _ _ => Scope.Reordered.blocks).append ?_
  simpa using same.root.blocks

/-- The innermost scopes belong together. -/
theorem Reordered.current (same : frame.Reordered other) :
    frame.current.Reordered other.current := by
  -- Both are nested ones, or both belong to the bodies.
  have nested := same.nested
  unfold Frame.current
  generalize frame.nested = scopes, other.nested = others at nested
  cases nested with
  | nil => exact same.root
  | cons head _ => exact head

/-- Innermost scopes that belong together can be put in place of the old ones. -/
theorem Reordered.setCurrent (same : frame.Reordered other) {scope changed : Scope}
    (bound : scope.Reordered changed) :
    (frame.setCurrent scope).Reordered (other.setCurrent changed) := by
  have nested := same.nested
  unfold Frame.setCurrent
  -- The current scope is the innermost block that is open, or the function's own if none is.
  cases opened : frame.nested with
  | nil =>
    rw [opened, List.forall₂_nil_left_iff] at nested
    rw [nested]
    exact { same with root := bound, nested := .nil }
  | cons first outer =>
    rw [opened, List.forall₂_cons_left_iff] at nested
    obtain ⟨second, rest, -, outers, opened⟩ := nested
    rw [opened]
    exact { same with nested := .cons bound outers }

/-- The order does not matter to what a name stands for in an activation. -/
theorem Reordered.find? (same : frame.Reordered other)
    (distinct : ∀ scope ∈ frame.scopes, scope.Distinct) (name : String) :
    other.find? name = frame.find? name := by
  have root := same.root.find? (distinct frame.root (by simp [scopes])) name
  have inner : ∀ scope ∈ frame.nested, scope.Distinct := fun scope member =>
    distinct scope (by simp [scopes, member])
  have nested := same.nested
  unfold Frame.find?
  rw [root]
  generalize frame.nested = opened, other.nested = others at nested inner
  -- One scope after the other is looked at, from the innermost on.
  induction nested with
  | nil => rfl
  | cons head _ ih =>
    rw [List.findSome?_cons, List.findSome?_cons, head.find? (inner _ (List.mem_cons_self ..))]
    cases Scope.find? _ name with
    | some object => rfl
    | none => exact ih fun scope member => inner scope (List.mem_cons_of_mem _ member)

end Frame

namespace CallStack

variable {stack other : CallStack}

/-- The same blocks are bound on a stack. -/
theorem Reordered.blocks (same : stack.Reordered other) : stack.blocks.Perm other.blocks :=
  flatMap_perm_of_forall₂ same.frames fun _ _ => Frame.Reordered.blocks

/-- The current activations belong together, or there is none on either stack. -/
theorem Reordered.cases (same : stack.Reordered other) :
    (stack.frames = [] ∧ other.frames = []) ∨
      ∃ frame callers changed others, stack.frames = frame :: callers ∧
        other.frames = changed :: others ∧ frame.Reordered changed ∧
        List.Forall₂ Frame.Reordered callers others := by
  have frames := same.frames
  generalize stack.frames = frames, other.frames = changed at frames
  -- As many activations are on both stacks.
  cases frames with
  | nil => exact .inl ⟨rfl, rfl⟩
  | cons head rest => exact .inr ⟨_, _, _, _, rfl, rfl, head, rest⟩

/-- A stack may grow as deep in any order. -/
theorem Reordered.limit (same : stack.Reordered other) : other.limit = stack.limit := by
  unfold CallStack.limit CallStack.depth
  -- The room is the same, and so is the number of activations.
  rw [same.room, same.frames.length_eq]

end CallStack

namespace Context

variable {context other : Context}

/-- The same blocks are held. -/
theorem Reordered.owned (same : context.Reordered other) : context.owned.Perm other.owned := by
  unfold Context.owned
  rw [same.temporaries, same.strings]
  -- Each kind of what is held is listed by itself, and only three of them in some order.
  exact (((same.globals.blocks.append same.stack.blocks).append_right _).append_right _).append
    same.dynamic

/-- The innermost scopes belong together. -/
theorem Reordered.currentScope (same : context.Reordered other) :
    context.currentScope.Reordered other.currentScope := by
  unfold Context.currentScope CallStack.current?
  rcases same.stack.cases with ⟨none, empty⟩ | ⟨frame, callers, changed, others, one, two, head, -⟩
  · -- Outside of every function, names are global.
    rw [none, empty]
    exact same.globals
  · rw [one, two]
    exact head.current

/-- Innermost scopes that belong together can be put in place of the old ones. -/
theorem Reordered.setCurrentScope (same : context.Reordered other) {scope changed : Scope}
    (bound : scope.Reordered changed) :
    (context.setCurrentScope scope).Reordered (other.setCurrentScope changed) := by
  unfold Context.setCurrentScope CallStack.current? CallStack.setCurrent
  rcases same.stack.cases with ⟨none, empty⟩ | ⟨frame, callers, after, others, one, two, head, rest⟩
  · -- Outside of every function, the scope is the global one.
    rw [none, empty]
    exact { same with globals := bound }
  · rw [one, two]
    exact { same with stack := ⟨.cons (head.setCurrent bound) rest, same.stack.room⟩ }

/-- The order does not matter to what a name stands for. -/
theorem Reordered.find? (same : context.Reordered other) (owns : context.Owns) (name : String) :
    other.find? name = context.find? name := by
  unfold Context.find? CallStack.current?
  -- A name that the current function does not bind is looked for among the global ones.
  rw [same.globals.find? owns.globals]
  rcases same.stack.cases with ⟨none, empty⟩ | ⟨frame, callers, after, others, one, two, head, -⟩
  · -- Outside of every function, only global names are found.
    rw [none, empty]
  · have distinct := owns.frames frame (by simp [one])
    simp only [one, two, Option.bind_some, head.find? distinct]

/-- Nor does it to whether the current function has returned. -/
theorem Reordered.hasReturned (same : context.Reordered other) :
    other.hasReturned = context.hasReturned := by
  -- Without an activation there is no return; else both current ones have the same result.
  unfold Context.hasReturned CallStack.current?
  rcases same.stack.cases with ⟨none, empty⟩ | ⟨frame, callers, after, others, one, two, head, -⟩
  · rw [none, empty]
  · simp only [one, two, Option.any_some, Frame.hasReturned, head.returned]

/-- What a host sees of a state does not show the order. -/
theorem Reordered.scene (same : context.Reordered other) : other.scene = context.scene := by
  unfold Context.scene
  -- Heap, output and cursor are all that is seen.
  rw [same.heap, same.terminal, same.cursor]

/-- A host sees the same. -/
theorem Reordered.view (same : context.Reordered other) : other.view = context.view := by
  unfold Context.view
  -- A view is the scene and the record.
  rw [same.scene, same.journal.entries]

/-- A moment of the one state belongs with that of the other. -/
theorem Reordered.moment (same : context.Reordered other) :
    context.moment.Reordered other.moment :=
  ⟨same.scene, same.stack, same.globals, same.temporaries, same.strings, same.dynamic⟩

/-- What is left when everything has been freed is the same. -/
theorem Reordered.tearDown (same : context.Reordered other) :
    context.tearDown.Reordered other.tearDown := by
  -- What is freed is the same list in another order.
  have heap : other.heap.releaseAll other.owned = context.heap.releaseAll context.owned := by
    rw [same.heap, context.heap.releaseAll_perm same.owned]
  exact { same with
    heap
    stack := ⟨.nil, same.stack.limit⟩
    globals := .refl _
    temporaries := rfl
    strings := rfl
    dynamic := .refl _ }

end Context

end StepMachine
