import StepMachine.Proofs.Eval.Steps
import StepMachine.Proofs.Heap.Growth

/-! Whatever a program does, the blocks that it holds lie in its arena, and a request that was
refused stays counted. -/

namespace StepMachine

namespace Context

/-- What the program holds lies in its arena, and nothing else was ever handed out. -/
structure Housed (context : Context) : Prop where
  bounded : context.heap.Bounded
  inside : ∀ block ∈ context.owned, context.heap.Inside block

/-- From one state to a later one what is held stays in the arena, and no refusal is forgotten. -/
structure Houses (before after : Context) : Prop where
  refused : before.refused ≤ after.refused
  housed : before.Housed → after.Housed

namespace Houses

variable {before after : Context}

/-- Nothing has happened. -/
theorem refl (context : Context) : context.Houses context := ⟨Nat.le_refl _, id⟩

/-- What is kept twice has been kept. -/
theorem trans {first second third : Context} (one : first.Houses second)
    (two : second.Houses third) : first.Houses third :=
  ⟨Nat.le_trans one.refused two.refused, two.housed ∘ one.housed⟩

/-- What is held later was held before, or lies in the arena, which is the same. -/
theorem of_owned (refused : before.refused ≤ after.refused)
    (change : before.heap.Bounded → before.heap.SameArena after.heap ∧
      ∀ block ∈ after.owned, block ∈ before.owned ∨ after.heap.Inside block) :
    before.Houses after := by
  -- The arena is the same, so what was inside still is.
  refine ⟨refused, fun housed => ?_⟩
  obtain ⟨same, held⟩ := change housed.bounded
  refine ⟨same.bounded housed.bounded, fun block member => ?_⟩
  rcases held block member with earlier | inside
  · exact same.inside (housed.inside block earlier)
  · exact inside

/-- Nothing is held later that was not before, and the arena is the same. -/
theorem of_subset (refused : after.refused = before.refused)
    (same : before.heap.SameArena after.heap) (owned : after.owned ⊆ before.owned) :
    before.Houses after :=
  of_owned (Nat.le_of_eq refused.symm) fun _ => ⟨same, fun _ member => .inl (owned member)⟩

/-- Neither the heap nor any holder is touched. -/
theorem of_eq (refused : after.refused = before.refused) (heap : after.heap = before.heap)
    (owned : after.owned = before.owned) : before.Houses after :=
  of_subset refused (heap ▸ .refl _) (owned ▸ List.Subset.refl _)

end Houses

/-- What a changed stack holds is part of what the program holds. -/
theorem owned_stack_subset {context : Context} {stack : CallStack}
    (blocks : stack.blocks ⊆ context.stack.blocks) :
    Context.owned { context with stack } ⊆ context.owned := by
  -- Only what the stack holds may have changed.
  intro block
  simp only [owned, List.mem_append]
  have inner : block ∈ stack.blocks → block ∈ context.stack.blocks := fun member => blocks member
  grind

/-- What the innermost scope holds is part of what the program holds. -/
theorem currentScope_subset_owned (context : Context) :
    context.currentScope.blocks ⊆ context.owned := by
  -- Outside of functions the innermost scope is the global one.
  intro block
  unfold currentScope CallStack.current?
  cases frames : context.stack.frames with
  | nil =>
    simp only [owned, List.mem_append]
    grind
  | cons frame callers =>
    simp only [owned, List.mem_append, CallStack.blocks, frames, List.flatMap_cons, Frame.blocks,
      Frame.scopes, Frame.current]
    -- The scope belongs to a block or is that of the body.
    cases nested : frame.nested with
    | nil =>
      simp only [List.headD_nil, List.nil_append, List.flatMap_cons, List.flatMap_nil,
        List.append_nil]
      grind
    | cons inner outer =>
      simp only [List.headD_cons, List.cons_append, List.flatMap_cons, List.mem_append]
      grind

/-- Of what is held when the innermost scope is replaced, all that it does not hold was held
before. -/
theorem mem_owned_setCurrentScope {context : Context} {scope : Scope} {block : Block}
    (member : block ∈ (context.setCurrentScope scope).owned) :
    block ∈ context.owned ∨ block ∈ scope.blocks := by
  -- Outside of functions it is the global scope that is replaced.
  revert member
  unfold setCurrentScope CallStack.current?
  cases frames : context.stack.frames with
  | nil =>
    simp only [owned, List.mem_append]
    grind
  | cons frame callers =>
    -- The scope belongs to a block or is that of the body.
    simp only [owned, List.mem_append, CallStack.setCurrent, CallStack.blocks, frames,
      List.flatMap_cons, Frame.blocks, Frame.scopes, Frame.setCurrent]
    cases nested : frame.nested with
    | nil =>
      simp only [List.nil_append, List.flatMap_cons, List.flatMap_nil, List.append_nil]
      grind
    | cons inner outer =>
      simp only [List.cons_append, List.flatMap_cons, List.mem_append]
      grind

end Context

/-- What keeps the program housed, however it ends. -/
def Effect.housing : Effect := .steady Context.Houses .refl .trans

namespace Exec

open Effect (housing)

/-- An edit that leaves the arena as it is. -/
theorem edit_houses {change : Edit RuntimeError α}
    (arena : ∀ heap : Heap, heap.Bounded → heap.SameArena (Edit.after change heap)) :
    Obeys housing (edit change) := by
  -- The arena is the same however the edit ends.
  intro context
  have same := arena context.heap
  unfold Edit.after at same
  rw [edit_run]
  -- An edit that fails leaves the arena as well.
  cases ran : change context.heap with
  | ok result heap =>
    rw [ran] at same
    exact .of_owned (Nat.le_refl _) fun bounded => ⟨same bounded, fun _ member => .inl member⟩
  | error cause heap =>
    rw [ran] at same
    exact .of_owned (Nat.le_refl _) fun bounded => ⟨same bounded, fun _ member => .inl member⟩

/-- An edit that writes bytes only. -/
theorem edit_houses_of_rewrites {change : Edit RuntimeError α}
    (rewrites : ∀ heap : Heap, heap.Rewritten (Edit.after change heap)) :
    Obeys housing (edit change) :=
  edit_houses fun heap _ => .of_rewritten (rewrites heap)

/-- A change that touches neither the heap nor any holder. -/
theorem modify_houses {change : Context → Context}
    (refused : ∀ context, (change context).refused = context.refused)
    (heap : ∀ context, (change context).heap = context.heap)
    (owned : ∀ context, (change context).owned = context.owned) :
    Obeys housing (modify change) :=
  Obeys.modify fun context => .of_eq (refused context) (heap context) (owned context)

/-- A temporary object lies in the arena. -/
theorem temporary_houses (type : CType) : Obeys housing (temporary type) := by
  intro context
  -- The object is made inside the arena, if it is made at all.
  have inside := fun bounded : context.heap.Bounded => Variable.allocate_inside bounded type
  rw [temporary_run]
  cases allocated : Variable.allocate type context.heap with
  | error cause heap =>
    rw [allocated] at inside
    exact .of_owned (Nat.le_refl _) fun bounded => ⟨inside bounded, fun _ member => .inl member⟩
  | ok object heap =>
    rw [allocated] at inside
    refine .of_owned (Nat.le_refl _) fun bounded => ⟨(inside bounded).1, fun block member => ?_⟩
    -- The new object is the last of the temporary ones.
    by_cases new : block = object.block
    · subst new
      exact .inr (inside bounded).2
    · simp only [Context.owned, List.mem_append, Array.toList_push, List.map_append, List.map_cons,
        List.map_nil, List.mem_singleton] at member ⊢
      grind

/-- Storage for a returned structure is a temporary object. -/
theorem returnBuffer_houses (type : CType) : Obeys housing (returnBuffer type) := by
  -- A structure is given a temporary object; any other result needs none.
  unfold returnBuffer
  split
  · refine Obeys.bind (temporary_houses type) fun object => Obeys.bind ?_ fun block => Obeys.pure _
    cases object.block.slice 0 object.block.size with
    | ok block => exact Obeys.pure block
    | error cause => exact Obeys.throw _
  · exact Obeys.pure none

/-- A block that the program asks for lies in the arena, and a refusal is counted. -/
theorem mallocOrNull_houses (size : Nat) : Obeys housing (Builtin.mallocOrNull size) := by
  intro context
  rw [mallocOrNull_run]
  -- The heap grants the request, or it refuses.
  cases allocated : Heap.allocate size context.heap with
  | ok block heap =>
    refine .of_owned (Nat.le_refl _) fun bounded => ?_
    obtain ⟨same, inside⟩ := Heap.allocate_inside bounded allocated
    refine ⟨same, fun other member => ?_⟩
    -- The new block is the first of those that the program asked for.
    by_cases new : other = block
    · subst new
      exact .inr inside
    · simp only [Context.owned, List.mem_append, List.mem_cons] at member ⊢
      grind
  | error cause heap =>
    rw [Heap.allocate_error allocated]
    cases cause with
    -- Want of room is counted, so that the count may only grow.
    | outOfMemory requested available =>
      exact .of_owned (Nat.le_succ _) fun _ => ⟨.refl _, fun _ member => .inl member⟩
    | _ => exact .refl context

/-- A block that is given back is not held any more. -/
theorem free_houses (address : Address) : Obeys housing (free address) := by
  intro context
  rw [free_run]
  -- The block is found and freed, or the address is refused.
  cases context.dynamic.find? (·.address = address) with
  | none => exact .refl context
  | some block =>
    refine .of_subset rfl (Heap.releaseAll_sameArena ..) fun other => ?_
    simp only [Context.owned, List.mem_append, List.mem_filter]
    grind

/-- A structure that is handed over is written to storage that is held already. -/
theorem handOver_houses (value : Value) : Obeys housing (handOver value) := by
  -- Only with storage for a structure is anything written.
  refine Obeys.bind Obeys.get fun context => ?_
  split
  · refine Obeys.bind (edit_houses_of_rewrites fun heap => ?_) fun _ => Obeys.pure _
    rw [Edit.after_liftMemory]
    exact Block.fillFrom_rewrites ..
  · exact Obeys.pure _

/-- Writing a text changes nothing but bytes. -/
theorem writeText_rewrites (block : Block) (bytes : List UInt8) (heap : Heap) :
    heap.Rewritten (Edit.after (block.writeText bytes) heap) := by
  -- The text comes first, and its end is written only if that succeeds.
  have text := block.write_rewrites 0 bytes heap
  unfold Edit.after at text ⊢
  unfold Block.writeText
  rw [bind_run]
  cases wrote : block.write 0 bytes heap with
  | error cause last =>
    rw [wrote] at text
    exact text
  | ok _ middle =>
    rw [wrote] at text
    exact text.trans (block.write_rewrites bytes.length [0] middle)

/-- A literal that is laid out lies in the arena. -/
theorem loadString_houses (literal : String) : Obeys housing (loadString literal) := by
  intro context
  rw [loadString_run]
  -- The block is had or refused, and then written or given back.
  cases allocated : Heap.allocate ((utf8Bytes literal).length + 1) context.heap with
  | error cause heap =>
    rw [Heap.allocate_error allocated]
    exact .refl context
  | ok block heap =>
    have written := Heap.SameArena.of_rewritten
      (writeText_rewrites block (utf8Bytes literal) heap)
    unfold Edit.after at written
    simp only
    cases wrote : block.writeText (utf8Bytes literal) heap with
    | ok _ last =>
      rw [wrote] at written
      refine .of_owned (Nat.le_refl _) fun bounded => ?_
      obtain ⟨same, inside⟩ := Heap.allocate_inside bounded allocated
      refine ⟨same.trans written, fun other member => ?_⟩
      -- The new block is the last of the table.
      by_cases new : other = block
      · subst new
        exact .inr (written.inside inside)
      · simp only [Context.owned, List.mem_append, Array.toList_push, List.mem_singleton]
          at member ⊢
        grind
    | error cause last =>
      -- The block is given back, and the table stays as it is.
      rw [wrote] at written
      refine .of_owned (Nat.le_refl _) fun bounded => ⟨?_, fun _ member => .inl member⟩
      exact ((Heap.allocate_inside bounded allocated).1.trans written).trans
        (Heap.releaseAll_sameArena ..)

/-- A declared object lies in the arena. -/
theorem declare_houses (name : String) (type : CType) (init : Option Value) :
    Obeys housing (declare name type init) := by
  intro context
  -- The object is made inside the arena, if it is made at all.
  have inside := fun bounded : context.heap.Bounded => Variable.create_inside bounded type init
  rw [declare_run]
  cases made : Variable.create type init context.heap with
  | error cause heap =>
    rw [made] at inside
    exact .of_owned (Nat.le_refl _) fun bounded => ⟨inside bounded, fun _ member => .inl member⟩
  | ok object heap =>
    rw [made] at inside
    have freed := heap.releaseAll_sameArena
      ((context.currentScope.find? name).toList.map (·.block))
    -- Whichever scope the name is bound in, no refusal is counted.
    have refused : (context.setCurrentScope (context.currentScope.bind name object)).refused =
        context.refused := by
      unfold Context.setCurrentScope
      cases context.stack.current? <;> rfl
    refine .of_owned (Nat.le_of_eq refused.symm) fun bounded => ?_
    refine ⟨(inside bounded).1.trans freed, fun block member => ?_⟩
    rcases Context.mem_owned_setCurrentScope member with earlier | bound
    · exact .inl earlier
    · -- The scope holds the new object, and what the other names stood for.
      rcases List.mem_cons.mp bound with rfl | other
      · exact .inr (freed.inside (inside bounded).2)
      · have kept := List.map_subset _ List.filter_sublist.subset other
        exact .inl (context.currentScope_subset_owned kept)

/-- Recording a result changes nothing of what is held. -/
theorem markReturned_houses (value : Value) : Obeys housing (markReturned value) := by
  intro context
  rw [markReturned_run]
  -- A result is recorded in the current activation, if there is one.
  cases frames : context.stack.frames with
  | nil => exact .refl context
  | cons frame callers =>
    simp only
    split
    · exact .refl context
    · refine .of_subset rfl (.refl _) (Context.owned_stack_subset ?_)
      simp only [CallStack.blocks, frames, List.flatMap_cons]
      exact List.Subset.refl _

/-- A block that is opened holds nothing yet. -/
theorem pushScope_houses : Obeys housing pushScope := by
  intro context
  rw [pushScope_run]
  -- A scope is opened in the current activation, if there is one.
  cases frames : context.stack.frames with
  | nil => exact .refl context
  | cons frame callers =>
    refine .of_subset rfl (.refl _) (Context.owned_stack_subset ?_)
    simp only [CallStack.blocks, frames, List.flatMap_cons]
    exact List.Subset.refl _

/-- A block that is closed holds nothing any more. -/
theorem popScope_houses : Obeys housing popScope := by
  intro context
  rw [popScope_run]
  -- The current activation must have a scope to close, beside that of its body.
  cases frames : context.stack.frames with
  | nil => exact .refl context
  | cons frame callers =>
    simp only
    cases nested : frame.nested with
    | nil => exact .refl context
    | cons scope outer =>
      refine .of_subset rfl (Heap.releaseAll_sameArena ..) (Context.owned_stack_subset ?_)
      simp only [CallStack.blocks, Frame.blocks, Frame.scopes, frames, nested, List.cons_append,
        List.flatMap_cons, List.append_assoc]
      exact List.subset_append_right ..

/-- An activation that is entered holds nothing yet. -/
theorem pushFrame_houses (function : String) (buffer : Option Block) :
    Obeys housing (pushFrame function buffer) := by
  intro context
  rw [pushFrame_run]
  -- Only with room left is an activation entered.
  cases context.stack.room with
  | zero => exact .refl context
  | succ room =>
    exact .of_subset rfl (.refl _) (Context.owned_stack_subset (List.Subset.refl _))

/-- An activation that is left holds nothing any more. -/
theorem popFrame_houses : Obeys housing popFrame := by
  intro context
  rw [popFrame_run]
  -- There has to be an activation to leave.
  cases frames : context.stack.frames with
  | nil => exact .refl context
  | cons frame callers =>
    refine .of_subset rfl (Heap.releaseAll_sameArena ..) (Context.owned_stack_subset ?_)
    simp only [CallStack.blocks, frames, List.flatMap_cons]
    exact List.subset_append_right ..

/-- Temporary objects that are released are not held any more. -/
theorem releaseTemporaries_houses (mark : Nat) : Obeys housing (releaseTemporaries mark) := by
  intro context
  rw [releaseTemporaries_run]
  refine .of_subset rfl (Heap.releaseAll_sameArena ..) fun block member => ?_
  -- Those that stay were there before.
  have shrunk : (context.temporaries.shrink mark).toList =
      context.temporaries.toList.take mark := by
    simp
  have older : block ∈ (context.temporaries.toList.take mark).map (·.block) →
      block ∈ context.temporaries.toList.map (·.block) :=
    fun inside => List.map_subset _ (List.take_subset ..) inside
  simp only [Context.dropTemporaries, Context.owned, List.mem_append, shrunk] at member ⊢
  grind

/-- Being let in changes nothing of what is held. -/
theorem enter_houses (location : Location) : Obeys housing (enter location) := by
  intro context
  -- Being let in or not, what is held and where it lies are the same.
  cases allowed : context.grants with
  | zero =>
    rw [enter_without allowed]
    exact .of_eq rfl rfl rfl
  | succ grants =>
    rw [enter_with allowed]
    exact .of_eq rfl rfl rfl

/-- Every single step keeps a program housed. -/
theorem steps_house : SingleSteps housing where
  store address type value := edit_houses_of_rewrites (Heap.store_rewrites address type value)
  returnBuffer := returnBuffer_houses
  print _ := modify_houses (fun _ => rfl) (fun _ => rfl) fun _ => rfl
  mallocOrNull := mallocOrNull_houses
  free := free_houses
  handOver := handOver_houses
  loadString := loadString_houses
  declare := declare_houses
  markReturned := markReturned_houses
  pushScope := pushScope_houses
  popScope := popScope_houses
  pushFrame := pushFrame_houses
  popFrame := popFrame_houses
  releaseTemporaries := releaseTemporaries_houses
  enter := enter_houses
  activate _ _ := .of_eq rfl rfl rfl

end Exec

end StepMachine
