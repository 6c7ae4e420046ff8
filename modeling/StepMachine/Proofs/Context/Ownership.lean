import StepMachine.Proofs.Eval.Steps
import StepMachine.Proofs.Stack.Variable

/-! Every block that a program holds is held by the heap, and by nothing else, whatever the program
does. -/

namespace StepMachine

/-- Each name stands at most once. -/
def Scope.Distinct (scope : Scope) : Prop := scope.names.Nodup

namespace Scope

/-- Binding a name keeps the names apart. -/
theorem Distinct.bind {scope : Scope} (distinct : scope.Distinct) (name : String)
    (object : Variable) : (scope.bind name object).Distinct := by
  unfold Distinct names Scope.bind
  rw [List.map_cons, List.nodup_cons]
  refine ⟨fun member => ?_, ?_⟩
  · -- What is left of the bindings has other names.
    obtain ⟨binding, kept, same⟩ := List.mem_map.mp member
    have other := (List.mem_filter.mp kept).2
    simp [same] at other
  · exact List.Nodup.sublist (List.Sublist.map _ List.filter_sublist) distinct

/-- What a scope holds is what a name stands for there, and what the other names stand for. -/
theorem Distinct.blocks_perm {scope : Scope} (distinct : scope.Distinct) (name : String) :
    scope.blocks.Perm ((scope.find? name).toList.map (·.block) ++
      (scope.bindings.filter (·.1 ≠ name)).map (·.2.block)) := by
  unfold Distinct names at distinct
  unfold blocks find?
  generalize scope.bindings = bindings at distinct
  -- A name stands in one binding at most, so the search finds it or it is nowhere.
  induction bindings with
  | nil => exact .nil
  | cons binding rest ih =>
    obtain ⟨other, object⟩ := binding
    rw [List.map_cons, List.nodup_cons] at distinct
    by_cases same : other = name
    · subst same
      -- The name is not bound again in the rest.
      have others : rest.filter (·.1 ≠ other) = rest := by
        rw [List.filter_eq_self]
        intro binding member
        simp only [ne_eq, decide_eq_true_eq]
        intro again
        exact distinct.1 (List.mem_map.mpr ⟨binding, member, again⟩)
      have found : List.lookup other ((other, object) :: rest) = some object := by simp
      rw [found, List.filter_cons, if_neg (by simp), others]
      exact .refl _
    · -- Another name is passed over, and stays among the others.
      have unequal : (name == other) = false := by
        simp only [beq_eq_false_iff_ne, ne_eq]
        exact fun equal => same equal.symm
      rw [List.lookup_cons, unequal, List.filter_cons, if_pos (by simpa using same), List.map_cons,
        List.map_cons]
      exact ((ih distinct.2).cons _).trans List.perm_middle.symm

end Scope

namespace Context

/-- The state of a program that holds its own: the heap holds what the program holds, and each scope
binds a name at most once. -/
structure Owns (context : Context) : Prop where
  holds : context.heap.Holds context.owned
  globals : context.globals.Distinct
  frames : ∀ frame ∈ context.stack.frames, ∀ scope ∈ frame.scopes, scope.Distinct

namespace Owns

variable {before after : Context}

/-- A change of what is held that the heap has made as well, and that binds no name. -/
theorem of_perm (owns : before.Owns) {blocks : List Block} (holds : after.heap.Holds blocks)
    (same : blocks.Perm after.owned) (globals : after.globals = before.globals)
    (stack : after.stack = before.stack) : after.Owns where
  -- The heap holds what the program is said to hold now.
  holds := holds.perm same
  globals := by
    rw [globals]
    exact owns.globals
  frames := by
    rw [stack]
    exact owns.frames

/-- Writing bytes changes nothing of what is held. -/
theorem rewritten (owns : before.Owns) {heap : Heap} (rewritten : before.heap.Rewritten heap) :
    Owns { before with heap } :=
  ⟨rewritten.holds owns.holds, owns.globals, owns.frames⟩

end Owns

/-- The innermost scope binds a name at most once. -/
theorem Owns.currentScope {context : Context} (owns : context.Owns) :
    context.currentScope.Distinct := by
  unfold Context.currentScope CallStack.current?
  -- Outside of functions the innermost scope is the global one.
  cases frames : context.stack.frames with
  | nil => exact owns.globals
  | cons frame callers =>
    refine owns.frames frame (by simp [frames]) frame.current ?_
    unfold Frame.current Frame.scopes
    cases frame.nested <;> simp

/-- Replacing the innermost scope by one that binds a name at most once leaves no other scope. -/
theorem Owns.setCurrentScope {context : Context} (owns : context.Owns) {scope : Scope}
    (distinct : scope.Distinct) :
    (context.setCurrentScope scope).globals.Distinct ∧
      ∀ frame ∈ (context.setCurrentScope scope).stack.frames,
        ∀ scope ∈ frame.scopes, scope.Distinct := by
  unfold Context.setCurrentScope CallStack.current?
  -- Outside of functions the global scope is replaced, and inside a scope of the current one.
  cases frames : context.stack.frames with
  | nil => exact ⟨distinct, owns.frames⟩
  | cons frame callers =>
    refine ⟨owns.globals, fun changed member inner inside => ?_⟩
    simp only [CallStack.setCurrent, frames, List.mem_cons] at member
    have current := owns.frames frame (by simp [frames])
    rcases member with rfl | member
    · -- Either the innermost scope itself or one that was there before.
      unfold Frame.scopes at current inside
      unfold Frame.setCurrent at inside
      cases nested : frame.nested with
      | nil =>
        simp only [nested, List.nil_append, List.mem_singleton] at inside
        rw [inside]
        exact distinct
      | cons first outer =>
        simp only [nested, List.cons_append, List.mem_cons] at inside current
        rcases inside with rfl | inside
        · exact distinct
        · exact current inner (.inr inside)
    · exact owns.frames changed (by simp [frames, member]) inner inside

/-- What is held, one kind of holder after the other. -/
theorem count_owned (context : Context) (block : Block) :
    context.owned.count block = context.globals.blocks.count block +
      context.stack.blocks.count block +
      (context.temporaries.toList.map (·.block)).count block +
      context.strings.toList.count block + context.dynamic.count block := by
  unfold owned
  simp only [List.count_append]

/-- A change of the stack that frees what goes: all else that the program holds stays where it
is. -/
theorem Owns.exchangeStack {context : Context} (owns : context.Owns) {stack : CallStack}
    {freed : List Block} (split : context.stack.blocks.Perm (freed ++ stack.blocks))
    (distinct : ∀ frame ∈ stack.frames, ∀ scope ∈ frame.scopes, scope.Distinct) :
    Owns { context with stack, heap := context.heap.releaseAll freed } := by
  -- Only what the stack holds is exchanged.
  have all : context.owned.Perm (freed ++ Context.owned { context with stack }) := by
    refine List.perm_iff_count.mpr fun block => ?_
    have split := List.perm_iff_count.mp split block
    rw [List.count_append] at split ⊢
    rw [count_owned, count_owned]
    dsimp only
    omega
  exact ⟨(owns.holds.perm all).releaseAll, owns.globals, distinct⟩

end Context

/-- What the activations of a stack hold is what the current one holds, and the others. -/
theorem CallStack.count_blocks (frame : Frame) (callers : List Frame) (room : Nat) (block : Block) :
    ({ frames := frame :: callers, room } : CallStack).blocks.count block =
      frame.blocks.count block + (callers.flatMap (·.blocks)).count block := by
  -- The stack lists the blocks of its activations one after the other.
  unfold CallStack.blocks
  rw [List.flatMap_cons, List.count_append]

/-- What an activation holds is what its open blocks hold, and its body. -/
theorem Frame.count_blocks (frame : Frame) (block : Block) :
    frame.blocks.count block =
      (frame.nested.flatMap (·.blocks)).count block + frame.root.blocks.count block := by
  -- An activation lists the innermost scope first, and that of its body last.
  unfold Frame.blocks Frame.scopes
  simp [List.count_append]

/-- Replacing the innermost scope of an activation exchanges what that holds. -/
theorem Frame.count_setCurrent (frame : Frame) (scope : Scope) (block : Block) :
    (frame.setCurrent scope).blocks.count block + frame.current.blocks.count block =
      frame.blocks.count block + scope.blocks.count block := by
  rw [Frame.count_blocks, Frame.count_blocks]
  unfold Frame.setCurrent Frame.current
  -- The innermost scope is that of a block or that of the body.
  cases nested : frame.nested with
  | nil =>
    simp
    omega
  | cons inner outer =>
    simp [List.count_append]
    omega

/-- Replacing the innermost scope exchanges what that holds. -/
theorem Context.count_setCurrentScope (context : Context) (scope : Scope) (block : Block) :
    (context.setCurrentScope scope).owned.count block + context.currentScope.blocks.count block =
      context.owned.count block + scope.blocks.count block := by
  rw [Context.count_owned, Context.count_owned]
  unfold Context.setCurrentScope Context.currentScope CallStack.current?
  cases stack : context.stack with
  | mk frames room =>
    -- Either the global scope is exchanged or a scope of the current activation.
    cases frames with
    | nil =>
      simp only
      omega
    | cons frame callers =>
      have exchanged := frame.count_setCurrent scope block
      simp only [CallStack.setCurrent, CallStack.count_blocks]
      omega

/-- What keeps a program holding its own, however it ends. -/
def Effect.ownership : Effect := .keeping Context.Owns

/-- What writes bytes and does nothing else, however it ends. -/
def Effect.rewriting : Effect :=
  .steady (fun before after => ∃ heap, before.heap.Rewritten heap ∧ after = { before with heap })
    (fun context => ⟨context.heap, .refl _, rfl⟩)
    (by
      rintro first second third ⟨one, rewritten, rfl⟩ ⟨two, again, rfl⟩
      exact ⟨two, rewritten.trans again, rfl⟩)

namespace Exec

open Effect (ownership rewriting)

/-- An edit that writes bytes only. -/
theorem edit_rewrites {change : Edit RuntimeError α}
    (rewrites : ∀ heap : Heap, heap.Rewritten (Edit.after change heap)) :
    Obeys rewriting (edit change) := by
  -- The heap has been rewritten however the edit ends.
  intro context
  have rewritten := rewrites context.heap
  unfold Edit.after at rewritten
  rw [edit_run]
  -- An edit that fails may have written some bytes before.
  cases ran : change context.heap with
  | ok result heap =>
    rw [ran] at rewritten
    exact ⟨heap, rewritten, rfl⟩
  | error cause heap =>
    rw [ran] at rewritten
    exact ⟨heap, rewritten, rfl⟩

/-- Writing through a block, as a step of a program. -/
theorem write_rewrites (block : Block) (offset : Nat) (bytes : List UInt8) :
    Obeys rewriting (liftM (block.write offset bytes) : Exec Unit) := by
  refine edit_rewrites fun heap => ?_
  rw [Edit.after_liftMemory]
  exact block.write_rewrites offset bytes heap

/-- What only writes bytes changes nothing of what is held. -/
theorem owns_of_rewriting {run : Exec α} (obeys : Obeys rewriting run) : Obeys ownership run := by
  -- The bytes belong to nobody's holdings.
  refine fun context => (Effect.allows_iff rfl).mpr fun owns => ?_
  obtain ⟨heap, rewritten, same⟩ := (Effect.allows_iff rfl).mp (obeys context)
  rw [same]
  exact owns.rewritten rewritten

/-- A change that leaves the heap and every holder alone. -/
theorem modify_owns {change : Context → Context}
    (heap : ∀ context, (change context).heap = context.heap)
    (owned : ∀ context, (change context).owned = context.owned)
    (globals : ∀ context, (change context).globals = context.globals)
    (stack : ∀ context, (change context).stack = context.stack) :
    Obeys ownership (modify change) := by
  -- The state is the same in all that the books are about.
  refine Obeys.modify fun context owns => ?_
  refine owns.of_perm ?_ (.refl _) (globals context) (stack context)
  rw [heap, owned]
  exact owns.holds

/-- A temporary object is held. -/
theorem temporary_owns (type : CType) : Obeys ownership (temporary type) := by
  intro context
  -- The object is made first; only then is it known to the program.
  have made : (liftM (Variable.allocate type) : Exec Variable) =
    edit (Variable.allocate type) := rfl
  simp only [temporary, bind_run, made, edit_run]
  cases allocated : Variable.allocate type context.heap with
  | error cause heap =>
    intro owns
    have holds := Variable.allocate_holds type owns.holds
    rw [allocated] at holds
    exact owns.of_perm holds (.refl _) rfl rfl
  | ok object heap =>
    intro owns
    have holds := Variable.allocate_holds type owns.holds
    rw [allocated] at holds
    -- The new object is the last of the temporary ones.
    refine owns.of_perm holds (List.perm_iff_count.mpr fun block => ?_) rfl rfl
    rw [List.count_cons, Context.count_owned, Context.count_owned]
    simp [List.count_append, List.count_singleton]
    omega

/-- Storage for a returned structure is held. -/
theorem returnBuffer_owns (type : CType) : Obeys ownership (returnBuffer type) := by
  -- A structure is given a temporary object; any other result needs none.
  unfold returnBuffer
  split
  · refine Obeys.bind (temporary_owns type) fun object => Obeys.bind ?_ fun block => Obeys.pure _
    -- The program holds the object, and what is handed out is a view of it.
    cases object.block.slice 0 object.block.size with
    | ok block => exact Obeys.pure block
    | error cause => exact Obeys.throw _
  · exact Obeys.pure none

/-- A block that the program asks for is held. -/
theorem malloc_owns (size : Nat) : Obeys ownership (malloc size) := by
  intro context
  -- The request is a change of the heap, and only its success is noted.
  have made : (liftM (Heap.allocate size) : Exec Block) = edit (liftMemory (Heap.allocate size)) :=
    rfl
  simp only [malloc, bind_run, made, edit_run, liftMemory]
  cases allocated : Heap.allocate size context.heap with
  | error cause heap =>
    intro owns
    -- A refused request leaves the heap as it was.
    rw [Heap.allocate_error allocated]
    exact owns
  | ok block heap =>
    intro owns
    have holds := Heap.allocate_holds owns.holds allocated
    -- The new block is the first of those that the program asked for.
    refine owns.of_perm holds (List.perm_iff_count.mpr fun other => ?_) rfl rfl
    rw [List.count_cons, Context.count_owned, Context.count_owned]
    simp only [List.count_cons]
    omega

/-- A request for memory, granted or refused, leaves the program with what it holds. -/
theorem mallocOrNull_owns (size : Nat) : Obeys ownership (Builtin.mallocOrNull size) := by
  -- What is kept does not depend on how the request ends.
  show Obeys ownership.whole _
  have asked : Obeys ownership.whole (malloc size) := malloc_owns size
  refine Obeys.tryCatch (Obeys.bind asked fun address => Obeys.pure _) fun reason => ?_
  split
  · -- To be refused is counted, which nobody holds.
    exact Obeys.bind (modify_owns (fun _ => rfl) (fun _ => rfl) (fun _ => rfl) fun _ => rfl)
      fun _ => Obeys.pure _
  · -- Any other refusal goes on, and nothing has changed.
    exact Obeys.throw _

/-- Of blocks with different addresses, the one that is found by its address is the only one that
is sorted out by it. -/
theorem find_perm_filter {blocks : List Block} {block : Block} {address : Address}
    (apart : blocks.Pairwise fun one other => one.address ≠ other.address)
    (found : blocks.find? (·.address = address) = some block) :
    blocks.Perm (block :: blocks.filter (·.address ≠ address)) := by
  -- The induction is on the blocks.
  induction blocks with
  | nil => cases found
  | cons first rest ih =>
    rw [List.pairwise_cons] at apart
    -- The first block that starts there is the only one that does.
    by_cases here : first.address = address
    · have found : first = block := by simpa [here] using found
      subst found
      have others : rest.filter (·.address ≠ address) = rest := by
        rw [List.filter_eq_self]
        intro other member
        have different := apart.1 other member
        simp only [ne_eq, decide_eq_true_eq]
        exact fun same => different (here.trans same.symm)
      rw [List.filter_cons, if_neg (by simpa using here), others]
    · have later : rest.find? (·.address = address) = some block := by simpa [here] using found
      rw [List.filter_cons, if_pos (by simpa using here)]
      exact ((ih apart.2 later).cons first).trans (.swap ..)

/-- Giving a block back frees it, and nothing else is given back with it. -/
theorem free_owns (address : Address) : Obeys ownership (free address) := by
  intro context
  simp only [free, bind_run, get_run]
  -- An address that the program does not hold is refused.
  cases found : context.dynamic.find? (·.address = address) with
  | none => exact fun owns => owns
  | some block =>
    intro owns
    -- No two blocks start at the same address, so only one is taken out.
    have apart : context.dynamic.Pairwise fun one other => one.address ≠ other.address :=
      owns.holds.addresses.sublist (List.sublist_append_right ..)
    have split := List.perm_iff_count.mp (find_perm_filter apart found)
    have holds : context.heap.Holds (block :: Context.owned { context with
        dynamic := context.dynamic.filter (·.address ≠ address) }) := by
      refine owns.holds.perm (List.perm_iff_count.mpr fun other => ?_)
      have split := split other
      rw [List.count_cons] at split ⊢
      rw [Context.count_owned, Context.count_owned]
      dsimp only
      omega
    exact owns.of_perm holds.release (.refl _) rfl rfl

/-- A structure that is handed over is written to storage that is held already. -/
theorem handOver_owns (value : Value) : Obeys ownership (handOver value) := by
  -- Only with storage for a structure is anything written.
  refine Obeys.bind Obeys.get fun context => ?_
  split
  · refine Obeys.bind (owns_of_rewriting (edit_rewrites fun heap => ?_)) fun _ => Obeys.pure _
    rw [Edit.after_liftMemory]
    exact Block.fillFrom_rewrites ..
  · exact Obeys.pure _

/-- A literal that is laid out is held, and one that cannot be written gives its block back. -/
theorem loadString_owns (literal : String) : Obeys ownership (loadString literal) := by
  intro context
  -- The request is a change of the heap, as in every other step.
  have made (size : Nat) :
      (liftM (Heap.allocate size) : Exec Block) = edit (liftMemory (Heap.allocate size)) := rfl
  simp only [loadString, bind_run, made, edit_run, liftMemory]
  cases allocated : Heap.allocate ((utf8Bytes literal).length + 1) context.heap with
  | error cause heap =>
    intro owns
    rw [Heap.allocate_error allocated]
    exact owns
  | ok block heap =>
    -- Writing the text and its end changes nothing but bytes.
    have written : Obeys rewriting (do
        block.write 0 (utf8Bytes literal)
        block.write (utf8Bytes literal).length [0] : Exec Unit) :=
      Obeys.bind (write_rewrites block 0 _) fun _ => write_rewrites block _ _
    have written := written { context with heap }
    simp only [tryCatch_run]
    cases ran : (do
        block.write 0 (utf8Bytes literal)
        block.write (utf8Bytes literal).length [0] : Exec Unit) { context with heap } with
    | ok _ last =>
      rw [ran] at written
      obtain ⟨final, rewritten, rfl⟩ := written
      intro owns
      have holds := rewritten.holds (Heap.allocate_holds owns.holds allocated)
      refine owns.of_perm holds (List.perm_iff_count.mpr fun other => ?_) rfl rfl
      rw [List.count_cons, Context.count_owned, Context.count_owned]
      simp [List.count_append, List.count_singleton]
      omega
    | error reason last =>
      rw [ran] at written
      obtain ⟨final, rewritten, rfl⟩ := written
      intro owns
      -- The block is given back, whatever was written to it.
      have holds := rewritten.holds (Heap.allocate_holds owns.holds allocated)
      exact owns.of_perm holds.release (.refl _) rfl rfl

/-- A declaration holds the new object in place of what the name stood for. -/
theorem declare_owns (name : String) (type : CType) (init : Option Value) :
    Obeys ownership (declare name type init) := by
  intro context
  -- The object is made first, and the name is bound only if that succeeds.
  rw [declare_run]
  cases made : Variable.create type init context.heap with
  | error cause heap =>
    intro owns
    have holds := Variable.create_holds type init owns.holds
    rw [made] at holds
    exact owns.of_perm holds (.refl _) rfl rfl
  | ok object heap =>
    intro owns
    have holds := Variable.create_holds type init owns.holds
    rw [made] at holds
    have distinct : context.currentScope.Distinct := owns.currentScope
    -- What was held and the new object are what is held now and what is freed.
    have split : (object.block :: context.owned).Perm
        ((context.currentScope.find? name).toList.map (·.block) ++
          (context.setCurrentScope (context.currentScope.bind name object)).owned) := by
      refine List.perm_iff_count.mpr fun block => ?_
      have exchanged :=
        context.count_setCurrentScope (context.currentScope.bind name object) block
      have parts := List.perm_iff_count.mp (distinct.blocks_perm name) block
      have new : (context.currentScope.bind name object).blocks = object.block ::
          (context.currentScope.bindings.filter (·.1 ≠ name)).map (·.2.block) := rfl
      rw [new, List.count_cons] at exchanged
      rw [List.count_append] at parts ⊢
      rw [List.count_cons]
      omega
    -- The new binding replaces the old one, so the name still stands once.
    have kept := owns.setCurrentScope (distinct.bind name object)
    exact ⟨(holds.perm split).releaseAll, kept.1, kept.2⟩

/-- Marking a return changes nothing of what is held. -/
theorem markReturned_owns (value : Value) : Obeys ownership (markReturned value) := by
  intro context
  -- A result is recorded in the current activation, if there is one.
  rw [markReturned_run]
  cases frames : context.stack.frames with
  | nil => exact fun owns => owns
  | cons frame callers =>
    simp only
    -- A second return is refused.
    split
    · exact fun owns => owns
    · intro owns
      have same : context.stack.blocks.Perm ([] ++ CallStack.blocks { context.stack with
          frames := { frame with returned := some value } :: callers }) := by
        simp only [CallStack.blocks, frames, List.flatMap_cons]
        exact .refl _
      refine owns.exchangeStack same fun changed member => ?_
      rcases List.mem_cons.mp member with rfl | member
      · exact owns.frames frame (by simp [frames])
      · exact owns.frames changed (by simp [frames, member])

/-- A block that is opened holds nothing yet. -/
theorem pushScope_owns : Obeys ownership pushScope := by
  intro context
  -- A scope is opened in the current activation, if there is one.
  rw [pushScope_run]
  cases frames : context.stack.frames with
  | nil => exact fun owns => owns
  | cons frame callers =>
    intro owns
    have same : context.stack.blocks.Perm ([] ++ CallStack.blocks { context.stack with
        frames := frame.pushScope :: callers }) := by
      simp only [CallStack.blocks, frames, List.flatMap_cons]
      exact .refl _
    refine owns.exchangeStack same fun changed member scope inside => ?_
    rcases List.mem_cons.mp member with rfl | member
    · -- The new scope binds no name.
      simp only [Frame.scopes, Frame.pushScope, List.cons_append, List.mem_cons] at inside
      rcases inside with rfl | inside
      · exact List.nodup_nil
      · exact owns.frames frame (by simp [frames]) scope inside
    · exact owns.frames changed (by simp [frames, member]) scope inside

/-- A block that is closed frees what it held. -/
theorem popScope_owns : Obeys ownership popScope := by
  intro context
  -- The current activation must have a scope to close, beside that of its body.
  rw [popScope_run]
  cases frames : context.stack.frames with
  | nil => exact fun owns => owns
  | cons frame callers =>
    simp only
    cases nested : frame.nested with
    | nil => exact fun owns => owns
    | cons scope outer =>
      intro owns
      -- The block that is closed is the first part of what its activation holds.
      have split : context.stack.blocks.Perm (scope.blocks ++ CallStack.blocks { context.stack with
          frames := { frame with nested := outer } :: callers }) := by
        simp only [CallStack.blocks, Frame.blocks, Frame.scopes, frames, nested, List.cons_append,
          List.flatMap_cons, List.append_assoc]
        exact .refl _
      refine owns.exchangeStack split fun changed member inner inside => ?_
      rcases List.mem_cons.mp member with rfl | member
      · refine owns.frames frame (by simp [frames]) inner ?_
        simp only [Frame.scopes, nested, List.cons_append, List.mem_cons]
        exact .inr inside
      · exact owns.frames changed (by simp [frames, member]) inner inside

/-- An activation that is entered holds nothing yet. -/
theorem pushFrame_owns (function : String) (buffer : Option Block) :
    Obeys ownership (pushFrame function buffer) := by
  intro context
  -- Only with room left is an activation entered.
  rw [pushFrame_run]
  cases context.stack.room with
  | zero => exact fun owns => owns
  | succ room =>
    intro owns
    -- A new activation binds no name.
    have same : context.stack.blocks.Perm ([] ++ CallStack.blocks {
        frames := { function, buffer } :: context.stack.frames, room }) := .refl _
    refine owns.exchangeStack same fun changed member scope inside => ?_
    rcases List.mem_cons.mp member with rfl | member
    · simp only [Frame.scopes, List.nil_append, List.mem_singleton] at inside
      rw [inside]
      exact List.nodup_nil
    · exact owns.frames changed member scope inside

/-- An activation that is left frees what it held. -/
theorem popFrame_owns : Obeys ownership popFrame := by
  intro context
  -- There has to be an activation to leave.
  rw [popFrame_run]
  cases frames : context.stack.frames with
  | nil => exact fun owns => owns
  | cons frame callers =>
    intro owns
    -- The activation that is left is the first part of what the stack holds.
    have split : context.stack.blocks.Perm (frame.blocks ++ CallStack.blocks {
        frames := callers, room := context.stack.room + 1 }) := by
      simp only [CallStack.blocks, frames, List.flatMap_cons]
      exact .refl _
    refine owns.exchangeStack split fun changed member => ?_
    exact owns.frames changed (by simp [frames, member])

/-- Temporary objects that are released are freed. -/
theorem releaseTemporaries_owns (mark : Nat) : Obeys ownership (releaseTemporaries mark) := by
  intro context
  rw [releaseTemporaries_run]
  intro owns
  -- What lies behind the mark is freed, and what lies before it is kept.
  have parts : context.temporaries.toList =
      context.temporaries.toList.take mark ++ context.temporaries.toList.drop mark :=
    (List.take_append_drop ..).symm
  have split : context.owned.Perm ((context.temporaries.toList.drop mark).map (·.block) ++
      Context.owned { context with temporaries := context.temporaries.shrink mark }) := by
    refine List.perm_iff_count.mpr fun block => ?_
    rw [List.count_append, Context.count_owned, Context.count_owned]
    have shrunk : (context.temporaries.shrink mark).toList =
        context.temporaries.toList.take mark := by
      simp
    have total := congrArg (fun list => (list.map (·.block)).count block) parts
    simp only [List.map_append, List.count_append] at total
    simp only [shrunk]
    omega
  exact ⟨(owns.holds.perm split).releaseAll, owns.globals, owns.frames⟩

/-- Being let in changes nothing of what is held. -/
theorem enter_owns (location : Location) : Obeys ownership (enter location) := by
  intro context
  -- Neither the record nor the place in the program holds anything.
  cases allowed : context.grants with
  | zero =>
    rw [enter_without allowed]
    exact fun owns => ⟨owns.holds, owns.globals, owns.frames⟩
  | succ grants =>
    rw [enter_with allowed]
    exact fun owns => ⟨owns.holds, owns.globals, owns.frames⟩

/-- Every single step keeps a program holding its own. -/
theorem steps_own : SingleSteps ownership where
  store address type value :=
    owns_of_rewriting (edit_rewrites (Heap.store_rewrites address type value))
  returnBuffer := returnBuffer_owns
  print _ := modify_owns (fun _ => rfl) (fun _ => rfl) (fun _ => rfl) fun _ => rfl
  mallocOrNull := mallocOrNull_owns
  free := free_owns
  handOver := handOver_owns
  loadString := loadString_owns
  declare := declare_owns
  markReturned := markReturned_owns
  pushScope := pushScope_owns
  popScope := popScope_owns
  pushFrame := pushFrame_owns
  popFrame := popFrame_owns
  releaseTemporaries := releaseTemporaries_owns
  enter := enter_owns
  activate _ _ owns := ⟨owns.holds, owns.globals, owns.frames⟩

end Exec

/-- What can be done to the state of a program from outside. -/
inductive Operation where
  | loadStrings
  | run (statement : Stmt)
  | evaluate (expression : Expr)
  | place (expression : Expr)
  | pushFrame (function : String) (buffer : Option Block)
  | popFrame
  | pushScope
  | popScope
  | declare (name : String) (type : CType) (init : Option Value)
  | temporary (type : CType)
  | releaseTemporaries (mark : Nat)
  | markReturned (value : Value)
  | malloc (size : Nat)
  | free (address : Address)
  | call (callee : Callable) (arguments : List Value) (buffer : Option Block)
  | write (address : Address) (bytes : List UInt8)
  | print (text : String)

namespace Operation

/-- Does what the operation says; what it yields is dropped. -/
def perform : Operation → Exec Unit
  | loadStrings => Exec.loadStrings
  | run statement => Exec.runStatement statement
  | evaluate expression => discard (Exec.evaluate expression)
  | place expression => discard (Exec.placeOf expression)
  | pushFrame function buffer => Exec.pushFrame function buffer
  | popFrame => discard Exec.popFrame
  | pushScope => Exec.pushScope
  | popScope => Exec.popScope
  | declare name type init => discard (Exec.declare name type init)
  | temporary type => discard (Exec.temporary type)
  | releaseTemporaries mark => Exec.releaseTemporaries mark
  | markReturned value => Exec.markReturned value
  | malloc size => discard (Exec.malloc size)
  | free address => Exec.free address
  | call callee arguments buffer => do
    discard (callee.call (← Exec.invoker) arguments buffer)
  | write address bytes => Exec.edit (liftMemory (Heap.write address bytes))
  | print text => Exec.print text

/-- The state after operations one after the other, whether each succeeds or fails. -/
def performAll (operations : List Operation) (context : Context) : Context :=
  operations.foldl (fun context operation => operation.perform.after context) context

/-- Every operation keeps a program holding its own. -/
theorem perform_owns (operation : Operation) : Exec.Obeys Effect.ownership operation.perform := by
  have steps := Exec.steps_own
  have executes := steps.executes
  -- Operations that a program runs itself are made of single steps; the others are such steps.
  cases operation with
  | loadStrings => exact executes.loadStrings
  | run statement =>
    refine executes.invoked fun room => ?_
    obtain ⟨effect, same, obeys⟩ := (executes.statements (executes.invoke room)).1 statement
    rw [same]
    exact steps.statement statement.location obeys
  | evaluate expression =>
    exact executes.discard
      (executes.invoked fun room => (executes.expressions (executes.invoke room)).1 expression)
  | place expression =>
    exact executes.discard
      (executes.invoked fun room => (executes.expressions (executes.invoke room)).2.2 expression)
  | pushFrame function buffer => exact steps.pushFrame function buffer
  | popFrame => exact executes.discard steps.popFrame
  | pushScope => exact steps.pushScope
  | popScope => exact steps.popScope
  | declare name type init => exact executes.discard (steps.declare name type init)
  | temporary type => exact executes.discard (Exec.temporary_owns type)
  | releaseTemporaries mark => exact steps.releaseTemporaries mark
  | markReturned value => exact steps.markReturned value
  | malloc size => exact executes.discard (Exec.malloc_owns size)
  | free address => exact steps.free address
  | call callee arguments buffer =>
    refine executes.invoked fun room => executes.discard ?_
    cases callee with
    | function function => exact executes.invoke room function arguments buffer
    | builtin builtin => exact executes.builtin builtin arguments
  | write address bytes =>
    refine Exec.owns_of_rewriting (Exec.edit_rewrites fun heap => ?_)
    rw [Edit.after_liftMemory]
    exact Heap.write_rewrites address bytes heap
  | print text => exact steps.print text

/-- Operations one after the other keep a program holding its own. -/
theorem performAll_owns (operations : List Operation) {context : Context} (owns : context.Owns) :
    (performAll operations context).Owns := by
  unfold performAll
  -- An operation that fails leaves a state for the next one like one that succeeds.
  induction operations generalizing context with
  | nil => exact owns
  | cons operation rest ih => exact ih ((perform_owns operation).keeps owns)

end Operation

/-- A program that has done nothing holds its own, which is nothing. -/
theorem Context.start_owns {heap : Heap} {size unit : Nat}
    (created : Heap.create size unit = .ok heap) (fits : heapBase + size ≤ UInt64.size)
    (program : Program) (depthLimit grants : Nat) :
    (Context.start program heap depthLimit grants).Owns where
  -- A fresh heap has handed nothing out, and no name is bound.
  holds := Heap.create_holds created fits
  globals := List.nodup_nil
  frames := nofun

/-- A program that holds its own frees everything when it is torn down. -/
theorem Context.Owns.tearDown_used {context : Context} (owns : context.Owns) :
    context.tearDown.heap.usedBytes = 0 := by
  -- Everything that is held is freed.
  have holds : context.heap.Holds (context.owned ++ []) := by
    rw [List.append_nil]
    exact owns.holds
  -- Nothing is held after all has been freed, so nothing is counted.
  have freed := holds.releaseAll.counted
  show (context.heap.releaseAll context.owned).used * _ = 0
  rw [freed]
  exact Nat.zero_mul _

/-- The bytes in use are those of the units that the blocks take, each block rounded up to whole
units. -/
theorem Heap.Holds.usedBytes {heap : Heap} {blocks : List Block} (holds : heap.Holds blocks) :
    heap.usedBytes = blocks.foldr (fun block bytes =>
      (block.size + heap.unit - 1) / heap.unit * heap.unit + bytes) 0 := by
  -- What is counted is the units that the blocks take.
  unfold Heap.usedBytes
  rw [holds.counted, Heap.unitsOf]
  clear holds
  -- Rounding is done for each block by itself.
  induction blocks with
  | nil => exact Nat.zero_mul _
  | cons block rest ih =>
    rw [List.foldr_cons, List.foldr_cons, Nat.add_mul, ih]
    rfl

/--
Whatever is done to a program from its start on a fresh heap on, successfully or not, nothing leaks,
nothing is freed twice and nothing overlaps.

The blocks that the global names, the activations, the temporary objects, the string table and the
program itself hold lie on whole units inside the heap and have none in common.
A unit is live just if it belongs to exactly one of them.
What is used is the sum of their sizes, each rounded up to whole units.
Tearing the program down leaves nothing used.
All that is asked of the heap is that each of its bytes has an address of 64 bits, as in every arena
that a host can make.
-/
theorem Operation.ownership_invariant {size unit : Nat} {heap : Heap}
    (created : Heap.create size unit = .ok heap) (fits : heapBase + size ≤ UInt64.size)
    (program : Program) (depthLimit grants : Nat) (operations : List Operation) :
    let context := performAll operations (Context.start program heap depthLimit grants)
    (∀ block ∈ context.owned, 0 < block.size ∧
      block.address.toNat = heapBase + context.heap.firstUnit block * context.heap.unit ∧
      context.heap.firstUnit block + context.heap.unitsFor block.size ≤ context.heap.units) ∧
    (context.owned.Pairwise fun one other =>
      ∀ unit, ¬ (context.heap.covers unit one = true ∧ context.heap.covers unit other = true)) ∧
    (∀ unit, context.heap.unitLive unit = true ↔
      context.owned.countP (context.heap.covers unit) = 1) ∧
    context.heap.usedBytes = context.owned.foldr (fun block bytes =>
      (block.size + context.heap.unit - 1) / context.heap.unit * context.heap.unit + bytes) 0 ∧
    context.tearDown.heap.usedBytes = 0 := by
  intro context
  -- A fresh program owns nothing, and every operation keeps the books.
  have owns : context.Owns :=
    performAll_owns operations (Context.start_owns created fits program depthLimit grants)
  refine ⟨fun block member => ?_, owns.holds.apart, fun unit => ?_, owns.holds.usedBytes,
    owns.tearDown_used⟩
  · -- A block lies on whole units, from its first one on.
    have seats := owns.holds.seated block member
    exact ⟨seats.size_pos, seats.address, seats.inside⟩
  · -- The ledger says how often a unit is covered: once if it is live, else never.
    rw [owns.holds.ledger]
    cases context.heap.unitLive unit <;> simp

/-- A program declares a name twice, asks for memory and fails to give back what it never got; when
it is torn down, nothing is used. -/
theorem Operation.ownership_after_redeclaration :
    ∃ heap, Heap.create 64 8 = .ok heap ∧
      (performAll [.declare "x" .int none, .malloc 10, .declare "x" .char none, .free 0]
        (Context.start {} heap 4 0)).tearDown.heap.usedBytes = 0 := by
  -- The arena is a small one, and all of it has addresses.
  have created : Heap.create 64 8 = .ok _ := rfl
  have fits : heapBase + 64 ≤ UInt64.size := by decide
  exact ⟨_, created, (ownership_invariant created fits {} 4 0 _).2.2.2.2⟩

end StepMachine
