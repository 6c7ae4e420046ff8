import StepMachine.Proofs.Context.Housing
import StepMachine.Proofs.Context.Ownership
import StepMachine.Proofs.Lexical.Numbers

/-! What the memory of a program on numbers amounts to: for each scope, the names with the values
that their bytes stand for. Making an object binds a name, storing a value updates one, and freeing
changes nothing. -/

namespace StepMachine

namespace Scope

/-- What the names of a scope stand for, as values. -/
def seen (heap : Heap) (scope : Scope) : Lexical.Scope where
  find? name := (scope.find? name).map fun object => ⟨object.type, object.content heap⟩

/-- Every name stands for a number. -/
def Numeric (scope : Scope) : Prop := ∀ binding ∈ scope.bindings, binding.2.Numeric

/-- What a name is found to stand for is bound to it. -/
theorem mem_of_find? {scope : Scope} {name : String} {object : Variable}
    (found : scope.find? name = some object) : (name, object) ∈ scope.bindings := by
  -- The name is bound at the first place where it stands.
  obtain ⟨newer, older, bindings, -⟩ := List.lookup_eq_some_iff.mp found
  rw [bindings]
  simp

/-- What a name stands for is one of the objects of the scope. -/
theorem block_mem_of_find? {scope : Scope} {name : String} {object : Variable}
    (found : scope.find? name = some object) : object.block ∈ scope.blocks :=
  List.mem_map.mpr ⟨_, mem_of_find? found, rfl⟩

/-- What a name stands for in the first of scopes that binds it is one of their objects. -/
theorem block_mem_of_findSome? {scopes : List Scope} {name : String} {object : Variable}
    (found : scopes.findSome? (·.find? name) = some object) :
    object.block ∈ scopes.flatMap (·.blocks) := by
  -- The scope that binds the name is one of them.
  obtain ⟨scope, member, bound⟩ := List.exists_of_findSome?_eq_some found
  exact List.mem_flatMap.mpr ⟨scope, member, block_mem_of_find? bound⟩

/-- A name that is bound anew stands for the new object, and any other name for what it did. -/
theorem find?_bind (scope : Scope) (name other : String) (object : Variable) :
    (scope.bind name object).find? other =
      if other = name then some object else scope.find? other := by
  unfold find? bind
  -- The new name is found first, and any other is looked for among the old ones.
  by_cases same : other = name
  · simp [same]
  · have passed : (other == name) = false := beq_false_of_ne same
    rw [if_neg same, List.lookup_cons, passed]
    dsimp only
    -- Only bindings of another name are sorted out.
    generalize scope.bindings = bindings
    induction bindings with
    | nil => rfl
    | cons binding rest ih =>
      obtain ⟨first, bound⟩ := binding
      by_cases here : first = name
      · have different : (other == first) = false := beq_false_of_ne (by rwa [here])
        rw [List.filter_cons, if_neg (by simpa using here), ih, List.lookup_cons, different]
      · rw [List.filter_cons, if_pos (by simpa using here), List.lookup_cons, List.lookup_cons, ih]

/-- What is seen of a scope depends on the bytes of the heap only. -/
theorem seen_bytes (scope : Scope) {heap last : Heap} (same : last.bytes = heap.bytes) :
    scope.seen last = scope.seen heap := by
  -- Every value is made of bytes.
  unfold seen
  simp only [Variable.content_bytes _ same]

/-- A scope whose blocks are not touched is seen as before. -/
theorem Numeric.seen_untouched {scope : Scope} (numeric : scope.Numeric) {heap last : Heap}
    (untouched : ∀ block ∈ scope.blocks, heap.Untouched last block) :
    scope.seen last = scope.seen heap := by
  -- Scopes are compared name by name.
  ext1
  funext name
  unfold seen
  dsimp only
  -- A name that is bound shows the number that lies in its block.
  cases found : scope.find? name with
  | none => rw [Option.map_none, Option.map_none]
  | some object =>
    have same := Variable.content_untouched (numeric _ (mem_of_find? found))
      (untouched _ (block_mem_of_find? found))
    rw [Option.map_some, Option.map_some, same]

/-- A binding that is added is seen as added. -/
theorem seen_bind (heap : Heap) (scope : Scope) (name : String) (object : Variable) :
    (scope.bind name object).seen heap =
      (scope.seen heap).bind name ⟨object.type, object.content heap⟩ := by
  -- The new name stands for its object, and the others go through to the scope.
  ext1
  funext other
  unfold seen Lexical.Scope.bind
  dsimp only
  rw [find?_bind]
  split <;> rfl

/-- Numbers that are bound beside numbers. -/
theorem Numeric.bind {scope : Scope} (numeric : scope.Numeric) (name : String) {object : Variable}
    (proper : object.Numeric) : (scope.bind name object).Numeric := by
  intro binding member
  -- What is kept are bindings that were there before.
  rcases List.mem_cons.mp member with rfl | kept
  · exact proper
  · exact numeric binding (List.mem_filter.mp kept).1

/-- A value that is stored where a name stands for is seen as an update of the name. -/
theorem Numeric.seen_update {scope : Scope} (numeric : scope.Numeric) (distinct : scope.Distinct)
    (apart : scope.blocks.Nodup) {name : String} {object : Variable}
    (found : scope.find? name = some object) {heap last : Heap}
    (others : ∀ block ∈ scope.blocks, block ≠ object.block → heap.Untouched last block) :
    scope.seen last = (scope.seen heap).update name (object.content last) := by
  ext1
  funext other
  unfold seen Lexical.Scope.update
  dsimp only
  -- The name itself shows what was stored, and all others what they showed.
  split
  · rename_i here
    rw [here, found]
    rfl
  · rename_i differ
    cases bound : scope.find? other with
    | none => rw [Option.map_none, Option.map_none]
    | some neighbour =>
      -- Another name has another block, since no block stands twice in the scope.
      have elsewhere : neighbour.block ≠ object.block := by
        have split := (distinct.blocks_perm name).nodup_iff.mp apart
        rw [found, List.nodup_append] at split
        refine fun same => split.2.2 object.block (by simp) neighbour.block ?_ same.symm
        exact List.mem_map.mpr ⟨(other, neighbour),
          List.mem_filter.mpr ⟨mem_of_find? bound, by simpa using differ⟩, rfl⟩
      have same := Variable.content_untouched (numeric _ (mem_of_find? bound))
        (others _ (block_mem_of_find? bound) elsewhere)
      rw [Option.map_some, Option.map_some, same]

/-- A value that is stored where a name stands for in the innermost of scopes is seen as an update
of the name in them. -/
theorem seen_updateAll {scopes : List Scope} (numeric : ∀ scope ∈ scopes, scope.Numeric)
    (distinct : ∀ scope ∈ scopes, scope.Distinct) (apart : (scopes.flatMap (·.blocks)).Nodup)
    {name : String} {object : Variable}
    (found : scopes.findSome? (·.find? name) = some object) {heap last : Heap}
    (others : ∀ block ∈ scopes.flatMap (·.blocks), block ≠ object.block →
      heap.Untouched last block) :
    scopes.map (·.seen last) =
      Lexical.Scope.updateAll name (object.content last) (scopes.map (·.seen heap)) := by
  -- By induction on the scopes, up to the first that binds the name.
  induction scopes with
  | nil => cases found
  | cons scope outer ih =>
    rw [List.flatMap_cons, List.nodup_append] at apart
    obtain ⟨inner, behind, disjoint⟩ := apart
    have here := numeric scope (List.mem_cons_self ..)
    have within : ∀ block ∈ scope.blocks, block ≠ object.block → heap.Untouched last block :=
      fun block member => others block (by simp [member])
    have further : ∀ block ∈ outer.flatMap (·.blocks), block ≠ object.block →
        heap.Untouched last block :=
      fun block member => others block (by rw [List.flatMap_cons]; simp [member])
    rw [List.map_cons, List.map_cons, Lexical.Scope.updateAll]
    rw [List.findSome?_cons] at found
    cases bound : scope.find? name with
    | some first =>
      -- The name is bound here, and nothing further out has its block.
      rw [bound] at found
      cases found
      have same : outer.map (·.seen last) = outer.map (·.seen heap) := by
        refine List.map_congr_left fun scope member => ?_
        refine (numeric scope (List.mem_cons_of_mem _ member)).seen_untouched fun block inside => ?_
        have outside : block ∈ outer.flatMap (·.blocks) :=
          List.mem_flatMap.mpr ⟨scope, member, inside⟩
        exact further block outside (disjoint _ (block_mem_of_find? bound) block outside).symm
      have bindings : ((scope.seen heap).find? name).isSome = true := by
        simp [seen, bound]
      rw [if_pos bindings, same,
        here.seen_update (distinct scope (List.mem_cons_self ..)) inner bound within]
    | none =>
      -- The name is bound further out, and nothing here has its block.
      rw [bound] at found
      have same : scope.seen last = scope.seen heap :=
        here.seen_untouched fun block inside =>
          within block inside (disjoint block inside _ (block_mem_of_findSome? found))
      have unbound : ¬ ((scope.seen heap).find? name).isSome = true := by
        simp [seen, bound]
      have others := ih (fun scope member => numeric scope (List.mem_cons_of_mem _ member))
        (fun scope member => distinct scope (List.mem_cons_of_mem _ member)) behind found further
      rw [if_neg unbound, same, others]

end Scope

namespace Frame

/-- What the names of an activation stand for, as values. -/
def seen (heap : Heap) (frame : Frame) : Lexical.Frame where
  scopes := frame.scopes.map (·.seen heap)
  returned := frame.returned

/-- An activation that binds numbers only, and has no storage of its caller. -/
structure Plain (frame : Frame) : Prop where
  buffer : frame.buffer = none
  scopes : ∀ scope ∈ frame.scopes, scope.Numeric

/-- The scopes are searched one after the other. -/
theorem find?_eq (frame : Frame) (name : String) :
    frame.find? name = frame.scopes.findSome? (·.find? name) := by
  unfold find? scopes
  -- The scope of the body comes last in both searches.
  rw [List.findSome?_append, List.findSome?_cons]
  cases frame.root.find? name <;> rfl

/-- What a name stands for in an activation is one of its objects. -/
theorem block_mem_of_find? {frame : Frame} {name : String} {object : Variable}
    (found : frame.find? name = some object) : object.block ∈ frame.blocks :=
  Scope.block_mem_of_findSome? (find?_eq frame name ▸ found)

/-- What a name stands for in an activation that binds numbers only is a number. -/
theorem Plain.found {frame : Frame} (plain : frame.Plain) {name : String} {object : Variable}
    (found : frame.find? name = some object) : object.Numeric := by
  -- It is bound in one of the scopes, all of which bind numbers.
  rw [find?_eq] at found
  obtain ⟨scope, member, bound⟩ := List.exists_of_findSome?_eq_some found
  exact plain.scopes scope member _ (Scope.mem_of_find? bound)

/-- A name is seen to stand for the value of the object that it stands for. -/
theorem seen_find? (heap : Heap) (frame : Frame) (name : String) :
    (frame.seen heap).find? name =
      (frame.find? name).map fun object => ⟨object.type, object.content heap⟩ := by
  rw [find?_eq, List.map_findSome?]
  unfold seen Lexical.Frame.find?
  rw [List.findSome?_map]
  rfl

/-- What is seen of an activation depends on the bytes of the heap only. -/
theorem seen_bytes (frame : Frame) {heap last : Heap} (same : last.bytes = heap.bytes) :
    frame.seen last = frame.seen heap := by
  unfold seen
  simp only [Scope.seen_bytes _ same]

/-- An activation whose blocks are not touched is seen as before. -/
theorem Plain.seen_untouched {frame : Frame} (plain : frame.Plain) {heap last : Heap}
    (untouched : ∀ block ∈ frame.blocks, heap.Untouched last block) :
    frame.seen last = frame.seen heap := by
  have same : frame.scopes.map (·.seen last) = frame.scopes.map (·.seen heap) :=
    List.map_congr_left fun scope member =>
      (plain.scopes scope member).seen_untouched fun block inside =>
        untouched block (List.mem_flatMap.mpr ⟨scope, member, inside⟩)
  unfold seen
  rw [same]

/-- A binding that is added to the innermost scope is seen as added. -/
theorem seen_bind (heap : Heap) (frame : Frame) (name : String) (object : Variable) :
    (frame.setCurrent (frame.current.bind name object)).seen heap =
      (frame.seen heap).bind name ⟨object.type, object.content heap⟩ := by
  unfold seen Lexical.Frame.bind setCurrent current scopes
  -- The innermost scope is that of a block or that of the body.
  cases frame.nested <;> simp [Scope.seen_bind]

/-- Numbers that are bound beside numbers. -/
theorem Plain.bind {frame : Frame} (plain : frame.Plain) (name : String) {object : Variable}
    (proper : object.Numeric) : (frame.setCurrent (frame.current.bind name object)).Plain := by
  obtain ⟨buffer, numeric⟩ := plain
  unfold Frame.scopes at numeric
  -- The innermost scope is that of a block or that of the body, as for adding the binding.
  unfold setCurrent current
  cases nested : frame.nested with
  | nil =>
    refine ⟨buffer, fun scope member => ?_⟩
    simp only [nested, List.nil_append, List.mem_singleton, forall_eq,
      Frame.scopes] at numeric member
    rw [member]
    exact numeric.bind name proper
  | cons inner outer =>
    refine ⟨buffer, fun scope member => ?_⟩
    simp only [nested, List.cons_append, List.mem_cons, forall_eq_or_imp,
      Frame.scopes] at numeric member
    rcases member with rfl | member
    · exact numeric.1.bind name proper
    · exact numeric.2 scope member

end Frame

namespace Context

/-- The state without its memory. -/
def lexical (context : Context) : Lexical.State where
  program := context.program
  globals := context.globals.seen context.heap
  frames := context.stack.frames.map (·.seen context.heap)
  active := context.active
  terminal := context.terminal
  grants := context.grants

/-- The state of a program that holds its own and binds numbers only, with room for so many more
activations. -/
structure Plain (program : Program) (room : Nat) (context : Context) : Prop where
  owns : context.Owns
  program : context.program = program
  room : context.stack.room = room
  globals : context.globals.Numeric
  frames : ∀ frame ∈ context.stack.frames, frame.Plain

/-- Freeing is not seen. -/
theorem lexical_bytes (context : Context) {heap : Heap} (same : heap.bytes = context.heap.bytes) :
    lexical { context with heap } = context.lexical := by
  -- Names are the same, and values are made of bytes.
  unfold lexical
  simp only [Scope.seen_bytes _ same, Frame.seen_bytes _ same]

/-- A name is seen to stand for the value of the object that it stands for. -/
theorem lexical_find? (context : Context) (name : String) :
    context.lexical.find? name = (context.find? name).map fun object =>
      ⟨object.type, object.content context.heap⟩ := by
  unfold lexical Lexical.State.find? find? CallStack.current?
  cases context.stack.frames with
  | nil => rfl
  | cons frame callers =>
    -- Where the current function knows the name, the global one is hidden on both sides.
    rw [List.map_cons, List.head?_cons, Option.bind_some, Option.bind_some, Frame.seen_find?,
      Option.map_or]
    rfl

/-- A function has returned with memory just if it has without. -/
theorem lexical_hasReturned (context : Context) :
    context.lexical.hasReturned = context.hasReturned := by
  -- Only the current activation is asked.
  unfold lexical Lexical.State.hasReturned hasReturned CallStack.current?
  cases context.stack.frames <;> rfl

/-- The program holds what its global names are bound to. -/
theorem globals_subset_owned (context : Context) : context.globals.blocks ⊆ context.owned := by
  -- The global names come first among what is held.
  unfold owned
  simp only [List.append_assoc]
  exact List.subset_append_left ..

/-- The program holds what its activations bind. -/
theorem frame_subset_owned {context : Context} {frame : Frame}
    (member : frame ∈ context.stack.frames) : frame.blocks ⊆ context.owned := by
  intro block inside
  -- The blocks of the activation are among those of the stack.
  have bound : block ∈ context.stack.blocks := List.mem_flatMap.mpr ⟨frame, member, inside⟩
  unfold owned
  simp only [List.mem_append, bound, or_true, true_or]

/-- A change of the current activation is seen as one. -/
theorem lexical_onFrame {context : Context} {frame changed : Frame} {callers : List Frame}
    (frames : context.stack.frames = frame :: callers) {change : Lexical.Frame → Lexical.Frame}
    (seen : changed.seen context.heap = change (frame.seen context.heap)) {heap : Heap}
    (same : heap.bytes = context.heap.bytes) :
    lexical { context with
        stack := { context.stack with frames := changed :: callers }, heap } =
      context.lexical.onFrame change := by
  refine (lexical_bytes { context with
    stack := { context.stack with frames := changed :: callers } } same).trans ?_
  unfold lexical Lexical.State.onFrame
  simp only [frames, List.map_cons, seen]

namespace Plain

variable {program : Program} {room : Nat} {context : Context}

/-- A change of the state that binds nothing. -/
theorem of_same (plain : context.Plain program room) {last : Context} (owns : last.Owns)
    (same : last.program = context.program) (stack : last.stack = context.stack)
    (globals : last.globals = context.globals) : last.Plain program room where
  owns := owns
  program := same.trans plain.program
  room := by rw [stack, plain.room]
  globals := globals ▸ plain.globals
  frames := stack ▸ plain.frames

/-- A change of the current activation that leaves numbers only. -/
theorem onFrame (plain : context.Plain program room) {frame changed : Frame} {callers : List Frame}
    (frames : context.stack.frames = frame :: callers) (proper : changed.Plain) {heap : Heap}
    (owns : Owns { context with
      stack := { context.stack with frames := changed :: callers }, heap }) :
    Plain program room { context with
      stack := { context.stack with frames := changed :: callers }, heap } where
  owns := owns
  program := plain.program
  room := plain.room
  globals := plain.globals
  frames other member := by
    rcases List.mem_cons.mp member with rfl | behind
    · exact proper
    · exact plain.frames other (by simp [frames, behind])

/-- What a name stands for is a number that the program holds. -/
theorem found (plain : context.Plain program room) {name : String} {object : Variable}
    (found : context.find? name = some object) :
    object.Numeric ∧ object.block ∈ context.owned := by
  -- A name that the current function does not know is a global one.
  have global (bound : context.globals.find? name = some object) :
      object.Numeric ∧ object.block ∈ context.owned :=
    ⟨plain.globals _ (Scope.mem_of_find? bound),
      context.globals_subset_owned (Scope.block_mem_of_find? bound)⟩
  unfold find? CallStack.current? at found
  cases frames : context.stack.frames with
  | nil =>
    rw [frames] at found
    exact global found
  | cons frame callers =>
    rw [frames, Option.bind_some] at found
    cases bound : frame.find? name with
    -- A local name hides a global one.
    | none =>
      rw [bound] at found
      exact global found
    | some first =>
      rw [bound] at found
      cases found
      have member : frame ∈ context.stack.frames := by simp [frames]
      exact ⟨(plain.frames frame member).found bound,
        frame_subset_owned member (Frame.block_mem_of_find? bound)⟩

/-- The activations below the current one are seen as before if their blocks are not touched. -/
theorem seen_callers (plain : context.Plain program room) {frames : List Frame}
    (subset : frames ⊆ context.stack.frames) {last : Heap}
    (untouched : ∀ block ∈ frames.flatMap (·.blocks), context.heap.Untouched last block) :
    frames.map (·.seen last) = frames.map (·.seen context.heap) :=
  List.map_congr_left fun frame member =>
    (plain.frames frame (subset member)).seen_untouched fun block inside =>
      untouched block (List.mem_flatMap.mpr ⟨frame, member, inside⟩)

/-- Nothing looks different when nothing that is held is touched. -/
theorem seen_untouched (plain : context.Plain program room) {last : Heap}
    (untouched : ∀ block ∈ context.owned, context.heap.Untouched last block) :
    context.globals.seen last = context.globals.seen context.heap ∧
      context.stack.frames.map (·.seen last) =
        context.stack.frames.map (·.seen context.heap) := by
  refine ⟨plain.globals.seen_untouched fun block member =>
    untouched block (context.globals_subset_owned member),
    plain.seen_callers (List.Subset.refl _) fun block member => ?_⟩
  obtain ⟨frame, among, inside⟩ := List.mem_flatMap.mp member
  exact untouched block (frame_subset_owned among inside)

/-- Nothing that is held is touched, so the state looks the same. -/
theorem lexical_untouched (plain : context.Plain program room) {last : Heap}
    (untouched : ∀ block ∈ context.owned, context.heap.Untouched last block) :
    lexical { context with heap := last } = context.lexical := by
  obtain ⟨globals, frames⟩ := plain.seen_untouched untouched
  unfold lexical
  simp only [globals, frames]

/-- A name that is bound to a number in the innermost scope leaves numbers only. -/
theorem bind (plain : context.Plain program room) (name : String) {object : Variable}
    (proper : object.Numeric) {heap : Heap}
    (owns : Owns { context.setCurrentScope (context.currentScope.bind name object) with heap }) :
    Plain program room
      { context.setCurrentScope (context.currentScope.bind name object) with heap } := by
  refine ⟨owns, ?_, ?_, ?_, ?_⟩
  -- Where the name is bound depends on whether a function is running, which is asked field by
  -- field.
  all_goals
    clear owns
    unfold setCurrentScope currentScope CallStack.current?
    cases frames : context.stack.frames
  case refine_1.nil | refine_1.cons => exact plain.program
  case refine_2.nil => exact plain.room
  case refine_2.cons =>
    simp only [CallStack.setCurrent, frames]
    exact plain.room
  case refine_3.nil => exact plain.globals.bind name proper
  case refine_3.cons => exact plain.globals
  case refine_4.nil => exact plain.frames
  case refine_4.cons current callers =>
    simp only [CallStack.setCurrent, frames, List.mem_cons, forall_eq_or_imp]
    refine ⟨(plain.frames current (by simp [frames])).bind name proper, fun frame member => ?_⟩
    exact plain.frames frame (by simp [frames, member])

/-- A name that is bound in the innermost scope is seen as bound, when nothing that was held before
is touched. -/
theorem lexical_bind (plain : context.Plain program room) {last : Heap}
    (untouched : ∀ block ∈ context.owned, context.heap.Untouched last block) (name : String)
    (object : Variable) {freed : Heap} (same : freed.bytes = last.bytes) :
    lexical { context.setCurrentScope (context.currentScope.bind name object) with heap := freed } =
      context.lexical.bind name ⟨object.type, object.content last⟩ := by
  -- None of the objects that are seen has been touched.
  obtain ⟨globals, frames⟩ := plain.seen_untouched untouched
  unfold lexical Lexical.State.bind setCurrentScope currentScope CallStack.current?
  simp only [Scope.seen_bytes _ same, Frame.seen_bytes _ same]
  cases stack : context.stack.frames with
  | nil =>
    -- Outside of functions the name is bound in the global scope.
    simp only [Scope.seen_bind, globals, stack, List.map_nil]
  | cons frame callers =>
    rw [stack, List.map_cons, List.map_cons] at frames
    obtain ⟨current, others⟩ := List.cons.inj frames
    simp only [CallStack.setCurrent, stack, List.map_cons, Frame.seen_bind, globals, current,
      others]

/-- No block of the global names is one of the activations, and none stands twice. -/
theorem apart (plain : context.Plain program room) :
    context.globals.blocks.Nodup ∧ context.stack.blocks.Nodup ∧
      ∀ one ∈ context.globals.blocks, ∀ other ∈ context.stack.blocks, one ≠ other := by
  -- What is held are blocks with different addresses.
  have all : context.owned.Nodup :=
    plain.owns.holds.addresses.imp fun differ same => differ (congrArg Block.address same)
  unfold owned at all
  simp only [List.append_assoc, List.nodup_append, List.mem_append] at all
  obtain ⟨globals, ⟨stack, -⟩, disjoint⟩ := all
  exact ⟨globals, stack, fun one member other among => disjoint one member other (.inl among)⟩

/-- A value that is stored where a global name stands for is seen as an update of that. -/
theorem seen_updateGlobals (plain : context.Plain program room) {name : String} {object : Variable}
    (bound : context.globals.find? name = some object) {last : Heap}
    (others : ∀ block ∈ context.owned, block ≠ object.block →
      context.heap.Untouched last block) :
    context.globals.seen last =
        (context.globals.seen context.heap).update name (object.content last) ∧
      context.stack.frames.map (·.seen last) =
        context.stack.frames.map (·.seen context.heap) := by
  -- What the global names hold is apart from what activations hold.
  obtain ⟨once, -, disjoint⟩ := plain.apart
  refine ⟨plain.globals.seen_update plain.owns.globals once bound fun block member =>
    others block (context.globals_subset_owned member), ?_⟩
  -- The activations have other blocks than the global names.
  refine plain.seen_callers (List.Subset.refl _) fun block member => ?_
  obtain ⟨frame, among, inside⟩ := List.mem_flatMap.mp member
  exact others block (frame_subset_owned among inside)
    (disjoint _ (Scope.block_mem_of_find? bound) block member).symm

/-- A value that is stored where a name of the current function stands for is seen as an update of
that. -/
theorem seen_updateFrame (plain : context.Plain program room) {frame : Frame}
    {callers : List Frame} (frames : context.stack.frames = frame :: callers) {name : String}
    {object : Variable} (bound : frame.find? name = some object) {last : Heap}
    (others : ∀ block ∈ context.owned, block ≠ object.block →
      context.heap.Untouched last block) :
    context.globals.seen last = context.globals.seen context.heap ∧
      frame.seen last = (frame.seen context.heap).update name (object.content last) ∧
      callers.map (·.seen last) = callers.map (·.seen context.heap) := by
  -- Within the stack, the blocks of the current activation are apart from those of its callers.
  obtain ⟨-, once, disjoint⟩ := plain.apart
  have current : frame ∈ context.stack.frames := by simp [frames]
  have blocks : context.stack.blocks = frame.blocks ++ callers.flatMap (·.blocks) := by
    rw [CallStack.blocks, frames, List.flatMap_cons]
  rw [blocks, List.nodup_append] at once
  obtain ⟨inner, -, outer⟩ := once
  -- The block that is written to is one of the current activation.
  have here := Frame.block_mem_of_find? bound
  rw [Frame.find?_eq] at bound
  refine ⟨?_, ?_, ?_⟩
  · refine plain.globals.seen_untouched fun block member =>
      others block (context.globals_subset_owned member) (disjoint block member _ ?_)
    rw [blocks]
    exact List.mem_append_left _ here
  · -- In the current activation the first scope that binds the name is the one that changes.
    have updated := Scope.seen_updateAll (plain.frames frame current).scopes
      (plain.owns.frames frame current) inner bound
      fun block member => others block (frame_subset_owned current member)
    exact congrArg (Lexical.Frame.mk · frame.returned) updated
  · -- The callers have blocks of their own.
    refine plain.seen_callers (fun caller among => by simp [frames, among]) fun block member => ?_
    obtain ⟨caller, among, inside⟩ := List.mem_flatMap.mp member
    refine others block (frame_subset_owned (by simp [frames, among]) inside) ?_
    exact (outer _ here block member).symm

/-- A value that is stored where a name stands for is seen as an update of the name, when nothing
else that is held is touched. -/
theorem lexical_update (plain : context.Plain program room) {name : String} {object : Variable}
    (found : context.find? name = some object) {last : Heap}
    (others : ∀ block ∈ context.owned, block ≠ object.block →
      context.heap.Untouched last block) :
    lexical { context with heap := last } =
      context.lexical.update name (object.content last) := by
  -- The name is looked up in the current function first, and where it is found it is updated.
  unfold find? CallStack.current? at found
  unfold lexical Lexical.State.update
  cases frames : context.stack.frames with
  -- Outside of any function only the global scope is there.
  | nil =>
    rw [frames] at found
    obtain ⟨globals, -⟩ := plain.seen_updateGlobals found others
    simp only [globals, List.map_nil]
  | cons frame callers =>
    rw [frames, Option.bind_some] at found
    simp only [List.map_cons, Frame.seen_find?]
    cases bound : frame.find? name with
    | none =>
      -- The current function does not know the name, so it is a global one.
      rw [bound] at found
      obtain ⟨globals, same⟩ := plain.seen_updateGlobals found others
      rw [frames, List.map_cons, List.map_cons] at same
      obtain ⟨current, callers⟩ := List.cons.inj same
      simp [globals, current, callers]
    | some first =>
      rw [bound] at found
      cases found
      obtain ⟨globals, current, callers⟩ := plain.seen_updateFrame frames bound others
      simp [globals, current, callers]

end Plain

end Context

end StepMachine
