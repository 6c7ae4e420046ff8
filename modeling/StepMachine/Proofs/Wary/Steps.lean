import StepMachine.Proofs.Wary.Safety

/-! The single steps of a program, taken warily: from a safe state none of them crashes, and each
ends like the step that does not look. -/

namespace StepMachine

open Wary (Agrees Ends)

/-- A structure that is read lies in the arena. -/
theorem Heap.load_lies {heap : Heap} {address : Address} {type : CType} {value : Value}
    (loaded : heap.load address type = .ok value) : value.Lies heap.size := by
  cases type with
  | struct name fields =>
    unfold load at loaded
    dsimp only at loaded
    split at loaded
    case isFalse => cases loaded
    case isTrue live =>
      cases loaded
      -- All of it is live, so that it ends where the arena ends at the latest.
      unfold isLive at live
      cases located : heap.locate address fields.size with
      | error cause =>
        rw [located] at live
        cases live
      | ok offset =>
        obtain ⟨within, start⟩ := locate_within located
        show address.toNat + fields.size ≤ heapBase + heap.size
        omega
  | void => cases loaded
  -- Anything else is no structure.
  | int =>
    obtain ⟨_, -, rest⟩ := Value.exists_of_ok loaded
    cases rest
    trivial
  | char =>
    obtain ⟨_, -, rest⟩ := Value.exists_of_ok loaded
    cases rest
    trivial
  | pointer target =>
    obtain ⟨_, -, rest⟩ := Value.exists_of_ok loaded
    cases rest
    trivial

namespace Exec

open Effect (evaluation)

variable {setting : Setting} {context : Context}

/-- A change to the heap that succeeds leaves the rest of the state. -/
theorem edit_eq_ok {change : Edit RuntimeError α} {result : α} {last : Context}
    (ran : edit change context = .ok result last) :
    ∃ heap, change context.heap = .ok result heap ∧ last = { context with heap } := by
  -- A failing change is a fault of the program, and no result.
  rw [edit_run] at ran
  cases changed : change context.heap with
  | ok made heap =>
    rw [changed] at ran
    cases ran
    exact ⟨heap, rfl, rfl⟩
  | error cause heap =>
    rw [changed] at ran
    cases ran

/-- A change to the heap of a program is wary if the change itself is. -/
theorem edit?_agrees {wary : Wary RuntimeError Heap α} {change : Edit RuntimeError α}
    (agrees : Agrees wary change context.heap) : Agrees (edit? wary) (edit change) context := by
  unfold Agrees edit?
  -- The change sees the heap alone, and the rest is put around its outcome.
  rw [agrees, edit_run]
  cases change context.heap <;> rfl

/-- Blocks whose units lie in the arena can be freed. -/
theorem release?_agrees (tidy : context.heap.Tidy) {blocks : List Block}
    (inside : ∀ block ∈ blocks, context.heap.Inside block) :
    Agrees (release? blocks) (release blocks) context :=
  edit?_agrees (Heap.free?_agrees tidy inside)

/-- What a program holds can be freed, also when it is held no longer. -/
theorem release?_held (safe : setting.Safe context) {now : Context}
    (heap : now.heap = context.heap) {blocks : List Block} (held : blocks ⊆ context.owned) :
    Agrees (release? blocks) (release blocks) now := by
  -- The heap is the one in which the blocks were held.
  refine release?_agrees ?_ fun block member => ?_
  · rw [heap]
    exact safe.tidy
  · rw [heap]
    exact safe.inside (held member)

/-- A result of pure computing can always be taken. -/
theorem lift_tracks {good : α → Prop} {result : Except RuntimeError α}
    (fine : ∀ value, result = .ok value → good value) :
    setting.Tracks good (lift? result) (liftM result) := by
  -- It is a result or a failure from the start.
  cases result with
  | ok value => exact fun _ safe => ⟨rfl, safe, fine value rfl⟩
  | error cause => exact fun _ safe => ⟨rfl, safe⟩

/-- The size of what a name stands for is a machine word. -/
theorem lookup_tracks (name : String) :
    setting.Tracks (·.type.size < UInt64.size) (Wary.step (lookup name)) (lookup name) := by
  refine .of_steps (fun steps => steps.executes.lookup name) (evaluates_undisturbed.lookup name)
    (fun _ _ => rfl) fun context object last safe looked => ?_
  obtain ⟨found, -⟩ := lookup_eq_ok looked
  obtain ⟨sized, held⟩ := safe.sound.sized.found found
  -- The object has its block in the arena, and a block of the size of its type.
  have lies : object.block.address.toNat + object.block.size ≤ _ := safe.lies held
  have room := setting.room
  have size : object.block.size = object.type.size := sized
  omega

/-- A called name stands for a function of the program or of the machine. -/
theorem resolve_tracks (name : String) :
    setting.Tracks (fun callee => ∀ f, callee = .function f → f ∈ setting.program.functions)
      (Wary.step (resolve name)) (resolve name) := by
  refine .of_steps (fun steps => steps.executes.resolve name) (evaluates_undisturbed.resolve name)
    (fun _ _ => rfl) fun context callee last safe resolved f same => ?_
  subst same
  rw [resolve_run, safe.program] at resolved
  -- The names of the program go before those of the machine.
  cases found : setting.program.function? name with
  | some function =>
    rw [found] at resolved
    cases resolved
    exact List.mem_of_find?_eq_some found
  | none =>
    rw [found] at resolved
    cases known : Builtin.ofName? name with
    | some builtin =>
      rw [known] at resolved
      cases resolved
    | none =>
      rw [known] at resolved
      cases resolved

/-- An object whose size is a machine word can be read. -/
theorem loadPlace_tracks {place : Place} (fits : place.type.size < UInt64.size) :
    setting.Tracks (·.Lies setting.size) (loadPlace? place) (loadPlace place) := by
  refine .of_steps (fun steps => steps.executes.loadPlace place)
    (evaluates_undisturbed.loadPlace place) (fun context safe => .looking ?_ _)
    fun context value last safe loaded => ?_
  · -- The size fits its word, so the access can be looked at.
    exact Heap.load?_eq safe.tidy place.address fits
  · -- A structure that was read is live as a whole.
    rw [← safe.size]
    exact Heap.load_lies (loadPlace_eq_ok loaded).1

/-- A value that lies in the arena can be stored. -/
theorem storePlace_tracks (place : Place) {value : Value} (lies : value.Lies setting.size) :
    setting.Tracks (fun _ => True) (storePlace? place value)
      (edit (Heap.store place.address place.type value)) := by
  refine .of_steps (fun steps => steps.store _ _ _) (evaluates_undisturbed.store _ _ _)
    (fun context safe => .looking ?_ _) fun _ _ _ _ _ => trivial
  exact Heap.store?_eq safe.tidy place.address place.type (lies.storedSize_lt setting.room)

/-- A new object lies in the arena. -/
theorem temporary_lies (safe : setting.Safe context) {type : CType} {object : Variable}
    {last : Context} (made : temporary type context = .ok object last) :
    object.block.Lies setting.size := by
  -- What was made is held beside all that was held before.
  have inside := Variable.allocate_inside safe.tidy.bounded type
  have holds := Variable.allocate_holds type safe.sound.owns.holds
  rw [temporary_run] at made
  cases allocated : Variable.allocate type context.heap with
  | error cause heap =>
    rw [allocated] at made
    cases made
  | ok fresh heap =>
    rw [allocated] at made inside holds
    cases made
    exact safe.lies_of_holds inside.1 holds (List.mem_cons_self ..)

/-- A new temporary object is found where it was put. -/
theorem temporary?_agrees (safe : setting.Safe context) {type : CType}
    (fits : type.size < UInt64.size) : Agrees (temporary? type) (temporary type) context := by
  -- It is the last one, right behind those that were there.
  refine .bind (edit?_agrees (Variable.allocate?_agrees safe.sound.owns.holds fits))
    fun object middle _ => .bind rfl fun _ last pushed => ?_
  cases pushed
  have count : (middle.temporaries.push object).size = middle.temporaries.size + 1 :=
    Array.size_push ..
  show Agrees (Wary.possibly (difference (middle.temporaries.push object).size 1) >>= _) _ _
  refine .given (difference_eq (by omega)) (.possibly ?_)
  show (middle.temporaries.push object)[(middle.temporaries.push object).size - 1]? = some object
  rw [count, Nat.add_sub_cancel, Array.getElem?_push_size]

/-- Storage for a returned structure can be made if the size of its type is a machine word. -/
theorem returnBuffer_tracks {type : CType} (fits : type.size < UInt64.size) :
    setting.Tracks (fun buffer => ∀ block ∈ buffer, block.Lies setting.size) (returnBuffer? type)
      (returnBuffer type) := by
  refine .of_steps (fun steps => steps.returnBuffer type)
    (evaluates_undisturbed.returnBuffer type) (fun context safe => ?_)
    fun context buffer last safe ran => ?_
  · -- The object is made, and all of it is cut out as the storage.
    unfold returnBuffer? returnBuffer
    split
    · refine .bind (temporary?_agrees safe fits) fun object middle made => ?_
      exact .given (Block.slice?_eq (setting.addressed (temporary_lies safe made)) _ _)
        (.bind rfl fun _ _ _ => rfl)
    · rfl
  · -- Without a structure there is no storage, and with one it is the object's.
    unfold returnBuffer at ran
    split at ran
    · obtain ⟨object, middle, made, rest⟩ := exists_of_bind_ok ran
      -- The storage is the whole of the new object.
      have whole : object.block.slice 0 object.block.size =
          .ok ⟨object.block.address, object.block.size, false⟩ := by
        unfold Block.slice Block.part
        rw [if_pos (by omega), show UInt64.ofNat 0 = 0 from rfl, UInt64.add_zero]
        rfl
      rw [whole] at rest
      cases rest
      intro block member
      cases member
      exact temporary_lies safe made
    · cases ran
      exact nofun

/-- What is copied to a block fits into it. -/
theorem fillFrom_fits {block : Block} {source : Address} {length : Nat} {heap last : Heap}
    (filled : block.fillFrom source length heap = .ok () last) : length ≤ block.size := by
  unfold Block.fillFrom at filled
  cases read : heap.read source length with
  | error cause =>
    rw [read] at filled
    cases filled
  | ok bytes =>
    rw [read] at filled
    dsimp only at filled
    unfold Block.write Block.part at filled
    dsimp only at filled
    -- As many bytes are written as were read.
    rw [← Heap.read_length read]
    by_cases fits : 0 + bytes.length ≤ block.size
    · omega
    · rw [if_neg fits] at filled
      cases filled

/-- The storage for what the current function returns lies in the arena. -/
theorem buffer_lies (safe : setting.Safe context) {buffer : Block}
    (found : context.stack.current?.bind (·.buffer) = some buffer) : buffer.Lies setting.size := by
  -- The storage is that of the current activation, which the state is safe for.
  unfold CallStack.current? at found
  cases frames : context.stack.frames with
  | nil =>
    rw [frames] at found
    cases found
  | cons frame callers =>
    rw [frames] at found
    exact (safe.frames frame (by simp [frames])).buffer buffer found

/-- A structure is handed over if there is storage for it, and anything else stays what it is. -/
theorem handOver_eq_ok {value result : Value} {last : Context}
    (ran : handOver value context = .ok result last) :
    result = value ∨ ∃ address definition buffer, value = .struct address definition ∧
      context.stack.current?.bind (·.buffer) = some buffer ∧ definition.size ≤ buffer.size ∧
      result = .struct buffer.address definition := by
  unfold handOver at ran
  rw [bind_run, get_run] at ran
  cases value with
  | struct address definition =>
    cases bound : context.stack.current?.bind (·.buffer) with
    | none =>
      simp only [bound] at ran
      cases ran
      exact .inl rfl
    | some buffer =>
      simp only [bound] at ran
      obtain ⟨_, filled, wrote, rest⟩ := exists_of_bind_ok ran
      cases rest
      refine .inr ⟨address, definition, buffer, rfl, rfl, ?_, rfl⟩
      -- The copy has succeeded, so it has found room.
      obtain ⟨heap, copied, -⟩ := edit_eq_ok wrote
      exact fillFrom_fits (Edit.ok_of_liftMemory copied)
  | _ =>
    cases ran
    exact .inl rfl

/-- A value that lies in the arena can be handed over, and lies in the arena afterwards. -/
theorem handOver_tracks {value : Value} (lies : value.Lies setting.size) :
    setting.Tracks (·.Lies setting.size) (handOver? value) (handOver value) := by
  refine .of_steps (fun steps => steps.handOver value) (handOver_undisturbed value)
    (fun context safe => .bind rfl fun _ _ got => ?_) fun context result last safe ran => ?_
  · -- Only a structure is copied, and there has to be storage for it.
    cases got
    cases value with
    | struct address definition =>
      -- A structure is moved to storage of the caller, where there is some.
      cases bound : context.stack.current?.bind (·.buffer) with
      | none => rfl
      | some buffer =>
        refine .given (word_eq (lies.storedSize_lt setting.room))
          (.bind (.looking ?_ _) fun _ _ _ => rfl)
        exact Block.fill?_eq safe.tidy (setting.addressed (buffer_lies safe bound)) _ _
    | _ => rfl
  · -- What is handed over lies where it lay, or in the storage of the caller.
    rcases handOver_eq_ok ran with rfl | ⟨address, definition, buffer, rfl, bound, fits, rfl⟩
    · exact lies
    · have within : buffer.address.toNat + buffer.size ≤ _ := buffer_lies safe bound
      show buffer.address.toNat + definition.size ≤ _
      omega

/-- A new object with a value that lies in the arena can be bound to a name. -/
theorem declare_tracks (name : String) {type : CType} (fits : type.size < UInt64.size)
    {init : Option Value} (lies : ∀ value ∈ init, value.Lies setting.size) :
    setting.Tracks (fun _ => True) (declare? name type init) (declare name type init) := by
  refine .of_single (fun steps => steps.declare name type init) (fun context safe => ?_)
    (fun context safe => ?_) fun _ _ _ _ _ => trivial
  · -- Only a scope changes, in the activation or outside functions.
    unfold after
    rw [declare_run]
    cases Variable.create type init context.heap with
    | error cause heap => exact safe.frames
    | ok object heap =>
      -- The innermost scope has nothing to do with what an activation yields.
      exact safe.frames_setCurrentScope _
  · -- The object is made, the name is bound, and then the old storage is freed.
    have small : ∀ value ∈ init, value.storedSize < UInt64.size :=
      fun value given => (lies value given).storedSize_lt setting.room
    refine .bind (edit?_agrees (Variable.create?_agrees safe.sound.owns.holds fits small))
      fun object middle made => .bind rfl fun _ _ got => ?_
    cases got
    refine .bind rfl fun _ _ bound => .bind ?_ fun _ _ _ => rfl
    cases bound
    -- What the name stood for is still held after the object is made.
    have edited : edit (Variable.create type init) context = .ok object middle := made
    obtain ⟨heap, created, rfl⟩ := edit_eq_ok edited
    have holds := Variable.create_holds type init safe.sound.owns.holds
    rw [created] at holds
    refine release?_agrees ?_ fun block member => ?_
    · rw [Context.setCurrentScope_heap]
      exact holds.tidy
    · rw [Context.setCurrentScope_heap]
      have held := List.mem_cons_of_mem object.block (find_subset_owned context name member)
      exact (holds.seated block held).inside

/-- Only a current activation is found. -/
theorem currentFrame_eq_ok {frame : Frame} {last : Context}
    (found : currentFrame context = .ok frame last) :
    frame ∈ context.stack.frames ∧ last = context := by
  -- The innermost activation is the first in the list.
  rw [currentFrame_run] at found
  cases frames : context.stack.frames with
  | nil =>
    rw [frames] at found
    cases found
  | cons first callers =>
    rw [frames] at found
    cases found
    exact ⟨List.mem_cons_self .., rfl⟩

/-- A value that lies in the arena can be recorded as a result. -/
theorem markReturned_tracks {value : Value} (lies : value.Lies setting.size) :
    setting.Tracks (fun _ => True) (Wary.step (markReturned value)) (markReturned value) := by
  refine .of_single (fun steps => steps.markReturned value) (fun context safe => ?_)
    (fun _ _ => rfl) fun _ _ _ _ _ => trivial
  -- The result of the current activation is set, and its callers stay.
  unfold after
  rw [markReturned_run]
  cases frames : context.stack.frames with
  | nil => exact safe.frames
  | cons frame callers =>
    dsimp only
    -- Only the first result is recorded.
    split
    · exact safe.frames
    · refine safe.frames_onTop frames fun inner => ⟨fun given same => ?_, inner.buffer⟩
      cases same
      exact lies

/-- A block can be opened. -/
theorem pushScope_tracks :
    setting.Tracks (fun _ => True) (Wary.step pushScope) pushScope := by
  refine .of_single (fun steps => steps.pushScope) (fun context safe => ?_) (fun _ _ => rfl)
    fun _ _ _ _ _ => trivial
  unfold after
  rw [pushScope_run]
  -- Without an activation nothing happens; else only its scopes change.
  cases frames : context.stack.frames with
  | nil => exact safe.frames
  | cons frame callers => exact safe.frames_onTop frames fun inner => inner.of_eq rfl rfl

/-- What a block bound is held, and can be freed when the block is closed. -/
theorem popScope_tracks : setting.Tracks (fun _ => True) popScope? popScope := by
  refine .of_single (fun steps => steps.popScope) (fun context safe => ?_) (fun context safe => ?_)
    fun _ _ _ _ _ => trivial
  · -- Closing a scope changes no result and no storage for one.
    unfold after
    rw [popScope_run]
    cases frames : context.stack.frames with
    | nil => exact safe.frames
    | cons frame callers =>
      dsimp only
      cases frame.nested with
      | nil => exact safe.frames
      | cons scope outer => exact safe.frames_onTop frames fun inner => inner.of_eq rfl rfl
  · -- The current activation is looked up, its scope taken off, and what that bound is freed.
    refine .bind rfl fun current now found => ?_
    obtain ⟨member, rfl⟩ := currentFrame_eq_ok found
    unfold Frame.popScope
    cases nested : current.nested with
    | nil => rfl
    | cons scope outer =>
      refine .bind rfl fun _ _ popped => .bind rfl fun _ _ set => ?_
      cases popped
      cases set
      -- The scope that is closed belongs to an activation.
      have inner : scope ∈ now.scopes := List.mem_cons_of_mem _
        (List.mem_flatMap.mpr ⟨current, member, by simp [Frame.scopes, nested]⟩)
      refine release?_held safe ?_ (Context.scope_subset_owned inner)
      rfl

/-- An activation can be entered whose storage for a result lies in the arena. -/
theorem pushFrame_tracks (function : String) {buffer : Option Block}
    (lies : ∀ block ∈ buffer, block.Lies setting.size) :
    setting.Tracks (fun _ => True) (Wary.step (pushFrame function buffer))
      (pushFrame function buffer) := by
  refine .of_single (fun steps => steps.pushFrame function buffer) (fun context safe => ?_)
    (fun _ _ => rfl) fun _ _ _ _ _ => trivial
  unfold after
  rw [pushFrame_run]
  -- Without room the stack stays what it is; else the new activation has yielded nothing yet.
  cases context.stack.room with
  | zero => exact safe.frames
  | succ room => exact List.forall_mem_cons.mpr ⟨⟨nofun, lies⟩, safe.frames⟩

/-- What an activation bound is held, and can be freed when the activation is left. -/
theorem popFrame_tracks : setting.Tracks (·.Lies setting.size) popFrame? popFrame := by
  refine .of_single (fun steps => steps.popFrame) (fun context safe => ?_) (fun context safe => ?_)
    fun context frame last safe ran => ?_
  · -- The activations that are left were there before.
    unfold after
    rw [popFrame_run]
    cases frames : context.stack.frames with
    | nil => exact safe.frames
    | cons frame callers =>
      -- The callers stay as they are.
      exact fun caller (member : caller ∈ callers) => safe.frames caller (by simp [frames, member])
  · -- The activation is taken off, and then what it bound is freed.
    refine .bind rfl fun _ _ got => ?_
    cases got
    unfold CallStack.pop
    cases frames : context.stack.frames with
    | nil => rfl
    | cons frame callers =>
      refine .bind rfl fun _ _ popped => .bind rfl fun _ _ set => .bind ?_ fun _ _ _ => rfl
      cases popped
      cases set
      have active : frame ∈ context.stack.frames := by simp [frames]
      refine release?_held safe ?_ (Context.frame_subset_owned active)
      rfl
  · -- The activation itself is handed out, with its result.
    rw [popFrame_run] at ran
    cases frames : context.stack.frames with
    | nil =>
      rw [frames] at ran
      cases ran
    | cons first callers =>
      rw [frames] at ran
      cases ran
      -- The activation that is left was one of the stack.
      exact safe.frames frame (by simp [frames])

/-- Temporary objects are held, and can be freed. -/
theorem releaseTemporaries_tracks (mark : Nat) :
    setting.Tracks (fun _ => True) (releaseTemporaries? mark) (releaseTemporaries mark) := by
  refine .of_single (fun steps => steps.releaseTemporaries mark) (fun context safe => ?_)
    (fun context safe => .bind rfl fun _ _ got => ?_) fun _ _ _ _ _ => trivial
  · -- Releasing temporary objects does not touch the stack.
    unfold after
    rw [releaseTemporaries_run]
    exact safe.frames
  · -- The array is cut at the mark, and what lies behind it is freed.
    cases got
    split
    · rfl
    · refine .given (difference_eq (by omega)) (.seen (.bind rfl fun _ _ shrunk => ?_))
      cases shrunk
      -- Those behind the mark are some of the temporary objects.
      have newer : (context.temporaries.extract mark).toList ⊆ context.temporaries.toList := by
        rw [Array.toList_extract]
        exact List.Subset.trans (List.take_subset ..) (List.drop_subset ..)
      refine release?_held safe ?_ fun block member => ?_
      · rfl
      · have held := List.map_subset (·.block) newer member
        simp only [Context.owned, List.mem_append, held, or_true, true_or]

/-- A request for memory can be answered, with a block or with null. -/
theorem mallocOrNull?_agrees (safe : setting.Safe context) (size : Nat) :
    Agrees (mallocOrNull? size) (Builtin.mallocOrNull size) context := by
  -- A request is the allocation of a block and the note that it was given out.
  have asked : malloc size >>= (fun address => pure (.pointer address)) = (do
      let block ← (Heap.allocate size : Edit MemoryError Block)
      modify fun context => { context with dynamic := block :: context.dynamic }
      return Value.pointer block.address : Exec Value) := by
    simp only [malloc, bind_assoc, pure_bind]
  unfold Builtin.mallocOrNull
  rw [asked]
  refine .handling (.bind (edit?_agrees ?_) fun _ _ _ => rfl) fun reason last _ => ?_
  · exact (Heap.allocate?_agrees safe.sound.owns.holds size).liftMemory
  · -- A lack of memory is counted, and any other failure goes on.
    cases reason with
    | suspended view => rfl
    | fault cause =>
      cases cause with
      | memory lack => cases lack <;> rfl
      | _ => rfl

/-- A block that the program was given is held, and can be given back. -/
theorem free?_agrees (safe : setting.Safe context) (address : Address) :
    Agrees (free? address) (free address) context := by
  refine .bind rfl fun _ _ got => ?_
  cases got
  -- The block is found among those given out, or the address is refused.
  cases found : context.dynamic.find? (·.address = address) with
  | none => rfl
  | some block =>
    refine .bind rfl fun _ _ taken => ?_
    cases taken
    refine release?_held safe ?_ fun other member => ?_
    · rfl
    · cases List.mem_singleton.mp member
      have held := List.mem_of_find?_eq_some found
      simp only [Context.owned, List.mem_append, held, or_true]

/-- A literal can be laid out if its length and one byte more are a machine word. -/
theorem loadString_tracks {literal : String}
    (fits : (utf8Bytes literal).length + 1 < UInt64.size) :
    setting.Tracks (fun _ => True) (loadString? literal) (loadString literal) := by
  refine .of_steps (fun steps => steps.loadString literal)
    (Obeys.of_whole (loadString_undisturbed literal)) (fun context safe => ?_)
    fun _ _ _ _ _ => trivial
  have allocates := (Heap.allocate?_agrees safe.sound.owns.holds
    ((utf8Bytes literal).length + 1)).liftMemory
  refine .given (word_eq fits) (.bind (edit?_agrees allocates) fun block middle allocated => ?_)
  obtain ⟨heap, taken, rfl⟩ := edit_eq_ok allocated
  have taken := Edit.ok_of_liftMemory taken
  have holds := Heap.allocate_holds safe.sound.owns.holds taken
  have arena := (Heap.allocate_inside safe.tidy.bounded taken).1
  have addressed := setting.addressed (safe.lies_of_holds arena holds (List.mem_cons_self ..))
  -- Writing to the block changes bytes only, so that it is held whatever comes of it.
  have text := write_rewrites block 0 (utf8Bytes literal)
  have both := Obeys.bind text fun _ => write_rewrites block (utf8Bytes literal).length [0]
  -- Both writes can be looked at, and if one is refused the block is given back.
  refine .bind (.handling (.bind (.looking ?_ _) fun _ next wrote => .looking ?_ _)
    fun reason last failed => .bind ?_ fun _ _ _ => rfl) fun _ _ _ => rfl
  · -- The bytes are written into the new block.
    exact Block.write?_eq holds.tidy addressed 0 _
  · -- The zero byte goes into it after the bytes, which have changed nothing but bytes.
    have rewritten := text { context with heap }
    rw [wrote] at rewritten
    obtain ⟨bytes, rewritten, rfl⟩ := rewritten
    exact Block.write?_eq (rewritten.holds holds).tidy addressed _ _
  · -- A refused write leaves the block held, so it can be given back.
    have rewritten := both { context with heap }
    rw [show _ = EStateM.Result.error reason last from failed] at rewritten
    obtain ⟨bytes, rewritten, rfl⟩ := rewritten
    have still := rewritten.holds holds
    refine release?_agrees ?_ fun other member => ?_
    · exact still.tidy
    · cases List.mem_singleton.mp member
      exact (still.seated block (List.mem_cons_self ..)).inside

/-- All results of a computation are good. -/
def Gives (good : α → Prop) (run : Exec α) : Prop :=
  ∀ context result last, run context = .ok result last → good result

namespace Gives

variable {good : α → Prop}

/-- A good value that is yielded is good. -/
theorem pure {result : α} (fine : good result) : Gives good (pure result) := by
  intro context other last ran
  cases ran
  exact fine

/-- A fault yields nothing. -/
theorem fail (cause : RuntimeError) : Gives good (fail cause) := nofun

/-- The last part of a sequence decides. -/
theorem bind {run : Exec β} {next : β → Exec α} (rest : ∀ result, Gives good (next result)) :
    Gives good (run >>= next) := by
  intro context result last ran
  obtain ⟨first, middle, -, second⟩ := exists_of_bind_ok ran
  exact rest first middle result last second

end Gives

/-- No function of the machine yields a structure. -/
theorem builtin_plain (builtin : Builtin) (arguments : List Value) :
    Gives Value.Plain (builtin.call arguments) := by
  -- Each function yields a number, an address or nothing, if it yields at all.
  fun_cases Builtin.call builtin arguments with
  | case1 => exact .fail _
  | case2 format rest =>
    exact .bind fun _ => .bind fun _ => .bind fun _ => .bind fun _ => .pure trivial
  | case3 argument => exact .bind fun _ => .bind fun _ => .pure trivial
  | case4 argument => exact .bind fun _ => .bind fun _ => .pure trivial
  | case5 argument =>
    refine .bind fun size => ?_
    split
    · exact .fail _
    · intro context value last ran
      rw [mallocOrNull_run] at ran
      split at ran <;> cases ran <;> trivial
  | case6 argument =>
    refine .bind fun address => ?_
    split
    · exact .pure trivial
    · exact .bind fun _ => .pure trivial
  | case7 => exact .fail _

/-- Every function of the machine can be called with any arguments. -/
theorem builtin_tracks (builtin : Builtin) (arguments : List Value) :
    setting.Tracks (·.Lies setting.size) (builtin.call? arguments) (builtin.call arguments) := by
  refine .of_steps (fun steps => steps.executes.builtin builtin arguments)
    (evaluates_undisturbed.builtin builtin arguments) (fun context safe => ?_)
    fun context value last _ ran =>
      (builtin_plain builtin arguments context value last ran).lies _
  -- The number of arguments is checked before any of them is taken.
  unfold Builtin.call?
  split
  case isFalse => rfl
  case isTrue counted =>
    -- All but formatted output have found that there is one argument.
    have single (count : decide (1 = arguments.length) = true) :
        ∃ argument, arguments = [argument] :=
      List.length_eq_one_iff.mp (of_decide_eq_true count).symm
    cases builtin with
    | printf =>
      -- The format is the first argument, if there is one.
      cases arguments with
      | nil => rfl
      | cons format rest =>
        refine .looking ?_ _
        exact Heap.print?_eq safe.tidy format rest
    | puts =>
      obtain ⟨argument, rfl⟩ := single counted
      refine .given rfl (.looking ?_ _)
      exact Heap.textAt?_eq safe.tidy argument
    | putchar =>
      obtain ⟨argument, rfl⟩ := single counted
      exact .given rfl rfl
    | malloc =>
      obtain ⟨argument, rfl⟩ := single counted
      -- The size is read from the argument, and only a positive one is asked for.
      refine .given rfl (.bind rfl fun size now taken => ?_)
      obtain ⟨-, rfl⟩ := lift_eq_ok taken
      split
      · rfl
      · exact mallocOrNull?_agrees safe _
    | free =>
      obtain ⟨argument, rfl⟩ := single counted
      -- The address is read from the argument, and null is not given back.
      refine .given rfl (.bind rfl fun address now taken => ?_)
      obtain ⟨-, rfl⟩ := lift_eq_ok taken
      split
      · rfl
      · exact (free?_agrees safe address).bind fun _ _ _ => rfl

end Exec

end StepMachine
