import StepMachine.Eval.Statement
import StepMachine.Proofs.Outcome

/-! What the steps of a running program do to its state, one equation for each. -/

namespace StepMachine

namespace Context

/-- The state without all but the oldest `mark` temporary objects, whose storage is freed. -/
def dropTemporaries (context : Context) (mark : Nat) : Context :=
  { context with
    temporaries := context.temporaries.shrink mark
    heap := context.heap.releaseAll ((context.temporaries.toList.drop mark).map (·.block)) }

/-- Dropping no temporary object changes nothing. -/
theorem dropTemporaries_of_le {context : Context} {mark : Nat}
    (few : context.temporaries.size ≤ mark) : context.dropTemporaries mark = context := by
  -- Nothing lies behind the mark, neither in the array nor in the list of blocks to free.
  have same : context.temporaries.shrink mark = context.temporaries := by
    simp [Array.shrink_eq_take, few]
  have none : context.temporaries.toList.drop mark = [] := by simpa using few
  rw [dropTemporaries, same, none]
  rfl

/-- The state in which a statement is reached. -/
def reached (context : Context) (location : Location) : Context :=
  { context with cursor := some location }

/-- The state in which a statement that was reached has been let in, with so many grants left. -/
def entered (context : Context) (location : Location) (grants : Nat) : Context :=
  { context.reached location with
    grants, journal := context.journal.add location (context.reached location).moment }

end Context

/-- Writes a text to the start of a block, with a zero byte behind. -/
def Block.writeText (block : Block) (bytes : List UInt8) : Edit MemoryError Unit := do
  block.write 0 bytes
  block.write bytes.length [0]

namespace Exec

section Basic

/-- A result given at once leaves the state as it was. -/
@[simp] theorem pure_run (result : α) (context : Context) :
    (pure result : Exec α) context = .ok result context := rfl

/-- The state is read without a change. -/
@[simp] theorem get_run (context : Context) :
    (get : Exec Context) context = .ok context context := rfl

/-- The state is put in place of the old one. -/
@[simp] theorem set_run (next context : Context) :
    (set next : Exec Unit) context = .ok () next := rfl

/-- The state is changed as a whole. -/
@[simp] theorem modify_run (change : Context → Context) (context : Context) :
    (modify change : Exec Unit) context = .ok () (change context) := rfl

/-- A reason to break off leaves the state as it was. -/
@[simp] theorem throw_run (reason : Unwind) (context : Context) :
    (throw reason : Exec α) context = .error reason context := rfl

/-- A fault leaves the state as it was. -/
@[simp] theorem fail_run (cause : RuntimeError) (context : Context) :
    (fail cause : Exec α) context = .error (.fault cause) context := rfl

/-- A result of pure computing is one of the machine. -/
@[simp] theorem lift_ok (result : α) :
    (liftM (.ok result : Except RuntimeError α) : Exec α) = pure result := rfl

/-- A failure of pure computing is a fault of the machine. -/
@[simp] theorem lift_error (cause : RuntimeError) :
    (liftM (.error cause : Except RuntimeError α) : Exec α) = fail cause := rfl

/-- A result about the call stack is one of the machine. -/
@[simp] theorem lift_stack_ok (result : α) :
    (liftM (.ok result : Except StackError α) : Exec α) = pure result := rfl

/-- A failure about the call stack is a fault of the machine. -/
@[simp] theorem lift_stack_error (cause : StackError) :
    (liftM (.error cause : Except StackError α) : Exec α) = fail (.stack cause) := rfl

/-- A result about memory is one of the machine. -/
@[simp] theorem lift_memory_ok (result : α) :
    (liftM (.ok result : Except MemoryError α) : Exec α) = pure result := rfl

/-- A failure about memory is a fault of the machine. -/
@[simp] theorem lift_memory_error (cause : MemoryError) :
    (liftM (.error cause : Except MemoryError α) : Exec α) = fail (.memory cause) := rfl

end Basic

/-- A change to the heap leaves the rest of the state alone. -/
theorem edit_run (change : Edit RuntimeError α) (context : Context) :
    edit change context = match change context.heap with
      | .ok result heap => .ok result { context with heap }
      | .error cause heap => .error (.fault cause) { context with heap } := rfl

/-- An edit that fails for a memory error is a step that does. -/
theorem lift_edit (change : Edit MemoryError α) :
    (liftM change : Exec α) = edit (liftMemory change) := rfl

/-- Freeing blocks never fails. -/
theorem release_run (blocks : List Block) (context : Context) :
    release blocks context = .ok () { context with heap := context.heap.releaseAll blocks } := rfl

/-- An activation goes on top of its callers, if one more fits. -/
theorem pushFrame_run (function : String) (buffer : Option Block) (context : Context) :
    pushFrame function buffer context = match context.stack.room with
      | 0 => .error (.fault (.stack (.overflow context.stack.limit))) context
      | room + 1 => .ok () { context with
          stack := { frames := { function, buffer } :: context.stack.frames, room } } := by
  simp only [pushFrame, bind_run, get_run, CallStack.push]
  -- The room that is left decides alone.
  cases context.stack.room <;> simp

/-- Leaving an activation frees what it bound and makes room for another one. -/
theorem popFrame_run (context : Context) :
    popFrame context = match context.stack.frames with
      | [] => .error (.fault (.stack .underflow)) context
      | frame :: callers => .ok frame { context with
          stack := { frames := callers, room := context.stack.room + 1 }
          heap := context.heap.releaseAll frame.blocks } := by
  simp only [popFrame, bind_run, get_run, CallStack.pop]
  -- Freeing never fails, so only an empty stack does.
  cases context.stack.frames <;> simp [release_run]

/-- There is a current activation only inside a function. -/
theorem currentFrame_run (context : Context) :
    currentFrame context = match context.stack.frames with
      | [] => .error (.fault (.stack .noActiveFrame)) context
      | frame :: _ => .ok frame context := by
  simp only [currentFrame, bind_run, get_run, CallStack.current?]
  -- The innermost activation is the first in the list.
  cases context.stack.frames <;> rfl

/-- Opening a block touches the current activation only. -/
theorem pushScope_run (context : Context) :
    pushScope context = match context.stack.frames with
      | [] => .error (.fault (.stack .noActiveFrame)) context
      | frame :: callers => .ok () { context with
          stack := { context.stack with frames := frame.pushScope :: callers } } := by
  simp only [pushScope, bind_run, currentFrame_run]
  -- The current activation is read, and then put back in its place.
  cases frames : context.stack.frames with
  | nil => rfl
  | cons frame callers => simp [setFrame, CallStack.setCurrent, frames]

/-- Closing a block frees what it bound; the body of a function cannot be closed. -/
theorem popScope_run (context : Context) :
    popScope context = match context.stack.frames with
      | [] => .error (.fault (.stack .noActiveFrame)) context
      | frame :: callers => match frame.nested with
        | [] => .error (.fault (.stack .underflow)) context
        | scope :: outer => .ok () { context with
            stack := { context.stack with frames := { frame with nested := outer } :: callers }
            heap := context.heap.releaseAll scope.blocks } := by
  simp only [popScope, bind_run, currentFrame_run, Frame.popScope]
  -- Without an activation there is no block to close either.
  cases frames : context.stack.frames with
  | nil => rfl
  | cons frame callers =>
    -- An activation without an open block has only its body left, which stays.
    cases nested : frame.nested with
    | nil => simp [nested]
    | cons scope outer => simp [nested, setFrame, release_run, CallStack.setCurrent, frames]

/-- Recording a result touches the current activation only, and only once. -/
theorem markReturned_run (value : Value) (context : Context) :
    markReturned value context = match context.stack.frames with
      | [] => .error (.fault (.stack .noActiveFrame)) context
      | frame :: callers =>
        if frame.hasReturned then .error (.fault (.stack .alreadyReturned)) context
        else .ok () { context with
          stack := { context.stack with
            frames := { frame with returned := some value } :: callers } } := by
  simp only [markReturned, bind_run, currentFrame_run, Frame.markReturned]
  -- The result is kept in the current activation, which has to be there.
  cases frames : context.stack.frames with
  | nil => rfl
  | cons frame callers =>
    -- A second return is refused before anything is written.
    cases returned : frame.hasReturned with
    | true => simp [returned]
    | false => simp [returned, setFrame, CallStack.setCurrent, frames]

/-- A declaration puts the new object into the innermost scope and frees what the name stood for
there before; if the object cannot be made, the bindings stay. -/
theorem declare_run (name : String) (type : CType) (init : Option Value) (context : Context) :
    declare name type init context = match Variable.create type init context.heap with
      | .error cause heap => .error (.fault cause) { context with heap }
      | .ok object heap =>
        let scope := context.currentScope
        let bound := context.setCurrentScope (scope.bind name object)
        .ok object.address { bound with
          heap := heap.releaseAll ((scope.find? name).toList.map (·.block)) } := by
  -- Making the object is an edit of the heap, and only that can fail.
  have made : (liftM (Variable.create type init) : Exec Variable) =
    edit (Variable.create type init) := rfl
  simp only [declare, bind_run, made, edit_run]
  cases Variable.create type init context.heap with
  | error cause heap => rfl
  | ok object heap =>
    -- Whether the scope belongs to an activation or is the global one, the heap is the new one.
    simp only [get_run, set_run, release_run, pure_run, Context.currentScope,
      Context.setCurrentScope]
    cases context.stack.current? <;> rfl

/-- A new temporary object stands behind the others. -/
theorem temporary_run (type : CType) (context : Context) :
    temporary type context = match Variable.allocate type context.heap with
      | .error cause heap => .error (.fault cause) { context with heap }
      | .ok object heap =>
        .ok object { context with heap, temporaries := context.temporaries.push object } := by
  -- Making the object is an edit of the heap; keeping it cannot fail.
  have made : (liftM (Variable.allocate type) : Exec Variable) =
    edit (Variable.allocate type) := rfl
  simp only [temporary, bind_run, made, edit_run]
  cases Variable.allocate type context.heap <;> rfl

/-- A request for memory is answered with a block, or with null if there is no room for one, which
is counted; any other failure goes on. -/
theorem mallocOrNull_run (size : Nat) (context : Context) :
    Builtin.mallocOrNull size context = match Heap.allocate size context.heap with
      | .ok block heap => .ok (.pointer block.address)
          { context with heap, dynamic := block :: context.dynamic }
      | .error (.outOfMemory _ _) heap =>
        .ok (.pointer 0) { context with heap, refused := context.refused + 1 }
      | .error cause heap => .error (.fault (.memory cause)) { context with heap } := by
  simp only [Builtin.mallocOrNull, malloc, tryCatch_run, bind_run, lift_edit, edit_run, liftMemory]
  -- The handler looks at the cause, and lets only the want of room pass as an answer.
  cases Heap.allocate size context.heap with
  | ok block heap => rfl
  | error cause heap => cases cause <;> rfl

/-- Giving back an address that the program was not given is refused. -/
theorem free_run (address : Address) (context : Context) :
    free address context = match context.dynamic.find? (·.address = address) with
      | some block => .ok () { context with
          dynamic := context.dynamic.filter (·.address ≠ address)
          heap := context.heap.releaseAll [block] }
      | none => .error (.fault (.invalidFree address)) context := by
  simp only [free, bind_run, get_run]
  -- What was given out at that address is there, or it is not.
  cases context.dynamic.find? (·.address = address) <;> rfl

/-- A literal that cannot be laid out gives its block back and does not enter the table. -/
theorem loadString_run (literal : String) (context : Context) :
    loadString literal context =
      match Heap.allocate ((utf8Bytes literal).length + 1) context.heap with
      | .error cause heap => .error (.fault (.memory cause)) { context with heap }
      | .ok block heap => match block.writeText (utf8Bytes literal) heap with
        | .ok _ last => .ok () { context with
            heap := last, strings := context.strings.push block }
        | .error cause last => .error (.fault (.memory cause)) { context with
            heap := last.releaseAll [block] } := by
  simp only [loadString, bind_run, lift_edit, edit_run, liftMemory, tryCatch_run, Block.writeText]
  -- The block is had or refused, and after that each of the two writes may be refused.
  cases Heap.allocate ((utf8Bytes literal).length + 1) context.heap with
  | error cause heap => rfl
  | ok block heap =>
    -- The text is written first, and then its end.
    simp only
    cases block.write 0 (utf8Bytes literal) heap with
    | error cause middle => rfl
    | ok _ middle =>
      simp only
      cases block.write (utf8Bytes literal).length [0] middle <;> rfl

/-- Releasing temporary objects never fails. -/
theorem releaseTemporaries_run (mark : Nat) (context : Context) :
    releaseTemporaries mark context = .ok () (context.dropTemporaries mark) := by
  simp only [releaseTemporaries, bind_run, get_run]
  -- The step looks first whether there is anything to release.
  by_cases few : context.temporaries.size ≤ mark
  · -- There is nothing to release, and the list of what lies behind the mark is empty as well.
    rw [if_pos few, Context.dropTemporaries_of_le few]
    rfl
  · -- What is cut off the array is what lies behind the mark in the list.
    have newer : (context.temporaries.extract mark).toList =
        context.temporaries.toList.drop mark := by
      simp [List.take_of_length_le]
    simp only [if_neg few, bind_run, get_run, modify_run, newer, release_run]
    rfl

/-- Without a grant a statement is reached and not let in. -/
theorem enter_without {context : Context} (none : context.grants = 0) (location : Location) :
    enter location context =
      .error (.suspended (context.reached location).view) (context.reached location) := by
  unfold enter
  simp only [none, Context.reached]

/-- With a grant a statement is let in, which uses that up. -/
theorem enter_with {context : Context} {grants : Nat} (some : context.grants = grants + 1)
    (location : Location) :
    enter location context = .ok () (context.entered location grants) := by
  unfold enter
  simp only [some]
  rfl

/-- The temporary objects that a computation adds are gone when it is over. -/
theorem alone_run (run : Exec α) (context : Context) :
    alone run context = match run context with
      | .ok result last => .ok result (last.dropTemporaries context.temporaries.size)
      | .error reason last => .error reason (last.dropTemporaries context.temporaries.size) := by
  simp only [alone, temporaryMark, bind_run, get_run, pure_run, tryFinally_run]
  -- Releasing never fails, so the computation itself decides how this ends.
  cases run context <;> simp [releaseTemporaries_run]

/-- A statement is let in and has its effect, unless the current function has returned. It stays
among those under way only if it fails. -/
theorem statement_run (location : Location) (effect : Exec Unit) (context : Context) :
    statement location effect context =
      if context.hasReturned then .ok () context
      else
        let begun := { context with active := location :: context.active }
        match (enter location >>= fun _ => effect) begun with
        | .ok _ last =>
          let last := last.dropTemporaries context.temporaries.size
          .ok () { last with active := last.active.tail }
        | .error reason last =>
          .error reason (last.dropTemporaries context.temporaries.size) := by
  simp only [statement, bind_run, get_run]
  -- After a return the statement is skipped before it is even begun.
  cases returned : context.hasReturned with
  | true => simp
  | false =>
    simp only [Bool.false_eq_true, if_false, bind_run, modify_run, alone_run]
    -- Being let in may suspend the program, and the effect may fail.
    cases enter location { context with active := location :: context.active } with
    | error reason last => rfl
    | ok _ last =>
      simp only
      cases effect last <;> rfl

/-- A round of a loop begins with a look at whether the current function has returned. -/
theorem repeatWhile_run (test : Exec Bool) (body : Exec Unit) (turns : Nat) (context : Context) :
    repeatWhile test body (turns + 1) context =
      if context.hasReturned then .ok () context
      else (test >>= fun proceed =>
        if proceed then body >>= fun _ => repeatWhile test body turns else pure ()) context := by
  rw [repeatWhile, bind_run, get_run]
  -- The look at the return comes before the test.
  cases returned : context.hasReturned <;> simp [returned]

/-- A block is open around its body, and its closing fails only if the body has closed it. -/
theorem inBlock_run (body : Exec Unit) (context : Context) :
    inBlock body context = match pushScope context with
      | .error reason last => .error reason last
      | .ok _ opened => tryFinally body popScope opened := by
  simp only [inBlock, bind_run]
  -- The opening may fail for want of an activation; all else stands under `finally`.
  cases pushScope context <;> rfl

/-- An activation is open around its body, and is left however that ends. -/
theorem activation_run (function : String) (buffer : Option Block) (body : Exec Unit)
    (context : Context) :
    activation function buffer body context = match pushFrame function buffer context with
      | .error reason last => .error reason last
      | .ok _ opened => match body opened with
        | .ok _ last => popFrame last
        | .error reason last => match popFrame last with
          | .ok _ left => .error reason left
          | .error reason left => .error reason left := by
  simp only [activation, bind_run]
  -- If there is no room, the body does not run and nothing has to be left.
  cases pushFrame function buffer context with
  | error reason last => rfl
  | ok _ opened =>
    simp only [tryFinally']
    -- The body's reason goes on if leaving succeeds, and leaving fails only on an empty stack.
    cases body opened with
    | ok _ last => cases left : popFrame last <;> simp [left]
    | error reason last => cases left : popFrame last <;> simp [left]

end Exec

end StepMachine
