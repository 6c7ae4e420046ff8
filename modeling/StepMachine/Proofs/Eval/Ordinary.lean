import StepMachine.Proofs.Stack.Discipline

/-! Failures that are ordinary: what programs do wrong, and not what a machine does that breaks its
own rules. Expressions and calls fail in no other way, wherever they are evaluated. -/

namespace StepMachine

/-- Memory is asked for what it may be asked for. -/
def MemoryError.ordinary : MemoryError → Bool
  | outOfMemory _ _ | invalidAccess _ _ => true
  | zeroSizedAllocation | invalidGeometry _ _ => false

/-- The stack is too deep for the program, but nothing is closed or left that is not there. -/
def StackError.ordinary : StackError → Bool
  | overflow _ => true
  | underflow | noActiveFrame | alreadyReturned => false

/-- The program is at fault, and not the machine. -/
def RuntimeError.ordinary : RuntimeError → Bool
  | memory cause => cause.ordinary
  | stack cause => cause.ordinary
  | _ => true

/-- A suspension is no failure. -/
def Unwind.ordinary : Unwind → Bool
  | fault cause => cause.ordinary
  | suspended _ => true

/-- A result that fails at most for such causes. -/
def OnlyFails {ε α : Type} (causes : ε → Bool) : Except ε α → Prop
  | .ok _ => True
  | .error cause => causes cause = true

/-- A computation that breaks off at most for such reasons, in whatever state it starts. -/
def OnlyBreaks {ε σ α : Type} (reasons : ε → Bool) (run : EStateM ε σ α) : Prop :=
  ∀ state reason last, run state = .error reason last → reasons reason = true

namespace OnlyFails

variable {ε α β : Type} {causes : ε → Bool}

/-- What follows a result may fail in the same ways. -/
theorem bind {result : Except ε α} {next : α → Except ε β} (first : OnlyFails causes result)
    (rest : ∀ value, OnlyFails causes (next value)) : OnlyFails causes (result >>= next) := by
  -- A failure is the first result's own, and else that of what follows its value.
  cases result with
  | ok value => exact rest value
  | error cause => exact first

/-- Whichever way is taken may do no worse. -/
theorem ite {condition : Prop} [Decidable condition] {yes no : Except ε α}
    (left : OnlyFails causes yes) (right : OnlyFails causes no) :
    OnlyFails causes (if condition then yes else no) := by
  split
  · exact left
  · exact right

end OnlyFails

namespace OnlyBreaks

variable {ε σ α β : Type} {reasons : ε → Bool}

/-- A result given at once is no failure. -/
theorem pure (result : α) : OnlyBreaks reasons (pure result : EStateM ε σ α) := nofun

/-- What follows a computation may break off for the same reasons. -/
theorem bind {run : EStateM ε σ α} {next : α → EStateM ε σ β} (first : OnlyBreaks reasons run)
    (rest : ∀ result, OnlyBreaks reasons (next result)) : OnlyBreaks reasons (run >>= next) := by
  -- Either the first part breaks off, or what follows it does from where it left the state.
  intro state reason last ran
  rw [bind_run] at ran
  -- A first part that breaks off leaves the rest undone.
  cases began : run state with
  | ok result middle =>
    rw [began] at ran
    exact rest result middle reason last ran
  | error other middle =>
    rw [began] at ran
    cases ran
    exact first state reason last began

/-- A reason that is thrown is the only one given. -/
theorem throw {reason : ε} (ordinary : reasons reason = true) :
    OnlyBreaks reasons (throw reason : EStateM ε σ α) := by
  intro state other last ran
  cases ran
  exact ordinary

/-- Reading the state does not break off. -/
theorem get : OnlyBreaks reasons (get : EStateM ε σ σ) := nofun

/-- Changing the state does not break off. -/
theorem modify (change : σ → σ) : OnlyBreaks reasons (modify change : EStateM ε σ PUnit) := nofun

/-- Dropping the result of a computation adds no reason to break off. -/
theorem discard {run : EStateM ε σ α} (first : OnlyBreaks reasons run) :
    OnlyBreaks reasons (discard run) := by
  rw [discard_eq]
  exact bind first fun _ => pure _

/-- Failures of the body go on to the handler, which may do no worse. -/
theorem tryCatch {body : EStateM ε σ α} {handle : ε → EStateM ε σ α}
    (rest : ∀ state reason last, body state = .error reason last →
      OnlyBreaks reasons (handle reason)) :
    OnlyBreaks reasons (tryCatch body handle) := by
  -- Only a failure reaches the handler, and it does so with the state that the body left.
  intro state reason last ran
  rw [tryCatch_run] at ran
  cases began : body state with
  | ok result middle =>
    rw [began] at ran
    cases ran
  | error other middle =>
    rw [began] at ran
    exact rest state other middle began middle reason last ran

/-- What is done last in any case may break off for the same reasons. -/
theorem tryFinally {body : EStateM ε σ α} {final : EStateM ε σ β} (first : OnlyBreaks reasons body)
    (rest : OnlyBreaks reasons final) : OnlyBreaks reasons (tryFinally body final) := by
  -- Four ways through: the body ends or fails, and after it what is done last ends or fails.
  intro state reason last ran
  rw [tryFinally_run] at ran
  cases began : body state with
  | ok result middle =>
    rw [began] at ran
    cases ended : final middle with
    | ok _ left => simp [ended] at ran
    -- The body has ended, so the reason is that of what is done last.
    | error other left =>
      simp only [ended] at ran
      cases ran
      exact rest middle reason last ended
  | error other middle =>
    rw [began] at ran
    cases ended : final middle with
    | ok _ left =>
      simp only [ended] at ran
      cases ran
      -- What is done last has ended, so the body's own reason goes on.
      exact first state reason middle began
    | error another left =>
      simp only [ended] at ran
      cases ran
      -- Both break off, and the later reason takes the place of the earlier one.
      exact rest middle reason last ended

end OnlyBreaks

namespace Value

/-- Failures of pure computing are ordinary. -/
abbrev Ordinary {α : Type} (result : Except RuntimeError α) : Prop :=
  OnlyFails RuntimeError.ordinary result

/-- A value is read as an integer, or its type is at fault. -/
theorem asInt_ordinary (value : Value) : Ordinary value.asInt := by
  cases value <;> trivial

/-- A value is read as an address, or its type is at fault. -/
theorem asPointer_ordinary (value : Value) : Ordinary value.asPointer := by
  -- Of the integers only zero is an address; the check of the others fails with a type mismatch.
  cases value with
  | int n => exact .ite trivial rfl
  | void | char _ | pointer _ | struct _ _ => trivial

/-- A value is tested for truth, or its type is at fault. -/
theorem isTruthy_ordinary (value : Value) : Ordinary value.isTruthy := by
  cases value <;> trivial

/-- A value is converted to a type, or their mismatch is at fault. -/
theorem coerce_ordinary (value : Value) (type : CType) : Ordinary (value.coerce type) := by
  -- Two conversions depend on the value itself: of an integer to a pointer, of a structure by name.
  cases value with
  | void => cases type <;> trivial
  | char c => cases type <;> trivial
  | pointer address => cases type <;> trivial
  | int n =>
    cases type with
    | pointer target => exact .ite trivial rfl
    | _ => trivial
  | struct address definition =>
    cases type with
    | struct name fields => exact .ite trivial rfl
    | _ => trivial

/-- An exact result is a machine integer, or an overflow is at fault. -/
theorem machineInt_ordinary (operation : Arithmetic) (exact : Int) :
    Ordinary (machineInt operation exact) := .ite trivial rfl

/-- An operation on machine integers overflows or divides by zero, at worst. -/
theorem apply_ordinary (op : ArithmeticOp) (a b : Int32) : Ordinary (op.apply a b) := by
  -- Quotient and remainder first test the divisor; the remainder then checks the quotient too.
  cases op with
  | add | sub | mul => exact machineInt_ordinary ..
  | div => exact .ite rfl (machineInt_ordinary ..)
  | mod => exact .ite rfl ((machineInt_ordinary ..).bind fun _ => machineInt_ordinary ..)

/-- An arithmetic operation fails for its operands, at worst. -/
theorem arithmetic_ordinary (op : ArithmeticOp) (left right : Value) :
    Ordinary (arithmetic op left right) :=
  -- Pointers are looked at first, then both operands are read as integers, the left one first.
  .ite (left.asPointer_ordinary.bind fun _ => right.asPointer_ordinary.bind fun _ => rfl)
    (left.asInt_ordinary.bind fun a => right.asInt_ordinary.bind fun b =>
      (apply_ordinary op a b).bind fun _ => trivial)

/-- A comparison fails for its operands, at worst. -/
theorem compare_ordinary (op : Comparison) (left right : Value) :
    Ordinary (compare op left right) :=
  .ite (left.asPointer_ordinary.bind fun _ => right.asPointer_ordinary.bind fun _ => trivial)
    (left.asInt_ordinary.bind fun _ => right.asInt_ordinary.bind fun _ => trivial)

/-- A sign change or a negation fails for its operand, at worst. -/
theorem unary_ordinary (op : UnaryOp) (value : Value) : Ordinary (unary op value) := by
  cases op with
  | neg => exact value.asInt_ordinary.bind fun _ => (machineInt_ordinary ..).bind fun _ => trivial
  | not => exact value.isTruthy_ordinary.bind fun _ => trivial

/-- Following a pointer fails only where there is none. -/
theorem target_ordinary (value : Value) (type : CType) : Ordinary (value.target type) :=
  value.asPointer_ordinary.bind fun _ => trivial

/-- Naming a member fails where there is no structure or no such member. -/
theorem member_ordinary (value : Value) (field : String) : Ordinary (value.member field) := by
  cases value with
  | struct address definition =>
    -- The field is there or it is not, and both answers are the program's own.
    unfold member
    dsimp only
    split <;> trivial
  | void | int _ | char _ | pointer _ => trivial

end Value

namespace Heap

/-- Failures to reach memory are ordinary. -/
abbrev Ordinary {α : Type} (result : Except MemoryError α) : Prop :=
  OnlyFails MemoryError.ordinary result

/-- Edits break off in ordinary ways. -/
abbrev OrdinaryEdit {α : Type} (change : Edit MemoryError α) : Prop :=
  OnlyBreaks MemoryError.ordinary change

/-- A range of bytes is found in memory, or the access is at fault. -/
theorem locate_ordinary (heap : Heap) (address : Address) (length : Nat) :
    Ordinary (heap.locate address length) :=
  .ite rfl (.ite trivial rfl)

/-- Reading bytes fails with their access, at worst. -/
theorem read_ordinary (heap : Heap) (address : Address) (length : Nat) :
    Ordinary (heap.read address length) :=
  (heap.locate_ordinary address length).bind fun _ => trivial

/-- Reading a scalar fails with its access, at worst. -/
theorem readScalar_ordinary (heap : Heap) (scalar : Scalar) (address : Address) :
    Ordinary (heap.readScalar scalar address) :=
  (heap.locate_ordinary address scalar.size).bind fun _ => trivial

/-- Looking for the zero at the end of a text fails with an access, at worst. -/
theorem bytesToZero_ordinary (heap : Heap) (left : Nat) (address : Address) :
    Ordinary (heap.bytesToZero left address) := by
  -- The induction is on the bytes left to look at; each of them is read on its own.
  induction left generalizing address with
  | zero => trivial
  | succ left ih =>
    refine (heap.read_ordinary address 1).bind fun bytes => ?_
    cases bytes with
    | nil => trivial
    | cons byte rest => exact .ite trivial ((ih (address + 1)).bind fun _ => trivial)

/-- Reading a text fails with an access to it, at worst. -/
theorem readText_ordinary (heap : Heap) (address : Address) : Ordinary (heap.readText address) :=
  (heap.bytesToZero_ordinary _ address).bind fun _ => trivial

/-- Writing bytes fails with their access, at worst. -/
theorem write_ordinary (address : Address) (bytes : List UInt8) :
    OrdinaryEdit (write address bytes) := by
  intro heap cause last ran
  have located := heap.locate_ordinary address bytes.length
  unfold write at ran
  -- Only the search for the range can refuse; what is found is written over without failure.
  split at ran
  · rename_i failed
    cases ran
    rw [failed] at located
    exact located
  · cases ran

/-- Clearing bytes fails with their access, at worst. -/
theorem clear_ordinary (address : Address) (length : Nat) :
    OrdinaryEdit (clear address length) := by
  intro heap cause last ran
  have located := heap.locate_ordinary address length
  -- As for a write, the range is found or refused before any byte changes.
  unfold clear at ran
  split at ran
  · rename_i failed
    cases ran
    rw [failed] at located
    exact located
  · cases ran

/-- Copying bytes fails with the access to one of the two ranges, at worst. -/
theorem copy_ordinary (target source : Address) (length : Nat) :
    OrdinaryEdit (copy target source length) := by
  intro heap cause last ran
  -- To read has ordinary reasons to fail, and so has to write.
  have reads := heap.read_ordinary source length
  unfold copy at ran
  -- An empty copy succeeds; any other reads its source and then writes its target.
  split at ran
  · cases ran
  · split at ran
    · rename_i failed
      cases ran
      rw [failed] at reads
      exact reads
    · exact write_ordinary target _ heap cause last ran

/-- A request for some bytes is refused only for want of room. -/
theorem allocate_ordinary {size : Nat} (some : 0 < size) : OrdinaryEdit (allocate size) := by
  intro heap cause last ran
  -- The check for a request of no bytes cannot apply, so only the search for a run may fail.
  unfold allocate fit at ran
  rw [if_neg (Nat.ne_of_gt some)] at ran
  split at ran
  · rename_i refused
    split at refused <;> cases refused
    cases ran
    rfl
  · cases ran

end Heap

/-- A failure to reach memory is as ordinary as a failure of the program for it. -/
theorem OnlyFails.liftMemory {α : Type} {result : Except MemoryError α}
    (ordinary : Heap.Ordinary result) : Value.Ordinary (liftM result) := by
  cases result with
  | ok value => trivial
  | error cause => exact ordinary

/-- An edit of memory is as ordinary for the program as it is for memory. -/
theorem OnlyBreaks.liftMemory {α : Type} {change : Edit MemoryError α}
    (ordinary : Heap.OrdinaryEdit change) :
    OnlyBreaks RuntimeError.ordinary (liftMemory change) := by
  intro heap cause last ran
  -- The lifted edit fails just where the edit of memory does, with the same cause wrapped.
  unfold StepMachine.liftMemory at ran
  split at ran
  · cases ran
  · rename_i failed
    cases ran
    exact ordinary heap _ last failed

namespace Block

/-- A part of a block is found, or the access past its bound is at fault. -/
theorem part_ordinary (block : Block) (offset length : Nat) :
    Heap.Ordinary (block.part offset length) :=
  .ite trivial rfl

/-- Writing into a block fails with the access, at worst. -/
theorem write_ordinary (block : Block) (offset : Nat) (bytes : List UInt8) :
    Heap.OrdinaryEdit (block.write offset bytes) := by
  have inside := block.part_ordinary offset bytes.length
  unfold write
  -- The bound of the block is checked first, then memory checks the range that it gives.
  cases located : block.part offset bytes.length with
  | ok address => exact Heap.write_ordinary address bytes
  | error cause =>
    rw [located] at inside
    exact .throw inside

/-- Filling a block from elsewhere fails with one of the two accesses, at worst. -/
theorem fillFrom_ordinary (block : Block) (source : Address) (length : Nat) :
    Heap.OrdinaryEdit (block.fillFrom source length) := by
  intro heap cause last ran
  have reads := heap.read_ordinary source length
  -- The source is read first; what was read is then written within the block.
  unfold fillFrom at ran
  split at ran
  · rename_i failed
    cases ran
    rw [failed] at reads
    exact reads
  · exact block.write_ordinary 0 _ heap cause last ran

end Block

namespace Heap

/-- Loading a value fails with the access, or for a type that has no values. -/
theorem load_ordinary (heap : Heap) (address : Address) (type : CType) :
    Value.Ordinary (heap.load address type) := by
  -- A scalar is read from memory, and a structure only has to be live as a whole.
  cases type with
  | int | char | pointer _ =>
    exact (OnlyFails.liftMemory (heap.readScalar_ordinary ..)).bind fun _ => trivial
  | struct name fields => exact .ite trivial rfl
  | void => exact rfl

/-- Storing a value fails with its conversion or with the access, at worst. -/
theorem store_ordinary (address : Address) (type : CType) (value : Value) :
    OnlyBreaks RuntimeError.ordinary (store address type value) := by
  -- A conversion has ordinary reasons to fail.
  have converts := value.coerce_ordinary type
  -- The conversion comes first, and what it gives decides how memory is written.
  unfold store
  cases converted : value.coerce type with
  | error cause =>
    rw [converted] at converts
    exact .throw converts
  | ok stored =>
    -- What was converted says how many bytes are written, and from where.
    cases stored with
    | int _ | char _ | pointer _ => exact .liftMemory (write_ordinary address _)
    | struct source definition => exact .liftMemory (copy_ordinary address source _)
    | void => exact .throw rfl

end Heap

namespace Variable

/-- No object is made of a type without size, so that memory is asked for some bytes. -/
theorem allocate_ordinary (type : CType) : OnlyBreaks RuntimeError.ordinary (allocate type) := by
  unfold allocate
  split
  · exact .throw rfl
  -- The size is not zero, so that neither the request nor the clearing is for no bytes.
  · rename_i some
    have room := Heap.allocate_ordinary (Nat.pos_of_ne_zero some)
    exact (OnlyBreaks.liftMemory room).bind fun block =>
      (OnlyBreaks.liftMemory (Heap.clear_ordinary _ _)).bind fun _ => .pure _

/-- Making an object fails for want of room or with its first value, at worst. -/
theorem create_ordinary (type : CType) (init : Option Value) :
    OnlyBreaks RuntimeError.ordinary (create type init) := by
  refine (allocate_ordinary type).bind fun object => ?_
  cases init with
  | none => exact .pure object
  | some value =>
    refine .bind (.tryCatch fun heap cause last failed => ?_) fun _ => .pure object
    -- The failure to store goes on once the storage is given back.
    exact .bind (.modify _) fun _ => .throw (Heap.store_ordinary _ _ _ heap cause last failed)

end Variable

namespace Format

/-- Writing an argument out fails for its type, or with the text that it points to. -/
theorem write_ordinary (heap : Heap) (argument : Value) (directive : Directive) :
    Value.Ordinary (directive.write heap argument) := by
  -- Every directive reads its argument as an integer or as an address, and a text from memory.
  cases directive with
  | signed | unsigned | hexadecimal | character =>
    exact argument.asInt_ordinary.bind fun _ => trivial
  | pointer => exact argument.asPointer_ordinary.bind fun _ => trivial
  | text =>
    exact argument.asPointer_ordinary.bind fun address =>
      .ite trivial (.liftMemory (heap.readText_ordinary address))

/-- A directive fails for itself, for want of an argument or for the argument. -/
theorem directive_ordinary (heap : Heap) (letter : Char) (arguments : List Value) :
    Value.Ordinary (directive heap letter arguments) := by
  -- A doubled percent sign needs nothing; every other letter is looked up before its argument.
  refine .ite trivial ?_
  cases Directive.ofLetter? letter with
  | none => exact rfl
  | some directive =>
    cases arguments with
    | nil => exact rfl
    | cons argument rest => exact (write_ordinary heap argument directive).bind fun _ => trivial

/-- Writing a format out fails with the first of its directives that fails, at worst. -/
theorem expand_ordinary (heap : Heap) (format : List Char) (arguments : List Value) :
    Value.Ordinary (expand heap format arguments) := by
  -- The induction follows the scan of the format, one piece a case.
  fun_induction expand heap format arguments with
  | case1 | case2 => trivial
  | case3 arguments letter rest ih =>
    exact (directive_ordinary heap letter arguments).bind fun written =>
      (ih written.2).bind fun _ => trivial
  | case4 c rest arguments plain ih => exact ih.bind fun _ => trivial

end Format

namespace Exec

/-- A computation breaks off in ordinary ways only, in whatever state it starts. -/
abbrev Ordinary {α : Type} (run : Exec α) : Prop := OnlyBreaks Unwind.ordinary run

namespace Ordinary

/-- A result without effects is as ordinary among effects. -/
theorem lift {result : Except RuntimeError α} (ordinary : Value.Ordinary result) :
    Ordinary (liftM result : Exec α) := by
  cases result with
  | ok value => exact .pure value
  | error cause => exact .throw ordinary

/-- A look at memory is as ordinary for the program as it is for memory. -/
theorem liftMemory {result : Except MemoryError α} (ordinary : Heap.Ordinary result) :
    Ordinary (liftM result : Exec α) := by
  cases result with
  | ok value => exact .pure value
  | error cause => exact .throw ordinary

/-- A change of the heap alone is as ordinary for the whole machine. -/
theorem edit {change : Edit RuntimeError α} (ordinary : OnlyBreaks RuntimeError.ordinary change) :
    Ordinary (edit change) := by
  intro context reason last ran
  -- The edit is run on the heap of the context, and its cause becomes the machine's fault.
  rw [edit_run] at ran
  split at ran
  · cases ran
  · rename_i failed
    cases ran
    exact ordinary context.heap _ _ failed

/-- Failing for an ordinary cause is ordinary. -/
theorem fail {cause : RuntimeError} (ordinary : cause.ordinary = true) :
    Ordinary (fail cause : Exec α) := .throw ordinary

/-- The address of a literal is found, or the literal is missing from the table. -/
theorem stringAddress (index : Nat) : Ordinary (stringAddress index) := by
  refine .bind .get fun context => ?_
  split
  · exact .pure _
  · exact fail rfl

/-- A variable is found, or its name is not bound. -/
theorem lookup (name : String) : Ordinary (lookup name) := by
  refine .bind .get fun context => ?_
  split
  · exact .pure _
  · exact fail rfl

/-- A function is found, or its name is not known. -/
theorem resolve (name : String) : Ordinary (resolve name) := by
  -- A function of the program's own comes before one that the machine provides.
  refine .bind .get fun context => ?_
  split
  · exact .pure _
  · exact .pure _
  · exact fail rfl

/-- Loading from a place fails as loading from memory does. -/
theorem loadPlace (place : Place) : Ordinary (loadPlace place) :=
  .bind .get fun context => lift (context.heap.load_ordinary ..)

/-- A temporary object fails for its type or for want of room. -/
theorem temporary (type : CType) : Ordinary (temporary type) :=
  .bind (edit (Variable.allocate_ordinary type)) fun object =>
    .bind (.modify _) fun _ => .pure object

/-- A return buffer fails as the temporary object for it does. -/
theorem returnBuffer (type : CType) : Ordinary (returnBuffer type) := by
  unfold StepMachine.Exec.returnBuffer
  -- Only a structure needs a buffer, and it is as long as its object, so that the cut is within it.
  split
  · refine .bind (temporary type) fun object => .bind (liftMemory ?_) fun part => .pure _
    exact (object.block.part_ordinary ..).bind fun _ => trivial
  · exact .pure none

/-- Reading the text at a pointer fails for the value or with the access. -/
theorem textAt (pointer : Value) : Ordinary (Builtin.textAt pointer) :=
  .bind .get fun context => .bind (lift pointer.asPointer_ordinary) fun address =>
    liftMemory (context.heap.readText_ordinary address)

/-- A request for some bytes is granted or answered with null. -/
theorem mallocOrNull {size : Nat} (some : 0 < size) : Ordinary (Builtin.mallocOrNull size) := by
  have asked : Ordinary (malloc size) :=
    .bind (edit (.liftMemory (Heap.allocate_ordinary some))) fun block =>
      .bind (.modify _) fun _ => .pure _
  refine .tryCatch fun context reason last failed => ?_
  have ordinary := (OnlyBreaks.bind asked fun _ => .pure _) context reason last failed
  -- For want of room the answer is null; every other cause goes on, and is ordinary.
  split
  · exact .bind (.modify _) fun _ => .pure _
  · exact .throw ordinary

/-- Giving a block back fails only at an address that was not handed out. -/
theorem free (address : Address) : Ordinary (free address) := by
  refine .bind .get fun context => ?_
  split
  · exact .bind (.modify _) fun _ => edit (.modify _)
  · exact fail rfl

/-- The functions that the machine provides break off in ordinary ways. -/
theorem builtin (builtin : Builtin) (arguments : List Value) :
    Ordinary (builtin.call arguments) := by
  -- One case for each function at its own number of arguments, and the two with a wrong number.
  fun_cases Builtin.call builtin arguments with
  -- No format is given.
  | case1 => exact fail rfl
  | case2 format arguments =>
    exact .bind (textAt format) fun text => .bind .get fun context =>
      .bind (lift (Format.expand_ordinary ..)) fun _ => .bind (.modify _) fun _ => .pure _
  | case3 argument =>
    exact .bind (textAt argument) fun text => .bind (.modify _) fun _ => .pure _
  -- One character is printed.
  | case4 argument =>
    exact .bind (lift argument.asInt_ordinary) fun _ => .bind (.modify _) fun _ => .pure _
  | case5 argument =>
    refine .bind (lift argument.asInt_ordinary) fun size => ?_
    split
    · exact fail rfl
    · -- Only a positive size goes on to memory.
      rename_i positive
      refine mallocOrNull ?_
      have above : 0 < size.toInt := by
        have := Int32.lt_iff_toInt_lt.mp (Int32.not_le.mp positive)
        simpa using this
      omega
  -- Giving up is for pointers, and null is left alone.
  | case6 argument =>
    refine .bind (lift argument.asPointer_ordinary) fun address => ?_
    split
    · exact .pure _
    · exact .bind (free address) fun _ => .pure _
  | case7 => exact fail rfl

/-- Temporary objects are released without failure. -/
theorem alone {run : Exec α} (ordinary : Ordinary run) : Ordinary (alone run) := by
  -- What releases the temporaries cannot fail, so that a failure is that of the body.
  intro context reason last ran
  rw [alone_run] at ran
  -- The body has failed, or nothing has.
  cases began : run context with
  | ok result middle =>
    rw [began] at ran
    cases ran
  | error other middle =>
    rw [began] at ran
    cases ran
    exact ordinary context reason middle began

/-- Handing a result over fails with the copy of a structure, at worst. -/
theorem handOver (value : Value) : Ordinary (handOver value) := by
  -- Without a buffer there is nothing to copy.
  refine .bind .get fun context => ?_
  split
  · exact .bind (edit (.liftMemory (Block.fillFrom_ordinary _ _ _))) fun _ => .pure _
  · exact .pure _

/-- A declaration fails as the object that it makes does. -/
theorem declare (name : String) (type : CType) (init : Option Value) :
    Ordinary (declare name type init) :=
  -- The binding replaces what the name was bound to, and giving that storage back cannot fail.
  .bind (edit (Variable.create_ordinary type init)) fun _ => .bind .get fun _ =>
    .bind (fun _ _ _ => nofun) fun _ => .bind (edit (.modify _)) fun _ => .pure _

/-- Binding parameters fails with the declaration of one of them, at worst. -/
theorem bindAll (parameters : List (String × CType)) (values : List Value) :
    Ordinary (Function.bindAll parameters values) := by
  -- The induction is on the parameters, each of which takes one value.
  induction parameters generalizing values with
  | nil =>
    rw [Function.bindAll.eq_2 _ _ (by simp)]
    exact .pure ()
  | cons parameter parameters ih =>
    -- A parameter without a value is left unbound.
    cases values with
    | nil =>
      rw [Function.bindAll.eq_2 _ _ (by simp)]
      exact .pure ()
    | cons value values =>
      rw [Function.bindAll]
      exact .bind (.discard (declare parameter.1 parameter.2 (some value))) fun _ => ih values

/-- A call with a wrong number of arguments is the program's own failure. -/
theorem checkCount (function : Function) (arguments : List Value) :
    Ordinary (function.checkCount arguments) := by
  unfold Function.checkCount
  split
  · exact .pure _
  · exact fail rfl

/-- Laying a literal out in memory fails for want of room or with a write, at worst. -/
theorem loadString (literal : String) : Ordinary (loadString literal) := by
  -- The request is for the closing zero too, so it is never for no bytes.
  refine .bind (edit (.liftMemory (Heap.allocate_ordinary (Nat.succ_pos _)))) fun block => ?_
  refine .bind (.tryCatch fun context reason last failed => ?_) fun _ => .modify _
  have writes : Ordinary (do
      (block.write 0 (utf8Bytes literal) : Edit MemoryError Unit)
      (block.write (utf8Bytes literal).length [0] : Edit MemoryError Unit) : Exec Unit) :=
    .bind (edit (.liftMemory (block.write_ordinary _ _))) fun _ =>
      edit (.liftMemory (block.write_ordinary _ _))
  exact .bind (edit (.modify _)) fun _ => .throw (writes context reason last failed)

section Expressions

variable {invoke : Invoke}
  (calls : ∀ function arguments buffer, Ordinary (invoke function arguments buffer))

include calls

/-- Expressions, lists of expressions and places break off in ordinary ways, if calls do. -/
theorem expressions :
    (∀ expression : Expr, Ordinary (expression.eval invoke)) ∧
      (∀ list, Ordinary (Expr.evalAll invoke list)) ∧
      ∀ expression : Expr, Ordinary (expression.place invoke) := by
  have truth (value : Value) : Ordinary (liftM value.isTruthy : Exec Bool) :=
    lift value.isTruthy_ordinary
  -- The induction follows the three functions that evaluate, case by case.
  apply Expr.eval.mutual_induct
  case case1 | case2 | case4 =>
    intros
    rw [Expr.eval]
    exact .pure _
  -- Strings and variables are looked up in the state.
  case case3 =>
    intro index
    rw [Expr.eval]
    exact .bind (stringAddress index) fun _ => .pure _
  case case5 =>
    intro name
    rw [Expr.eval]
    exact .bind (lookup name) fun object => .bind .get fun context =>
      lift (context.heap.load_ordinary ..)
  -- The right side is evaluated only if the left one does not decide.
  case case6 =>
    intro left right first second
    rw [Expr.eval]
    refine .bind first fun value => .bind (truth value) fun decided => ?_
    split
    · exact .bind second fun value => .bind (truth value) fun _ => .pure _
    · exact .pure _
  case case7 =>
    intro left right first second
    rw [Expr.eval]
    refine .bind first fun value => .bind (truth value) fun decided => ?_
    split
    · exact .pure _
    · exact .bind second fun value => .bind (truth value) fun _ => .pure _
  case case8 =>
    intro op left right first second
    rw [Expr.eval]
    exact .bind first fun a => .bind second fun b => lift (Value.arithmetic_ordinary op a b)
  case case9 =>
    intro op left right first second
    rw [Expr.eval]
    exact .bind first fun a => .bind second fun b => lift (Value.compare_ordinary op a b)
  case case10 =>
    intro op operand first
    rw [Expr.eval]
    exact .bind first fun value => lift (Value.unary_ordinary op value)
  -- The place that is asked for may not be one.
  case case11 =>
    intro operand first
    rw [Expr.eval]
    exact .bind first fun place => .pure _
  case case12 =>
    intro pointer type first
    rw [Expr.eval]
    exact .bind first fun value => .bind (lift (value.target_ordinary type)) fun place =>
      loadPlace place
  case case13 =>
    intro object field first
    rw [Expr.eval]
    exact .bind first fun value => .bind (lift (value.member_ordinary field)) fun place =>
      loadPlace place
  case case14 =>
    intro target value second first
    rw [Expr.eval]
    exact .bind second fun value => .bind first fun place =>
      .bind (edit (Heap.store_ordinary _ _ _)) fun _ => loadPlace place
  case case15 =>
    intro function arguments all
    rw [Expr.eval]
    refine .bind (resolve function) fun callee => .bind all fun values =>
      .bind (returnBuffer callee.result) fun buffer => ?_
    -- The callee is one of the program's functions or one of the machine's.
    cases callee with
    | function f => exact calls f values buffer
    | builtin b => exact builtin b values
  -- Of the places, a name is looked up, and the others are computed from a value.
  case case16 =>
    intro name
    rw [Expr.place]
    exact .bind (lookup name) fun object => .pure _
  case case17 =>
    intro pointer type first
    rw [Expr.place]
    exact .bind first fun value => lift (value.target_ordinary type)
  case case18 =>
    intro object field first
    rw [Expr.place]
    exact .bind first fun value => lift (value.member_ordinary field)
  case case19 =>
    intro expression noName noPointer noMember
    rw [Expr.place]
    · exact fail rfl
    all_goals assumption
  case case20 =>
    rw [Expr.evalAll]
    exact .pure _
  case case21 =>
    intro argument rest first all
    rw [Expr.evalAll]
    exact .bind first fun value => .bind all fun values => .pure _

/-- Testing a condition breaks off in ordinary ways, if calls do. -/
theorem test (condition : Expr) : Ordinary (test invoke condition) :=
  .bind ((expressions calls).1 condition) fun value => lift value.isTruthy_ordinary

end Expressions

end Ordinary

end Exec

end StepMachine
