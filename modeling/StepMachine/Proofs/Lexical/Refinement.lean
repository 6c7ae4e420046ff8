import StepMachine.Proofs.Lexical.Simulation

/-! Every program on numbers is run without memory as it is with it: the inductions over
expressions, statements and calls. -/

namespace StepMachine

namespace Lexical

variable {program : Program} {room : Nat} {call : StepMachine.Invoke} {call' : Invoke}

/-- A number is yielded without storage of the caller. -/
theorem returnBuffer_number {type : CType} (plain : type.isStruct = false) :
    Exec.returnBuffer type = pure none := by
  -- Only a structure asks for storage.
  unfold Exec.returnBuffer
  rw [plain]
  rfl

/-- A function of a program on numbers yields no structure. -/
theorem result_isStruct {function : Function} (scalar : function.isScalar program = true) :
    function.result.isStruct = false := by
  -- What is no number, among results, is nothing at all.
  simp only [Function.isScalar, Bool.and_eq_true, Bool.or_eq_true, decide_eq_true_eq] at scalar
  rcases scalar.1.2 with numeric | nothing
  · cases type : function.result with
    | int | char => rfl
    | void | pointer | struct => simp [type, CType.isNumeric] at numeric
  · rw [nothing]
    rfl

/-- A called name is run without memory as with it, if functions of the program are. -/
theorem call_simulates (scalar : ∀ function ∈ program.functions, function.isScalar program = true)
    (calls : ∀ function ∈ program.functions, ∀ arguments,
      Simulates program room (call function arguments none) (call' function arguments))
    {name : String} (known : program.callsWithoutMemory name = true) {values : Exec (List Value)}
    {values' : Run (List Value)} (arguments : Simulates program room values values') :
    Simulates program room (do
        let callee ← Exec.resolve name
        let values ← values
        let buffer ← Exec.returnBuffer callee.result
        callee.call call values buffer)
      (do
        let callee ← resolve call' name
        callee (← values')) := by
  intro context plain
  -- The same program is asked for the name on both sides, and then the machine.
  have seen : context.lexical.program = program := plain.program
  unfold Program.callsWithoutMemory at known
  rw [bind_run, bind_run, Exec.resolve_run, resolve_run, seen, plain.program]
  cases defined : program.function? name with
  | some function =>
    -- A function of the program yields no structure, so that no storage is asked for.
    have member : function ∈ program.functions := List.mem_of_find?_eq_some defined
    have unbuffered : Exec.returnBuffer (Callable.function function).result = pure none :=
      returnBuffer_number (result_isStruct (scalar function member))
    refine Simulates.bind arguments (fun values => ?_) context plain
    rw [unbuffered, pure_bind]
    exact calls function member values
  | none =>
    cases provided : Builtin.ofName? name with
    -- A name that stands for nothing fails on both sides, before any argument.
    | none => exact .inr ⟨_, rfl, rfl, rfl⟩
    | some builtin =>
      rw [defined, provided] at known
      cases builtin with
      -- Of the built-in functions only this one is about numbers.
      | putchar =>
        refine Simulates.bind arguments (fun values => ?_) context plain
        rw [returnBuffer_number rfl, pure_bind]
        exact putchar_simulates values
      | printf | puts | malloc | free => cases known

/-- If calls are simulated, then so is every expression on numbers. -/
theorem expressions_simulate
    (scalar : ∀ function ∈ program.functions, function.isScalar program = true)
    (calls : ∀ function ∈ program.functions, ∀ arguments,
      Simulates program room (call function arguments none) (call' function arguments)) :
    (∀ expression : Expr, expression.isScalar program = true →
        Simulates program room (expression.eval call) (eval call' expression)) ∧
      (∀ list, Expr.areScalar program list = true →
        Simulates program room (Expr.evalAll call list) (evalAll call' list)) ∧
      ∀ _ : Expr, True := by
  -- The induction follows evaluation; places need none, since only names are assigned to.
  apply Expr.eval.mutual_induct
  -- Literals that are numbers.
  case case1 | case2 =>
    intros
    rw [Expr.eval, eval]
    exact Simulates.pure _
  -- What has an address is not about numbers.
  case case3 | case11 | case12 | case13 =>
    intros
    simp_all [Expr.isScalar]
  case case4 =>
    intro numbers
    cases numbers
  case case5 =>
    intro name _
    rw [Expr.eval, eval]
    exact load_simulates name
  -- The second side is evaluated only where the first leaves the answer open.
  case case6 =>
    intro left right first second numbers
    rw [Expr.isScalar, Bool.and_eq_true] at numbers
    rw [Expr.eval, eval]
    exact Simulates.whenTrue (first numbers.1)
      (Simulates.bind (second numbers.2) fun value =>
        Simulates.bind (Simulates.lift value.isTruthy) fun truth => Simulates.pure _)
      (Simulates.pure _)
  case case7 =>
    intro left right first second numbers
    rw [Expr.isScalar, Bool.and_eq_true] at numbers
    rw [Expr.eval, eval]
    exact Simulates.whenTrue (first numbers.1) (Simulates.pure _)
      (Simulates.bind (second numbers.2) fun value =>
        Simulates.bind (Simulates.lift value.isTruthy) fun truth => Simulates.pure _)
  -- Both sides are evaluated, and what the operation answers depends on their values alone.
  case case8 | case9 =>
    intro op left right first second numbers
    rw [Expr.isScalar, Bool.and_eq_true] at numbers
    rw [Expr.eval, eval]
    exact Simulates.bind (first numbers.1) fun a =>
      Simulates.bind (second numbers.2) fun b => Simulates.lift _
  case case10 =>
    intro op operand first numbers
    rw [Expr.isScalar] at numbers
    rw [Expr.eval, eval]
    exact Simulates.bind (first numbers) fun value => Simulates.lift _
  case case14 =>
    intro target value second _ numbers
    rw [Expr.isScalar, Bool.and_eq_true] at numbers
    rw [Expr.eval, eval]
    refine Simulates.bind (second numbers.2) fun value => ?_
    -- Of the expressions on numbers, only a name can be assigned to.
    cases target with
    | var name => exact assign_simulates call name value
    | string | null | addressOf | deref | member => simp [Expr.isScalar] at numbers
    | int | char | binary | unary | assign | call =>
      simp only [Expr.place]
      exact fun _ _ => .inr ⟨_, rfl, rfl, rfl⟩
  case case15 =>
    intro function arguments all numbers
    rw [Expr.isScalar, Bool.and_eq_true] at numbers
    rw [Expr.eval, eval]
    exact call_simulates scalar calls numbers.1 (all numbers.2)
  -- A place is never asked for on its own.
  case case16 | case17 | case18 | case19 => intros; trivial
  case case20 =>
    intro _
    rw [Expr.evalAll, evalAll]
    exact Simulates.pure _
  case case21 =>
    intro argument rest first all numbers
    rw [Expr.areScalar, Bool.and_eq_true] at numbers
    rw [Expr.evalAll, evalAll]
    exact Simulates.bind (first numbers.1) fun value =>
      Simulates.bind (all numbers.2) fun values => Simulates.pure _

/-- If calls are simulated, then so is every statement on numbers. -/
theorem statements_simulate
    (scalar : ∀ function ∈ program.functions, function.isScalar program = true)
    (calls : ∀ function ∈ program.functions, ∀ arguments,
      Simulates program room (call function arguments none) (call' function arguments))
    (confined : ∀ list, Exec.Obeys Effect.execution (Stmt.execAll call list)) :
    (∀ statement : Stmt, statement.isScalar program = true →
        Simulates program room (statement.exec call) (exec call' statement)) ∧
      ∀ list, Stmt.areScalar program list = true →
        Simulates program room (Stmt.execAll call list) (execAll call' list) := by
  -- What is known of expressions, and of conditions with them.
  obtain ⟨evaluation, -, -⟩ := expressions_simulate scalar calls
  have tests {condition : Expr} (numbers : condition.isScalar program = true) :
      Simulates program room (Exec.test call condition) (test call' condition) :=
    Simulates.bind (evaluation condition numbers) fun value => Simulates.lift value.isTruthy
  -- The induction follows execution, with one case for each kind of statement.
  apply Stmt.exec.mutual_induct
  case case1 =>
    intro name type init location numbers
    rw [Stmt.isScalar, Bool.and_eq_true] at numbers
    -- A variable may come without an initial value.
    cases init with
    | none =>
      rw [Stmt.exec, exec]
      exact statement_simulates location (declare_simulates name numbers.1 none)
    | some value =>
      rw [Stmt.exec, exec]
      exact statement_simulates location (Simulates.bind (evaluation value numbers.2) fun value =>
        declare_simulates name numbers.1 (some value))
  case case2 =>
    intro value location numbers
    rw [Stmt.isScalar] at numbers
    rw [Stmt.exec, exec]
    exact statement_simulates location (Simulates.discard (evaluation value numbers))
  case case3 =>
    intro body location inside numbers
    rw [Stmt.isScalar] at numbers
    rw [Stmt.exec, exec]
    exact statement_simulates location (inBlock_simulates (confined body) (inside numbers))
  case case4 =>
    intro condition yes no location left right numbers
    -- Without a second branch, nothing is run in its place.
    cases no with
    | none =>
      rw [Stmt.isScalar, Bool.and_eq_true, Bool.and_eq_true] at numbers
      rw [Stmt.exec, exec]
      refine statement_simulates location
        (Simulates.bind (tests numbers.1.1) fun truth => ?_)
      cases truth with
      | true => exact left numbers.1.2
      | false => exact Simulates.pure ()
    | some no =>
      rw [Stmt.isScalar, Bool.and_eq_true, Bool.and_eq_true] at numbers
      rw [Stmt.exec, exec]
      refine statement_simulates location
        (Simulates.bind (tests numbers.1.1) fun truth => ?_)
      cases truth with
      | true => exact left numbers.1.2
      | false => exact right numbers.2
  case case5 =>
    intro condition body location inside numbers
    rw [Stmt.isScalar, Bool.and_eq_true] at numbers
    rw [Stmt.exec, exec]
    -- The condition is tested alone, so that what it leaves behind is gone before the body.
    exact statement_simulates location
      (loop_simulates (alone_simulates (tests numbers.1)) (inside numbers.2))
  case case6 =>
    intro value location numbers
    rw [Stmt.isScalar] at numbers
    cases value with
    | none =>
      rw [Stmt.exec, exec]
      exact statement_simulates location (return_simulates .void)
    | some value =>
      rw [Stmt.exec, exec]
      exact statement_simulates location
        (Simulates.bind (evaluation value numbers) fun value => return_simulates value)
  case case7 =>
    intro _
    rw [Stmt.execAll, execAll]
    exact Simulates.pure ()
  case case8 =>
    intro statement rest first all numbers
    rw [Stmt.areScalar, Bool.and_eq_true] at numbers
    rw [Stmt.execAll, execAll]
    exact Simulates.bind (first numbers.1) fun _ => all numbers.2

/-- Binding parameters that are numbers. -/
theorem bindAll_simulates {parameters : List (String × CType)}
    (numeric : parameters.all (·.2.isNumeric) = true) (values : List Value) :
    Simulates program room (Function.bindAll parameters values) (bindAll parameters values) := by
  -- Parameters and values go together until one of the two lists is used up.
  induction parameters generalizing values with
  | nil =>
    rw [Function.bindAll.eq_2 _ _ (by simp), bindAll.eq_2 _ _ (by simp)]
    exact Simulates.pure ()
  | cons parameter parameters ih =>
    rw [List.all_cons, Bool.and_eq_true] at numeric
    cases values with
    -- A parameter without a value is left unbound on both sides.
    | nil =>
      rw [Function.bindAll.eq_2 _ _ (by simp), bindAll.eq_2 _ _ (by simp)]
      exact Simulates.pure ()
    | cons value values =>
      rw [Function.bindAll, bindAll]
      exact Simulates.bind (declare_simulates _ numeric.1 _) fun _ => ih numeric.2 values

/-- A wrong number of arguments is refused with memory as without. -/
theorem checkCount_simulates (function : Function) (arguments : List Value) :
    Simulates program room (function.checkCount arguments) (checkCount function arguments) := by
  unfold Function.checkCount checkCount
  split
  · exact Simulates.pure ()
  · exact Simulates.fail _

/-- A call where no activation fits any more fails with memory as without. -/
theorem overflow_simulates :
    Simulates program 0 (do Exec.fail (.stack (.overflow (← get).stack.limit)) : Exec α)
      (do fail (.stack (.overflow (← get).frames.length))) := by
  -- With no room left, the activations that are there are as many as the limit.
  intro context plain
  have limit : context.stack.limit = context.lexical.frames.length := by
    unfold CallStack.limit CallStack.depth Context.lexical
    rw [plain.room, List.length_map, Nat.add_zero]
  refine .inr ⟨context.lexical, ?_, rfl, rfl⟩
  show EStateM.Result.error (Stop.fault (.stack (.overflow context.lexical.frames.length))) _ = _
  rw [limit]

/-- What is yielded by a call. -/
theorem yielded_simulates (value : Value) (type : CType) :
    Simulates program room
      (match value with
        | .void => pure .void
        | value => liftM (value.coerce type))
      (match value with
        | .void => pure .void
        | value => liftM (value.coerce type)) := by
  cases value with
  | void => exact Simulates.pure Value.void
  | int | char | pointer | struct => exact Simulates.lift _

/-- Every function of a program on numbers is run without memory as with it. -/
theorem invoke_simulates (scalar : ∀ function ∈ program.functions, function.isScalar program = true)
    (room : Nat) : ∀ function ∈ program.functions, ∀ arguments,
      Simulates program room (Function.invoke room function arguments none)
        (invoke room function arguments) := by
  -- By induction on how many activations fit; a body calls with room for one less.
  induction room with
  | zero =>
    intro function _ arguments
    rw [Function.invoke, invoke]
    exact Simulates.bind (checkCount_simulates function arguments) fun _ => overflow_simulates
  | succ room ih =>
    intro function member arguments
    -- Everything that the body is made of is about numbers.
    have proper := scalar function member
    simp only [Function.isScalar, Bool.and_eq_true] at proper
    have executes := Exec.executes_confined
    have confined := (executes.statements (executes.invoke room)).2
    have body := Simulates.bind (bindAll_simulates proper.1.1 arguments) fun _ =>
      (statements_simulate scalar ih confined).2 function.body proper.2
    -- The body stays within its activation, so that the caller has its own variables back.
    have within : Exec.Obeys Effect.execution (do
        Function.bindAll function.parameters arguments
        Stmt.execAll (Function.invoke room) function.body) :=
      executes.seq (executes.bindAll function.parameters arguments) fun _ => confined function.body
    have whole := Simulates.bind (activation_simulates function.name within body) fun value =>
      yielded_simulates value function.result
    -- What is yielded comes last on both sides.
    simp only [bind_assoc, pure_bind] at whole
    rw [Function.invoke, invoke]
    exact Simulates.bind (checkCount_simulates function arguments) fun _ => whole

section Literals

/-- A literal that is not empty is written to a block that is held for it, and no other block is
touched. -/
theorem writeText_ok {heap : Heap} {blocks : List Block} (holds : heap.Holds blocks) {block : Block}
    (member : block ∈ blocks) {bytes : List UInt8} (some : 0 < bytes.length)
    (fits : bytes.length + 1 = block.size) :
    ∃ last, block.writeText bytes heap = .ok () last ∧
      ∀ other ∈ blocks, other ≠ block → heap.Untouched last other := by
  -- The text fills the block up to its last byte, which takes the zero behind it.
  have front : 0 + bytes.length ≤ block.size := by omega
  have behind : bytes.length + [(0 : UInt8)].length ≤ block.size := by simp; omega
  obtain ⟨text, first⟩ := holds.writePart member some front
  obtain ⟨zero, second⟩ := (holds.withBytes _).writePart member (by simp) behind
  refine ⟨_, ?_, fun other also differ =>
    (first other also differ).trans (second other also differ)⟩
  unfold Block.writeText
  rw [bind_run, Block.write_within front, text, Block.write_within behind]
  exact zero

/-- An empty literal cannot be written: no part of a block is empty. -/
theorem writeText_empty (block : Block) (heap : Heap) :
    ∃ address, block.writeText [] heap = .error (.invalidAccess address 0) heap := by
  refine ⟨block.address + UInt64.ofNat 0, ?_⟩
  -- An access to no bytes is refused wherever it is.
  have located : heap.locate (block.address + UInt64.ofNat 0) 0 =
      .error (.invalidAccess (block.address + UInt64.ofNat 0) 0) := by
    unfold Heap.locate
    rw [if_pos (.inr (.inl rfl))]
  have refused : Heap.write (block.address + UInt64.ofNat 0) [] heap =
      .error (.invalidAccess (block.address + UInt64.ofNat 0) 0) heap := by
    unfold Heap.write
    rw [List.length_nil, located]
  unfold Block.writeText
  rw [bind_run, Block.write_within (Nat.zero_le _), refused]

/-- A literal that is not empty has bytes. -/
theorem utf8Bytes_pos {literal : String} (some : literal ≠ "") :
    0 < (utf8Bytes literal).length := by
  -- The bytes are counted as the text counts them.
  have size : (utf8Bytes literal).length = literal.utf8ByteSize := String.size_toByteArray
  rw [size, Nat.pos_iff_ne_zero]
  exact fun none => some (String.utf8ByteSize_eq_zero_iff.mp none)

/-- Laying out a literal that is not empty is not seen. -/
theorem loadString_simulates {literal : String} (some : literal ≠ "") :
    Simulates program room (Exec.loadString literal) (pure ()) := by
  intro context plain
  have owns := (Exec.loadString_owns literal).keeps plain.owns
  rw [Exec.after, Exec.loadString_run] at owns
  rw [Exec.loadString_run]
  -- Either there is no room for the literal, or there is a block for it.
  cases allocated : Heap.allocate ((utf8Bytes literal).length + 1) context.heap with
  | error cause heap =>
    obtain ⟨free, rfl⟩ := Heap.allocate_refused (Nat.succ_ne_zero _) allocated
    exact .inl rfl
  | ok block heap =>
    have held := Heap.allocate_holds plain.owns.holds allocated
    obtain ⟨first, -, -, -, rfl, rfl⟩ := Heap.allocate_ok plain.owns.holds.bounded allocated
    obtain ⟨last, wrote, others⟩ := writeText_ok held (List.mem_cons_self ..)
      (utf8Bytes_pos some) rfl
    simp only [allocated, wrote] at owns ⊢
    -- Nothing that was held before is touched.
    have same : Context.lexical { context with heap := last } = context.lexical := by
      refine plain.lexical_untouched fun other member => ?_
      exact others other (List.mem_cons_of_mem _ member) (held.ne_first member)
    exact ⟨congrArg (EStateM.Result.ok ()) same.symm, plain.of_same owns rfl rfl rfl⟩

/-- A computation fails because a part of a block is empty, under the statement it started with, if
it does not lack memory before. -/
def FailsOnEmpty (real : Exec α) (context : Context) : Prop :=
  ∃ cause last, real context = .error (.fault cause) last ∧
    (cause.isOutOfMemory = true ∨ last.active = context.active ∧
      ∃ address, cause = .memory (.invalidAccess address 0))

/-- An empty literal is never laid out. -/
theorem loadString_empty (context : Context) : FailsOnEmpty (Exec.loadString "") context := by
  unfold FailsOnEmpty
  rw [Exec.loadString_run]
  -- A block for the zero byte is asked for, and then nothing can be written in front of it.
  cases allocated : Heap.allocate ((utf8Bytes "").length + 1) context.heap with
  | error cause heap =>
    obtain ⟨free, rfl⟩ := Heap.allocate_refused (Nat.succ_ne_zero _) allocated
    exact ⟨_, _, rfl, .inl rfl⟩
  | ok block heap =>
    obtain ⟨address, refused⟩ := writeText_empty block heap
    have none : utf8Bytes "" = [] := rfl
    simp only [none, refused]
    exact ⟨_, _, rfl, .inr ⟨rfl, address, rfl⟩⟩

/-- Laying out literals none of which is empty is not seen. -/
theorem loadAll_simulates {literals : List String} (proper : "" ∉ literals) :
    Simulates program room (literals.forM Exec.loadString) (pure ()) := by
  -- By induction on the literals, none of which is empty.
  induction literals with
  | nil => exact Simulates.pure ()
  | cons literal rest ih =>
    rw [List.mem_cons, not_or] at proper
    exact Simulates.bind (loadString_simulates (Ne.symm proper.1)) fun _ => ih proper.2

/-- Literals one of which is empty are never all laid out. -/
theorem loadAll_empty {literals : List String} (empty : "" ∈ literals) {context : Context}
    (plain : context.Plain program room) :
    FailsOnEmpty (literals.forM Exec.loadString) context := by
  -- By induction on the literals, up to the first empty one.
  induction literals generalizing context with
  | nil => cases empty
  | cons literal rest ih =>
    rw [List.forM, FailsOnEmpty, bind_run]
    by_cases here : literal = ""
    · -- The first literal is the empty one.
      obtain ⟨cause, last, ran, failure⟩ := loadString_empty context
      rw [here, ran]
      exact ⟨cause, last, rfl, failure⟩
    · -- It comes later, and what is laid out before it is not seen.
      have simulates := loadString_simulates here context plain
      cases ran : Exec.loadString literal context with
      | error reason last =>
        rw [ran] at simulates
        obtain ⟨cause, rfl, lacking⟩ := Unwinds.of_ok simulates
        exact ⟨cause, last, rfl, .inl lacking⟩
      | ok _ last =>
        rw [ran] at simulates
        obtain ⟨seen, plain⟩ := simulates
        have active : context.active = last.active :=
          congrArg State.active (EStateM.Result.ok.inj seen).2
        have later := (List.mem_cons.mp empty).resolve_left (Ne.symm here)
        obtain ⟨cause, left, ran, failure⟩ := ih later plain
        rw [← active] at failure
        exact ⟨cause, left, ran, failure⟩

/-- The literals that are laid out are those of the program. -/
theorem loadStrings_run {context : Context} (plain : context.Plain program room) :
    Exec.loadStrings context = program.strings.toList.forM Exec.loadString context := by
  -- The state says which program it runs.
  unfold Exec.loadStrings
  rw [bind_run, Exec.get_run, ← plain.program]

end Literals

/-- After its literals are laid out, a program on numbers is run without memory as with it. -/
theorem runLoaded_simulates (scalar : program.isScalar = true) (entryPoint : String) :
    Simulates program room (do
        let program := (← get).program
        match program.function? entryPoint with
        | none => Exec.fail (.noEntryPoint entryPoint)
        | some entry =>
          let invoke ← Exec.invoker
          Stmt.execAll invoke program.globals
          return (← invoke entry [] none).exitStatus)
      (runProgram entryPoint room) := by
  -- Both the global statements and the functions are about numbers only.
  rw [Program.isScalar, Bool.and_eq_true, List.all_eq_true] at scalar
  obtain ⟨globals, functions⟩ := scalar
  have executes := Exec.executes_confined
  have calls := invoke_simulates functions room
  have statements := statements_simulate functions calls
    (executes.statements (executes.invoke room)).2
  intro context plain
  have seen : context.lexical.program = program := plain.program
  unfold runProgram
  rw [bind_run, bind_run, Exec.get_run]
  show Mirrors program room
    ((match context.program.function? entryPoint with | none => _ | some _ => _ : Exec Int32)
      context)
    ((match context.lexical.program.function? entryPoint with | none => _ | some _ => _ : Run Int32)
      context.lexical)
  rw [seen, plain.program]
  cases defined : program.function? entryPoint with
  | none => exact .inr ⟨_, rfl, rfl, rfl⟩
  | some entry =>
    have member : entry ∈ program.functions := List.mem_of_find?_eq_some defined
    -- The depth at which the program runs is that of the state it starts in.
    have invoker : Exec.invoker context = .ok (Function.invoke room) context := by
      rw [← plain.room]
      rfl
    dsimp only
    rw [bind_run, invoker]
    exact Simulates.bind (statements.2 program.globals globals) (fun _ =>
      Simulates.bind (calls entry member []) fun value => Simulates.pure value.exitStatus)
      context plain

/-- A program on numbers none of whose literals is empty is run without memory as with it. -/
theorem runProgram_simulates (scalar : program.isScalar = true)
    (proper : "" ∉ program.strings.toList) (entryPoint : String) :
    Simulates program room (Exec.runProgram entryPoint) (runProgram entryPoint room) := by
  have loaded : Simulates program room Exec.loadStrings (pure ()) := by
    intro context plain
    rw [loadStrings_run plain]
    exact loadAll_simulates proper context plain
  -- Laying out the literals is seen as doing nothing, so that only the program is left.
  have whole := Simulates.bind loaded fun _ => runLoaded_simulates scalar entryPoint
  rw [pure_bind] at whole
  exact whole

/-- A program one of whose literals is empty never gets to its first statement. -/
theorem runProgram_empty (empty : "" ∈ program.strings.toList) (entryPoint : String)
    {context : Context} (plain : context.Plain program room) :
    FailsOnEmpty (Exec.runProgram entryPoint) context := by
  -- The program comes behind the literals, and these are never all laid out.
  obtain ⟨cause, last, ran, failure⟩ := loadAll_empty empty plain
  refine ⟨cause, last, ?_, failure⟩
  unfold Exec.runProgram
  rw [bind_run, loadStrings_run plain, ran]

end Lexical

end StepMachine
