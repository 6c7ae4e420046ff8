import StepMachine.Proofs.Eval.Parallel
import StepMachine.Proofs.Exec.Effect

/-! Classes of computations that evaluation and execution do not lead out of. A class is a relation
of computations to themselves, so the inductions over expressions and statements are those for
relations; the one over calls is done here. -/

namespace StepMachine

namespace Context

/-- The same state with another allowance of statements and another record of them. -/
def repaced (context : Context) (grants : Nat) (journal : Journal) : Context :=
  { context with grants, journal }

/-- What is looked at depends neither on how far the program may go on nor on the record of it. -/
def Paceless (look : Context → α) : Prop :=
  ∀ context grants journal, look (context.repaced grants journal) = look context

end Context

/-- A class that holds the steps of which expressions are evaluated, and their sequences. -/
structure Evaluates (P : ∀ α : Type, Exec α → Prop) : Prop where
  pure : ∀ {α : Type} (result : α), P α (pure result)
  bind : ∀ {α β : Type} {run : Exec α} {next : α → Exec β},
    P α run → (∀ result, P β (next result)) → P β (run >>= next)
  inspect : ∀ {α : Type} (look : Context → Except RuntimeError α),
    Context.Paceless look → P α (do look (← get))
  store : ∀ address type value, P Unit (Exec.edit (Heap.store address type value))
  returnBuffer : ∀ type, P (Option Block) (Exec.returnBuffer type)
  print : ∀ text, P Unit (Exec.print text)
  mallocOrNull : ∀ size, P Value (Builtin.mallocOrNull size)
  free : ∀ address, P Unit (Exec.free address)

namespace Evaluates

variable {P : ∀ α : Type, Exec α → Prop} (steps : Evaluates P)

include steps

/-- Results of pure computing belong to the class. -/
theorem lift (result : Except RuntimeError α) : P α (liftM result) :=
  -- What is lifted does not look at the state at all.
  steps.inspect (fun _ => result) fun _ _ _ => rfl

/-- Failures belong to the class. -/
theorem fail (cause : RuntimeError) : P α (Exec.fail cause) := steps.lift (.error cause)

/-- What is taken from the state belongs to the class, unless it is the pace. -/
theorem seen (look : Context → α) (paceless : Context.Paceless look) :
    P α (do return look (← get)) :=
  steps.inspect (fun context => .ok (look context))
    fun context grants journal => congrArg Except.ok (paceless context grants journal)

/-- What is taken from the state first may decide what happens next, unless it is the pace. -/
theorem consult {body : Context → Exec α} (paceless : Context.Paceless body)
    (rest : ∀ context, P α (body context)) : P α (get >>= body) := by
  -- What is looked for is the rest of the computation itself, together with its membership.
  let look : Context → { run : Exec α // P α run } := fun context => ⟨body context, rest context⟩
  have same : Context.Paceless look :=
    fun context grants journal => Subtype.ext (paceless context grants journal)
  have both := steps.bind (steps.seen look same) fun run => run.2
  exact both

/-- Reading memory belongs to the class. -/
theorem readHeap {α : Type} (look : Heap → Except RuntimeError α) : P α (do look (← get).heap) :=
  steps.inspect (fun context => look context.heap) fun _ _ _ => rfl

/-- Looking up a literal belongs to the class. -/
theorem stringAddress (index : Nat) : P Address (Exec.stringAddress index) := by
  -- The table of literals is no part of the pace, and what it holds is known.
  refine steps.consult (fun _ _ _ => rfl) fun context => ?_
  cases context.strings[index]? with
  | some block => exact steps.pure block.address
  | none => exact steps.fail (.undefinedString index)

/-- Looking up a name belongs to the class. -/
theorem lookup (name : String) : P Variable (Exec.lookup name) := by
  refine steps.consult (fun _ _ _ => rfl) fun context => ?_
  -- Neither are the scopes.
  cases context.find? name with
  | some object => exact steps.pure object
  | none => exact steps.fail (.undefinedVariable name)

/-- Looking up a function belongs to the class. -/
theorem resolve (name : String) : P Callable (Exec.resolve name) := by
  refine steps.consult (fun _ _ _ => rfl) fun context => ?_
  cases context.program.function? name with
  | some f => exact steps.pure (Callable.function f)
  -- Functions of the program come before those that the machine provides.
  | none =>
    cases Builtin.ofName? name with
    | some b => exact steps.pure (Callable.builtin b)
    | none => exact steps.fail (.undefinedFunction name)

/-- Loading a place belongs to the class. -/
theorem loadPlace (place : Place) : P Value (Exec.loadPlace place) :=
  -- Only the heap is read.
  steps.readHeap fun heap => heap.load place.address place.type

/-- Reading a text belongs to the class. -/
theorem textAt (pointer : Value) : P String (Builtin.textAt pointer) := by
  refine steps.consult (fun _ _ _ => rfl) fun context => ?_
  refine steps.bind (steps.lift pointer.asPointer) fun address => ?_
  cases context.heap.readText address with
  | ok text => exact steps.pure text
  | error cause => exact steps.fail (.memory cause)

/-- As a relation of computations to themselves, the class holds between the steps of evaluation. -/
theorem parallel : Parallel fun α run run' => run = run' ∧ P α run where
  pure result := ⟨rfl, steps.pure result⟩
  bind first rest := by
    obtain ⟨rfl, first⟩ := first
    -- Equal first parts are followed by equal rests, each of the class.
    exact ⟨congrArg _ (funext fun result => (rest result).1),
      steps.bind first fun result => (rest result).2⟩
  lift result := ⟨rfl, steps.lift result⟩
  stringAddress index := ⟨rfl, steps.stringAddress index⟩
  lookup name := ⟨rfl, steps.lookup name⟩
  resolve name := ⟨rfl, steps.resolve name⟩
  loadPlace place := ⟨rfl, steps.loadPlace place⟩
  textAt pointer := ⟨rfl, steps.textAt pointer⟩
  expand format arguments :=
    ⟨rfl, steps.readHeap fun heap => Format.expand heap format arguments⟩
  store address type value := ⟨rfl, steps.store address type value⟩
  returnBuffer type := ⟨rfl, steps.returnBuffer type⟩
  print text := ⟨rfl, steps.print text⟩
  mallocOrNull size := ⟨rfl, steps.mallocOrNull size⟩
  free address := ⟨rfl, steps.free address⟩

/-- The functions that the machine provides belong to the class. -/
theorem builtin (builtin : Builtin) (arguments : List Value) :
    P Value (builtin.call arguments) :=
  (steps.parallel.builtin builtin arguments).2

/-- If calls belong to the class, then so do the evaluation of every expression, of every list of
expressions and of every place. -/
theorem expressions {invoke : Invoke} (calls : ∀ function arguments buffer,
      P Value (invoke function arguments buffer)) :
    (∀ expression : Expr, P Value (expression.eval invoke)) ∧
      (∀ list, P (List Value) (Expr.evalAll invoke list)) ∧
      ∀ expression : Expr, P Place (expression.place invoke) := by
  -- The relation of a computation to itself is the membership.
  obtain ⟨values, lists, places⟩ := steps.parallel.expressions
    fun function arguments buffer => ⟨rfl, calls function arguments buffer⟩
  exact ⟨fun expression => (values expression).2, fun list => (lists list).2,
    fun expression => (places expression).2⟩

end Evaluates

/-- A class `Q` that holds the steps of which statements are executed, and their sequences, beside
the class `P` of the expressions in them. -/
structure Executes (P Q : ∀ α : Type, Exec α → Prop) : Prop extends Evaluates P where
  weaken : ∀ {α : Type} {run : Exec α}, P α run → Q α run
  seq : ∀ {α β : Type} {run : Exec α} {next : α → Exec β},
    Q α run → (∀ result, Q β (next result)) → Q β (run >>= next)
  alone : ∀ {α : Type} {run : Exec α}, P α run → P α (Exec.alone run)
  handOver : ∀ value, P Value (Exec.handOver value)
  loadString : ∀ literal, Q Unit (Exec.loadString literal)
  declare : ∀ name type init, Q Address (Exec.declare name type init)
  markReturned : ∀ value, Q Unit (Exec.markReturned value)
  inBlock : ∀ {body : Exec Unit}, Q Unit body → Q Unit (Exec.inBlock body)
  statement : ∀ location {effect : Exec Unit}, Q Unit effect →
    Q Unit (Exec.statement location effect)
  loop : ∀ location {test : Exec Bool} {effect : Exec Unit}, P Bool test → Q Unit effect →
    Q Unit (Exec.loop test (Exec.statement location effect))
  activation : ∀ function buffer {body : Exec Unit}, Q Unit body →
    P Frame (Exec.activation function buffer body)

namespace Executes

variable {P Q : ∀ α : Type, Exec α → Prop} (steps : Executes P Q)

include steps

/-- As a relation of computations to themselves, the class holds between the steps of execution. -/
theorem parallel : ParallelStatements (fun α run run' => run = run' ∧ P α run)
    (fun α run run' => run = run' ∧ Q α run) where
  toParallel := steps.toEvaluates.parallel
  weaken related := ⟨related.1, steps.weaken related.2⟩
  seq first rest := by
    obtain ⟨rfl, first⟩ := first
    exact ⟨congrArg _ (funext fun result => (rest result).1),
      steps.seq first fun result => (rest result).2⟩
  alone related := ⟨congrArg _ related.1, steps.alone related.2⟩
  handOver value := ⟨rfl, steps.handOver value⟩
  declare name type init := ⟨rfl, steps.declare name type init⟩
  markReturned value := ⟨rfl, steps.markReturned value⟩
  inBlock related := ⟨congrArg _ related.1, steps.inBlock related.2⟩
  statement location _ _ related := ⟨congrArg _ related.1, steps.statement location related.2⟩
  loop location _ _ _ _ tests related :=
    ⟨by rw [tests.1, related.1], steps.loop location tests.2 related.2⟩

/-- Yielding a value belongs to the wider class as well. -/
theorem done (result : α) : Q α (pure result) := (steps.parallel.done result).2

/-- A result that is not wanted does not lead out of the class. -/
theorem discard {run : Exec α} (first : Q α run) : Q Unit (discard run) :=
  (steps.parallel.discard ⟨rfl, first⟩).2

/-- Each statement is an effect of the class under the protocol that all statements share, and a
list of statements belongs to the class, if calls do. -/
theorem statements {invoke : Invoke} (calls : ∀ function arguments buffer,
      P Value (invoke function arguments buffer)) :
    (∀ statement : Stmt, ∃ effect,
        statement.exec invoke = Exec.statement statement.location effect ∧ Q Unit effect) ∧
      ∀ list, Q Unit (Stmt.execAll invoke list) := by
  -- Both sides of the relation are the same statement.
  obtain ⟨effects, lists⟩ := steps.parallel.statements
    fun function arguments buffer => ⟨rfl, calls function arguments buffer⟩
  refine ⟨fun statement => ?_, fun list => (lists list).2⟩
  -- Of the two effects that are equal, either is the one.
  obtain ⟨effect, -, same, -, -, inside⟩ := effects statement
  exact ⟨effect, same, inside⟩

/-- Binding parameters belongs to the class. -/
theorem bindAll (parameters : List (String × CType)) (values : List Value) :
    Q Unit (Function.bindAll parameters values) :=
  (steps.parallel.bindAll parameters values).2

/-- Checking the number of arguments belongs to the class. -/
theorem checkCount (function : Function) (arguments : List Value) :
    P Unit (function.checkCount arguments) :=
  (steps.parallel.checkCount function arguments).2

/-- Calls belong to the class of expressions, however many more of them fit on the stack. -/
theorem invoke (room : Nat) (function : Function) (arguments : List Value)
    (buffer : Option Block) : P Value (Function.invoke room function arguments buffer) := by
  -- The body of a function calls others with one place less, so the induction is on the room.
  induction room generalizing function arguments buffer with
  | zero =>
    rw [Function.invoke]
    exact steps.bind (steps.checkCount function arguments) fun _ =>
      steps.consult (fun _ _ _ => rfl) fun context => steps.fail _
  | succ room ih =>
    obtain ⟨-, bodies⟩ := steps.statements ih
    -- Parameters are bound inside the new activation, before the body runs.
    have body := steps.seq (steps.bindAll function.parameters arguments)
      fun _ => bodies function.body
    rw [Function.invoke]
    exact steps.bind (steps.checkCount function arguments) fun _ =>
      steps.bind (steps.activation function.name buffer body) fun frame =>
        (steps.parallel.yielded frame function.result).2

/-- What is taken from the state first may decide which statements follow. -/
theorem guided {body : Context → Exec α} (paceless : Context.Paceless body)
    (rest : ∀ context, Q α (body context)) : Q α (get >>= body) := by
  -- Looking belongs to the narrower class; only what follows may need the wider one.
  let look : Context → { run : Exec α // Q α run } := fun context => ⟨body context, rest context⟩
  have same : Context.Paceless look :=
    fun context grants journal => Subtype.ext (paceless context grants journal)
  have both := steps.seq (steps.weaken (steps.seen look same)) fun run => run.2
  exact both

/-- The depth that is left decides how calls are run. -/
theorem invoked {next : Invoke → Exec α} (rest : ∀ room, Q α (next (Function.invoke room))) :
    Q α (Exec.invoker >>= next) :=
  steps.guided (fun _ _ _ => rfl) fun context => rest context.stack.room

/-- Laying out the string table belongs to the class. -/
theorem loadStrings : Q Unit Exec.loadStrings := by
  -- The literals of the program are laid out one after the other.
  have each (literals : List String) : Q Unit (literals.forM Exec.loadString) := by
    induction literals with
    | nil => exact steps.done ()
    | cons literal literals ih => exact steps.seq (steps.loadString literal) fun _ => ih
  exact steps.guided (fun _ _ _ => rfl) fun context => each context.program.strings.toList

/-- Whole programs belong to the class of statements. -/
theorem runProgram (entryPoint : String) : Q Int32 (Exec.runProgram entryPoint) := by
  refine steps.seq steps.loadStrings fun _ => steps.guided (fun _ _ _ => rfl) fun context => ?_
  dsimp only
  -- Without an entry point not even the global declarations run.
  cases context.program.function? entryPoint with
  | none => exact steps.weaken (steps.fail _)
  | some entry =>
    refine steps.invoked fun room => ?_
    -- The global declarations run outside of any function, and then the entry point is called.
    obtain ⟨-, lists⟩ := steps.statements (steps.invoke room)
    exact steps.seq (lists context.program.globals) fun _ =>
      steps.seq (steps.weaken (steps.invoke room entry [] none)) fun value => steps.done _

end Executes

/-- Every statement is an effect under the protocol that all statements share. -/
theorem Stmt.exec_eq_statement (invoke : Invoke) (statement : Stmt) :
    ∃ effect, statement.exec invoke = Exec.statement statement.location effect := by
  -- Evaluation and execution do not lead out of the class of all computations.
  have all : Executes (fun _ _ => True) (fun _ _ => True) := by
    constructor
    · constructor <;> intros <;> trivial
    all_goals intros; trivial
  obtain ⟨effect, same, -⟩ := (all.statements fun _ _ _ => trivial).1 statement
  exact ⟨effect, same⟩

namespace Exec

/-- After the current function has returned, a statement does nothing, however calls are run. -/
theorem exec_returned (invoke : Invoke) (statement : Stmt) {context : Context}
    (returned : context.hasReturned = true) : statement.exec invoke context = .ok () context := by
  -- Every statement asks first whether the function has returned.
  obtain ⟨effect, same⟩ := Stmt.exec_eq_statement invoke statement
  rw [same, statement_run, returned]
  rfl

/-- After the current function has returned, a list of statements does nothing. -/
theorem execAll_returned (invoke : Invoke) (list : List Stmt) {context : Context}
    (returned : context.hasReturned = true) :
    Stmt.execAll invoke list context = .ok () context := by
  -- Each statement of the list is skipped by itself.
  induction list with
  | nil =>
    rw [Stmt.execAll]
    rfl
  | cons statement rest ih =>
    rw [Stmt.execAll, bind_run, exec_returned invoke statement returned]
    exact ih

/-- After the current function has returned, a loop that has a turn left does nothing. -/
theorem repeatWhile_returned (test : Exec Bool) (body : Exec Unit) (turns : Nat)
    {context : Context} (returned : context.hasReturned = true) :
    repeatWhile test body (turns + 1) context = .ok () context := by
  -- The turn looks at the mark of the activation before anything else.
  simp only [repeatWhile, bind_run, get_run, returned, if_true, pure_run]

end Exec

end StepMachine
