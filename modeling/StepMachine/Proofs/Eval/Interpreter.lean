import StepMachine.Proofs.Stack.Discipline

/-! Programs interpreted in any monad. The single steps of a running program are taken as they are.
How they are put together, how often a loop is repeated, how far a text is read and how a function
is called is left to the interpreter. What relates each of these to the steps of the machine relates
the whole interpretation of a program to running it. -/

namespace StepMachine

/-- How functions of the program are called in a monad. -/
abbrev Calls (m : Type → Type) := Function → List Value → Option Block → m Value

/-- What an interpreter brings along. -/
structure Interpreter (m : Type → Type) where
  /-- Takes a single step of a running program. -/
  step : {α : Type} → Exec α → m α
  /-- Runs a body, and then what comes last, however the body ends. -/
  lastly : {α β : Type} → m α → m β → m (α × β)
  /-- Runs what stands between the beginning and the end of a statement. -/
  inside : Location → m Unit → m Unit
  /-- Repeats a body while a test holds and the current function has not returned. -/
  loop : m Bool → m Unit → m Unit
  /-- Reads the text at an address. -/
  text : Address → m String

namespace Exec

/-- Looks at the heap of the program. -/
def reading (look : Heap → Except RuntimeError α) : Exec α := do look (← get).heap

/-- The text at an address. -/
def textFrom (address : Address) : Exec String := do (← get).heap.readText address

/-- Looking twice is one look, since it changes nothing. -/
theorem reading_bind (look : Heap → Except RuntimeError α)
    (next : α → Heap → Except RuntimeError β) :
    reading (fun heap => do next (← look heap) heap) =
      reading look >>= fun result => reading (next result) := by
  funext context
  simp only [reading, bind_run, get_run]
  cases look context.heap <;> rfl

/-- What is made of a look can be made after it. -/
theorem reading_map (look : Heap → Except RuntimeError α) (make : α → β) :
    reading (fun heap => do return make (← look heap)) =
      reading look >>= fun result => pure (make result) :=
  reading_bind look fun result _ => .ok (make result)

/-- What does not depend on the heap can be computed first. -/
theorem reading_after (result : Except RuntimeError α)
    (next : α → Heap → Except RuntimeError β) :
    reading (fun heap => do next (← result) heap) =
      liftM result >>= fun result => reading (next result) :=
  -- A result that is known takes no look.
  reading_bind (fun _ => result) next

/-- The text that a value leads to is the text at its address. -/
theorem textAt_eq (pointer : Value) :
    Builtin.textAt pointer = liftM pointer.asPointer >>= textFrom := by
  -- First the value is made an address, which does not look at the state.
  funext context
  simp only [Builtin.textAt, textFrom, bind_run, get_run]
  cases pointer.asPointer <;> rfl

/-- The text that a directive writes is the text at an address, unless that is null. -/
theorem reading_text (argument : Value) :
    reading (fun heap => Directive.text.write heap argument) =
      liftM argument.asPointer >>= fun address =>
        if address = 0 then pure "(null)" else textFrom address := by
  simp only [Directive.write, reading_after]
  congr 1
  funext address
  -- A text that cannot be read fails for the same cause either way.
  split
  · rfl
  · funext context
    simp only [reading, textFrom, bind_run, get_run]
    cases context.heap.readText address <;> rfl

/-- Runs a whole program whose functions are called in a given way. -/
def programBy (invoke : Invoke) (entryPoint : String) : Exec Int32 := do
  let literals ← (do return (← get).program.strings.toList)
  literals.forM loadString
  let program ← (do return (← get).program)
  match program.function? entryPoint with
  | none => fail (.noEntryPoint entryPoint)
  | some entry =>
    Stmt.execAll invoke program.globals
    return (← invoke entry [] none).exitStatus

/-- A program calls its functions from the depth on at which it is started. -/
theorem runProgram_eq (entryPoint : String) (context : Context) :
    runProgram entryPoint context =
      programBy (Function.invoke context.stack.room) entryPoint context := by
  have loads := executes_confined.loadStrings context
  -- The literals come first on both sides, and the rest is put together in the same way.
  simp only [runProgram, loadStrings, programBy, bind_run, get_run, pure_run] at loads ⊢
  cases ran : context.program.strings.toList.forM loadString context with
  | error reason last => rfl
  | ok _ middle =>
    -- Laying out the literals leaves the stack as it was.
    rw [ran] at loads
    have room : middle.stack.room = context.stack.room := loads.1.room
    simp only
    cases middle.program.function? entryPoint with
    | none => rfl
    | some entry => simp only [invoker, bind_run, get_run, pure_run, room]

end Exec

/-- Reading the text at an address belongs to every class that evaluation does not lead out of. -/
theorem Evaluates.textFrom {P : ∀ α : Type, Exec α → Prop} (steps : Evaluates P)
    (address : Address) : P String (Exec.textFrom address) := by
  refine steps.consult (fun _ _ _ => rfl) fun context => ?_
  cases context.heap.readText address with
  | ok text => exact steps.pure text
  | error cause => exact steps.fail (.memory cause)

namespace Interpreter

variable {m : Type → Type} [Monad m] (I : Interpreter m)

/-- Takes a result of pure computing. -/
def lift (result : Except RuntimeError α) : m α := I.step (liftM result)

/-- Writes one argument of a format. -/
def write (argument : Value) : Directive → m String
  | .text => do
    let address ← I.lift argument.asPointer
    if address = 0 then return "(null)" else I.text address
  -- No other directive follows a pointer.
  | other => I.step (Exec.reading fun heap => other.write heap argument)

/-- What the letter behind a percent sign writes, and the arguments that it leaves over. -/
def directive (letter : Char) (arguments : List Value) : m (String × List Value) :=
  if letter = '%' then return ("%", arguments)
  else match Directive.ofLetter? letter, arguments with
    | some directive, argument :: rest => do return (← I.write argument directive, rest)
    | some _, [] => I.lift (.error (.invalidFormat (.missingArgument letter)))
    | none, _ => I.lift (.error (.invalidFormat (.unsupported letter)))

/-- Expands the directives of a format from left to right. -/
def expand : List Char → List Value → m (List Char)
  | [], _ => return []
  | c :: rest, arguments =>
    if c = '%' then
      match rest with
      | [] => return ['%']
      | letter :: rest => do
        let (text, arguments) ← I.directive letter arguments
        return text.toList ++ (← expand rest arguments)
    else do return c :: (← expand rest arguments)

/-- Calls a function that the machine provides. -/
def builtin : Builtin → List Value → m Value
  | .printf, format :: arguments => do
    let format ← I.text (← I.lift format.asPointer)
    let text := String.ofList (← I.expand format.toList arguments)
    I.step (Exec.print text)
    return .int (Int32.ofNat text.utf8ByteSize)
  | .puts, [argument] => do
    let text ← I.text (← I.lift argument.asPointer)
    I.step (Exec.print (text ++ "\n"))
    return .int 0
  -- The others read no text.
  | other, arguments => I.step (other.call arguments)

/-- Calls what a name stands for. -/
def call (calls : Calls m) (arguments : List Value) (buffer : Option Block) : Callable → m Value
  | .function f => calls f arguments buffer
  | .builtin b => I.builtin b arguments

/-- Whether a value counts as true. -/
def truth (value : Value) : m Bool := I.lift value.isTruthy

mutual

/-- The value of an expression. -/
def eval (calls : Calls m) : Expr → m Value
  | .int n => I.step (return .int n)
  | .char c => I.step (return .char c)
  | .string index => I.step (return .pointer (← Exec.stringAddress index))
  | .null => I.step (return .pointer 0)
  | .var name => I.step do
    let object ← Exec.lookup name
    Exec.loadPlace ⟨object.address, object.type⟩
  | .binary (.connective .and) left right => do
    if ← I.truth (← eval calls left) then return .ofBool (← I.truth (← eval calls right))
    else return .ofBool false
  | .binary (.connective .or) left right => do
    if ← I.truth (← eval calls left) then return .ofBool true
    else return .ofBool (← I.truth (← eval calls right))
  | .binary (.arithmetic op) left right => do
    let a ← eval calls left
    let b ← eval calls right
    I.lift (Value.arithmetic op a b)
  | .binary (.comparison op) left right => do
    let a ← eval calls left
    let b ← eval calls right
    I.lift (Value.compare op a b)
  | .unary op operand => do I.lift (Value.unary op (← eval calls operand))
  | .addressOf operand => return .pointer (← place calls operand).address
  | .deref pointer type => do
    I.step (Exec.loadPlace (← I.lift ((← eval calls pointer).target type)))
  | .member object field => do
    I.step (Exec.loadPlace (← I.lift ((← eval calls object).member field)))
  | .assign target value => do
    let value ← eval calls value
    let place ← place calls target
    I.step (Exec.edit (Heap.store place.address place.type value))
    I.step (Exec.loadPlace place)
  | .call function arguments => do
    let callee ← I.step (Exec.resolve function)
    let values ← evalAll calls arguments
    let buffer ← I.step (Exec.returnBuffer callee.result)
    I.call calls values buffer callee

/-- The place that an expression names. -/
def place (calls : Calls m) : Expr → m Place
  | .var name => I.step do
    let object ← Exec.lookup name
    return ⟨object.address, object.type⟩
  | .deref pointer type => do I.lift ((← eval calls pointer).target type)
  | .member object field => do I.lift ((← eval calls object).member field)
  | _ => I.lift (.error .notAssignable)

/-- The values of expressions, from left to right. -/
def evalAll (calls : Calls m) : List Expr → m (List Value)
  | [] => return []
  | argument :: rest => do
    let value ← eval calls argument
    return value :: (← evalAll calls rest)

end

/-- Runs a computation whose temporary objects go when it is over. -/
def alone (run : m α) : m α := do
  let mark ← I.step Exec.temporaryMark
  return (← I.lastly run (I.step (Exec.releaseTemporaries mark))).1

/-- Runs the effect of a statement, unless the current function has returned. -/
def statement (location : Location) (effect : m Unit) : m Unit := do
  if (← I.step get).hasReturned then return
  I.step (modify fun context => { context with active := location :: context.active })
  I.inside location (I.alone do
    I.step (Exec.enter location)
    effect)
  I.step (modify fun context => { context with active := context.active.tail })

/-- Runs a body in a block of the current function. -/
def inBlock (body : m Unit) : m Unit := do
  I.step Exec.pushScope
  return (← I.lastly body (I.step Exec.popScope)).1

/-- Runs a body in an activation of a function, and returns the activation. -/
def activation (function : String) (buffer : Option Block) (body : m Unit) : m Frame := do
  I.step (Exec.pushFrame function buffer)
  return (← I.lastly body (I.step Exec.popFrame)).2

/-- Runs a computation whose result is not wanted. -/
def drop (run : m α) : m Unit := run >>= fun _ => pure ()

/-- Whether a condition holds. -/
def test (calls : Calls m) (condition : Expr) : m Bool := do
  I.truth (← I.eval calls condition)

mutual

/-- Runs a statement. -/
def exec (calls : Calls m) : Stmt → m Unit
  | .declare name type init location => I.statement location do
    match init with
    | some value =>
      let value ← I.eval calls value
      drop (I.step (Exec.declare name type (some value)))
    | none => drop (I.step (Exec.declare name type none))
  | .expression value location => I.statement location do
    drop (I.eval calls value)
  | .block body location => I.statement location do
    I.inBlock (execAll calls body)
  | .branch condition yes no location => I.statement location do
    if ← I.test calls condition then exec calls yes
    else match no with
      | some statement => exec calls statement
      | none => return
  | .loop condition body location => I.statement location do
    I.loop (I.alone (I.test calls condition)) (exec calls body)
  | .ret value location => I.statement location do
    match value with
    | some value =>
      let value ← I.step (Exec.handOver (← I.eval calls value))
      I.step (Exec.markReturned value)
    | none => I.step (Exec.markReturned .void)

/-- Runs statements in order. -/
def execAll (calls : Calls m) : List Stmt → m Unit
  | [] => return
  | statement :: rest => do
    exec calls statement
    execAll calls rest

end

/-- Binds the parameters to argument values, in order. -/
def bindAll : List (String × CType) → List Value → m Unit
  | (name, type) :: parameters, value :: values => do
    drop (I.step (Exec.declare name type (some value)))
    bindAll parameters values
  | _, _ => return

/-- Runs a function on argument values, whose body makes its calls in a way of its own. -/
def invoke (calls : Calls m) (function : Function) (arguments : List Value)
    (buffer : Option Block) : m Value := do
  I.step (function.checkCount arguments)
  let frame ← I.activation function.name buffer do
    I.bindAll function.parameters arguments
    I.execAll calls function.body
  match frame.result with
  | .void => return .void
  | value => I.lift (value.coerce function.result)

/-- Runs a whole program. -/
def runProgram (calls : Calls m) (entryPoint : String) : m Int32 := do
  let literals ← I.step do return (← get).program.strings.toList
  literals.forM fun literal => I.step (Exec.loadString literal)
  let program ← I.step do return (← get).program
  match program.function? entryPoint with
  | none => I.lift (.error (.noEntryPoint entryPoint))
  | some entry =>
    I.execAll calls program.globals
    return (← calls entry [] none).exitStatus

end Interpreter

/-- How an interpreter is tied to the machine. Single steps belong to a class `K`. An expression and
its interpretation are related by `R`, a statement and its interpretation by `S`. -/
structure Interprets {m : Type → Type} [Monad m] (I : Interpreter m)
    (K : ∀ α : Type, Exec α → Prop) (R S : ∀ α : Type, m α → Exec α → Prop) : Prop where
  single : Evaluates K
  handOver : ∀ value, K Value (Exec.handOver value)
  step : ∀ {α : Type} {run : Exec α}, K α run → R α (I.step run) run
  pure : ∀ {α : Type} (result : α), R α (pure result) (pure result)
  bind : ∀ {α β : Type} {run' : m α} {run : Exec α} {next' : α → m β} {next : α → Exec β},
    R α run' run → (∀ result, R β (next' result) (next result)) →
      R β (run' >>= next') (run >>= next)
  text : ∀ address, R String (I.text address) (Exec.textFrom address)
  alone : ∀ {α : Type} {run' : m α} {run : Exec α}, R α run' run →
    R α (I.alone run') (Exec.alone run)
  -- What only statements do.
  weaken : ∀ {α : Type} {run' : m α} {run : Exec α}, R α run' run → S α run' run
  seq : ∀ {α β : Type} {run' : m α} {run : Exec α} {next' : α → m β} {next : α → Exec β},
    S α run' run → (∀ result, S β (next' result) (next result)) →
      S β (run' >>= next') (run >>= next)
  declare : ∀ name type init,
    S Address (I.step (Exec.declare name type init)) (Exec.declare name type init)
  markReturned : ∀ value, S Unit (I.step (Exec.markReturned value)) (Exec.markReturned value)
  loadString : ∀ literal, S Unit (I.step (Exec.loadString literal)) (Exec.loadString literal)
  inBlock : ∀ {body' : m Unit} {body : Exec Unit}, S Unit body' body →
    S Unit (I.inBlock body') (Exec.inBlock body)
  statement : ∀ location {effect' : m Unit} {effect : Exec Unit}, S Unit effect' effect →
    S Unit (I.statement location effect') (Exec.statement location effect)
  loop : ∀ location {test' : m Bool} {test : Exec Bool} {effect' : m Unit} {effect : Exec Unit},
    R Bool test' test → S Unit effect' effect →
      S Unit (I.loop test' (I.statement location effect'))
        (Exec.loop test (Exec.statement location effect))

namespace Interprets

variable {m : Type → Type} [Monad m] {I : Interpreter m} {K : ∀ α : Type, Exec α → Prop}
  {R S : ∀ α : Type, m α → Exec α → Prop} (ties : Interprets I K R S)

include ties

/-- Results of pure computing are related. -/
theorem lift (result : Except RuntimeError α) : R α (I.lift result) (liftM result) :=
  -- The result needs no look at the state, so it is a single step.
  ties.step (ties.single.lift result)

/-- Looks at the heap are related. -/
theorem reading (look : Heap → Except RuntimeError α) :
    R α (I.step (Exec.reading look)) (Exec.reading look) :=
  ties.step (ties.single.readHeap look)

/-- Yielding a value is related among statements as well. -/
theorem done (result : α) : S α (Pure.pure result) (Pure.pure result) :=
  ties.weaken (ties.pure result)

/-- Results that are not wanted keep the relation. -/
theorem drop {run' : m α} {run : Exec α} (first : S α run' run) :
    S Unit (Interpreter.drop run') (discard run) := by
  -- Behind the result nothing is done.
  rw [discard_eq]
  exact ties.seq first fun _ => ties.done ()

/-- Writing an argument of a format is related to a look at the heap. -/
theorem write (argument : Value) (directive : Directive) :
    R String (I.write argument directive)
      (Exec.reading fun heap => directive.write heap argument) := by
  -- A text is read as long as it has bytes, and everything else is written from the heap as it is.
  cases directive with
  | text =>
    rw [Exec.reading_text]
    refine ties.bind (ties.lift argument.asPointer) fun address => ?_
    -- Null has a name of its own, and no text is read.
    split
    · exact ties.pure _
    · exact ties.text address
  | _ => exact ties.reading _

/-- What a letter behind a percent sign writes is related to a look at the heap. -/
theorem directive (letter : Char) (arguments : List Value) :
    R (String × List Value) (I.directive letter arguments)
      (Exec.reading fun heap => Format.directive heap letter arguments) := by
  -- A percent sign is written without a look.
  unfold Interpreter.directive Format.directive
  split
  · exact ties.pure _
  · -- Which directive it is, and whether an argument is left for it, decides in both.
    cases Directive.ofLetter? letter with
    | none => exact ties.lift _
    | some directive =>
      cases arguments with
      | nil => exact ties.lift _
      | cons argument rest =>
        simp only [Exec.reading_map]
        exact ties.bind (ties.write argument directive) fun text => ties.pure _

/-- Expanding a format is related to one look at the heap. -/
theorem expand (format : List Char) (arguments : List Value) :
    R (List Char) (I.expand format arguments)
      (Exec.reading fun heap => Format.expand heap format arguments) := by
  -- The induction follows the format, in which a directive takes two letters.
  fun_induction Interpreter.expand I format arguments with
  | case1 => exact ties.pure _
  | case2 => exact ties.pure _
  -- The directive is written first, and what is behind it from the arguments that are left.
  | case3 arguments letter rest ih =>
    simp only [Format.expand, if_true]
    rw [Exec.reading_bind (fun heap => Format.directive heap letter arguments)
      fun written heap => do return written.1.toList ++ (← Format.expand heap rest written.2)]
    refine ties.bind (ties.directive letter arguments) fun written => ?_
    rw [Exec.reading_map]
    exact ties.bind (ih written.2) fun behind => ties.pure _
  -- Any other letter stands for itself.
  | case4 c rest arguments plain ih =>
    unfold Format.expand
    simp only [if_neg plain, Exec.reading_map]
    exact ties.bind ih fun behind => ties.pure _

/-- The functions that the machine provides are related. -/
theorem builtin (builtin : Builtin) (arguments : List Value) :
    R Value (I.builtin builtin arguments) (builtin.call arguments) := by
  -- Two of the functions read texts, and the others are single steps.
  fun_cases Interpreter.builtin I builtin arguments with
  | case1 format arguments =>
    rw [Builtin.call, Exec.textAt_eq, bind_assoc]
    refine ties.bind (ties.lift _) fun address => ties.bind (ties.text address) fun format => ?_
    -- Reading the text and expanding it are one look at the heap.
    rw [← bind_assoc]
    exact ties.bind (ties.expand format.toList arguments) fun text =>
      ties.bind (ties.step (ties.single.print _)) fun _ => ties.pure _
  -- The text is read and printed.
  | case2 argument =>
    rw [Builtin.call, Exec.textAt_eq, bind_assoc]
    exact ties.bind (ties.lift _) fun address => ties.bind (ties.text address) fun text =>
      ties.bind (ties.step (ties.single.print _)) fun _ => ties.pure _
  | case3 => exact ties.step (ties.single.builtin _ _)

/-- Testing related truth values, then going on on related ways, is related. -/
theorem whenTrue {value' : m Value} {value : Exec Value} (first : R Value value' value)
    {yes' no' : m α} {yes no : Exec α} (left : R α yes' yes) (right : R α no' no) :
    R α (do if ← I.truth (← value') then yes' else no')
      (do if ← (← value).isTruthy then yes else no) := by
  -- Both sides test the same value.
  refine ties.bind first fun value => ties.bind (ties.lift value.isTruthy) fun truth => ?_
  cases truth with
  | true => exact left
  | false => exact right

section Calls

variable {calls : Calls m} {invoke : Invoke} (related : ∀ function arguments buffer,
  R Value (calls function arguments buffer) (invoke function arguments buffer))

include related

/-- Calling what a name stands for is related, if calls of the program's functions are. -/
theorem call (arguments : List Value) (buffer : Option Block) (callee : Callable) :
    R Value (I.call calls arguments buffer callee) (callee.call invoke arguments buffer) := by
  -- A function of the program is related by assumption.
  cases callee with
  | function f => exact related f arguments buffer
  | builtin b => exact ties.builtin b arguments

/-- If calls are related, then so are every expression, every list of expressions and every place
to their interpretations. -/
theorem expressions :
    (∀ expression : Expr, R Value (I.eval calls expression) (expression.eval invoke)) ∧
      (∀ list, R (List Value) (I.evalAll calls list) (Expr.evalAll invoke list)) ∧
      ∀ expression : Expr, R Place (I.place calls expression) (expression.place invoke) := by
  -- The induction follows the three functions that evaluate, case by case.
  apply Expr.eval.mutual_induct
  -- Literals and null are there without a look.
  case case1 | case2 | case4 =>
    intros
    rw [Interpreter.eval, Expr.eval]
    exact ties.step (ties.single.pure _)
  -- The address of a string and that of a variable are found in the state.
  case case3 =>
    intro index
    rw [Interpreter.eval, Expr.eval]
    exact ties.step (ties.single.bind (ties.single.stringAddress index) fun _ => ties.single.pure _)
  case case5 =>
    intro name
    rw [Interpreter.eval, Expr.eval]
    exact ties.step (ties.single.bind (ties.single.lookup name) fun object =>
      ties.single.loadPlace ⟨object.address, object.type⟩)
  -- The right side is evaluated only if the left one does not decide.
  case case6 =>
    intro left right first second
    rw [Interpreter.eval, Expr.eval]
    exact ties.whenTrue first
      (ties.bind second fun value =>
        ties.bind (ties.lift value.isTruthy) fun truth => ties.pure _)
      (ties.pure _)
  case case7 =>
    intro left right first second
    rw [Interpreter.eval, Expr.eval]
    exact ties.whenTrue first (ties.pure _)
      (ties.bind second fun value =>
        ties.bind (ties.lift value.isTruthy) fun truth => ties.pure _)
  case case8 | case9 =>
    intro op left right first second
    rw [Interpreter.eval, Expr.eval]
    exact ties.bind first fun a => ties.bind second fun b => ties.lift _
  case case10 =>
    intro op operand first
    rw [Interpreter.eval, Expr.eval]
    exact ties.bind first fun value => ties.lift _
  case case11 =>
    intro operand first
    rw [Interpreter.eval, Expr.eval]
    exact ties.bind first fun place => ties.pure _
  -- A member is read where a pointer leads to, as it were.
  case case12 | case13 =>
    intro pointer type first
    rw [Interpreter.eval, Expr.eval]
    exact ties.bind first fun value => ties.bind (ties.lift _) fun place =>
      ties.step (ties.single.loadPlace place)
  -- The value comes first, then the place that it is stored to.
  case case14 =>
    intro target value second first
    rw [Interpreter.eval, Expr.eval]
    exact ties.bind second fun value => ties.bind first fun place =>
      ties.bind (ties.step (ties.single.store place.address place.type value)) fun _ =>
        ties.step (ties.single.loadPlace place)
  -- The function is found before its arguments are evaluated.
  case case15 =>
    intro function arguments all
    rw [Interpreter.eval, Expr.eval]
    exact ties.bind (ties.step (ties.single.resolve function)) fun callee =>
      ties.bind all fun values =>
        ties.bind (ties.step (ties.single.returnBuffer callee.result)) fun buffer =>
          ties.call related values buffer callee
  -- A name is a place, and so is what a pointer or a structure leads to.
  case case16 =>
    intro name
    rw [Interpreter.place, Expr.place]
    exact ties.step (ties.single.bind (ties.single.lookup name) fun object => ties.single.pure _)
  case case17 | case18 =>
    intro object field first
    rw [Interpreter.place, Expr.place]
    exact ties.bind first fun value => ties.lift _
  -- Nothing else is a place.
  case case19 =>
    intro expression noName noPointer noMember
    rw [Interpreter.place, Expr.place]
    · exact ties.lift (.error .notAssignable)
    all_goals assumption
  -- Arguments are evaluated from left to right.
  case case20 =>
    rw [Interpreter.evalAll, Expr.evalAll]
    exact ties.pure _
  case case21 =>
    intro argument rest first all
    rw [Interpreter.evalAll, Expr.evalAll]
    exact ties.bind first fun value => ties.bind all fun values => ties.pure _

/-- Testing a condition is related. -/
theorem test (condition : Expr) :
    R Bool (I.test calls condition) (Exec.test invoke condition) :=
  ties.bind ((ties.expressions related).1 condition) fun value => ties.lift value.isTruthy

/-- If calls are related, then each statement and its interpretation are related effects under the
protocol that all statements share, and lists of statements are related. -/
theorem statements :
    (∀ statement : Stmt, ∃ effect' effect,
        I.exec calls statement = I.statement statement.location effect' ∧
        statement.exec invoke = Exec.statement statement.location effect ∧
        S Unit effect' effect) ∧
      ∀ list, S Unit (I.execAll calls list) (Stmt.execAll invoke list) := by
  -- A condition is tested under the same relation as it is evaluated.
  have evaluation := (ties.expressions related).1
  have tests := ties.test related
  -- Statements whose effects are related are related as a whole.
  have whole {statement : Stmt} (known : ∃ effect' effect,
      I.exec calls statement = I.statement statement.location effect' ∧
      statement.exec invoke = Exec.statement statement.location effect ∧
      S Unit effect' effect) :
      S Unit (I.exec calls statement) (statement.exec invoke) := by
    obtain ⟨effect', effect, same', same, related⟩ := known
    rw [same, same']
    exact ties.statement statement.location related
  -- The induction follows execution, with one case for each kind of statement.
  apply Stmt.exec.mutual_induct
  case case1 =>
    intro name type init location
    -- A variable may come without an initial value.
    cases init with
    | none =>
      exact ⟨_, _, Interpreter.exec.eq_2 .., Stmt.exec.eq_2 ..,
        ties.drop (ties.declare name type none)⟩
    | some value =>
      refine ⟨_, _, Interpreter.exec.eq_1 .., Stmt.exec.eq_1 .., ?_⟩
      exact ties.seq (ties.weaken (evaluation value)) fun value =>
        ties.drop (ties.declare name type (some value))
  case case2 =>
    intro value location
    exact ⟨_, _, Interpreter.exec.eq_3 .., Stmt.exec.eq_3 ..,
      ties.drop (ties.weaken (evaluation value))⟩
  case case3 =>
    intro body location inside
    exact ⟨_, _, Interpreter.exec.eq_4 .., Stmt.exec.eq_4 .., ties.inBlock inside⟩
  case case4 =>
    intro condition yes no location left right
    -- Without a second branch, nothing is run in its place.
    cases no with
    | none =>
      refine ⟨_, _, Interpreter.exec.eq_6 .., Stmt.exec.eq_6 ..,
        ties.seq (ties.weaken (tests condition)) fun truth => ?_⟩
      cases truth with
      | true => exact whole left
      | false => exact ties.done ()
    | some no =>
      refine ⟨_, _, Interpreter.exec.eq_5 .., Stmt.exec.eq_5 ..,
        ties.seq (ties.weaken (tests condition)) fun truth => ?_⟩
      cases truth with
      | true => exact whole left
      | false => exact whole right
  -- The body of a loop is a statement, and a loop may rely on that.
  case case5 =>
    intro condition body location inside
    obtain ⟨effect', effect, same', same, related⟩ := inside
    refine ⟨_, _, Interpreter.exec.eq_7 .., Stmt.exec.eq_7 .., ?_⟩
    rw [same, same']
    exact ties.loop body.location (ties.alone (tests condition)) related
  case case6 =>
    intro value location
    -- A structure is handed over to the storage of the caller before the function is left.
    cases value with
    | none =>
      exact ⟨_, _, Interpreter.exec.eq_9 .., Stmt.exec.eq_9 .., ties.markReturned .void⟩
    | some value =>
      refine ⟨_, _, Interpreter.exec.eq_8 .., Stmt.exec.eq_8 .., ?_⟩
      exact ties.seq (ties.weaken (evaluation value)) fun value =>
        ties.seq (ties.weaken (ties.step (ties.handOver value))) fun value =>
          ties.markReturned value
  case case7 =>
    rw [Interpreter.execAll, Stmt.execAll]
    exact ties.done ()
  case case8 =>
    intro statement rest first all
    rw [Interpreter.execAll, Stmt.execAll]
    exact ties.seq (whole first) fun _ => all

/-- Every statement is related to its interpretation, if calls are. -/
theorem exec (statement : Stmt) : S Unit (I.exec calls statement) (statement.exec invoke) := by
  -- Every statement is an effect under the protocol, and the effects are related.
  obtain ⟨effect', effect, same', same, inside⟩ := (ties.statements related).1 statement
  rw [same', same]
  exact ties.statement statement.location inside

/-- Whole programs are related, if their calls are. -/
theorem programBy (entryPoint : String) :
    S Int32 (I.runProgram calls entryPoint) (Exec.programBy invoke entryPoint) := by
  -- The literals are laid out one after the other.
  have each (literals : List String) :
      S Unit (literals.forM fun literal => I.step (Exec.loadString literal))
        (literals.forM Exec.loadString) := by
    induction literals with
    | nil => exact ties.done ()
    | cons literal literals ih => exact ties.seq (ties.loadString literal) fun _ => ih
  -- A look at the program is a single step.
  have look {α : Type} (look : Context → α) (paceless : Context.Paceless look) :
      S α (I.step do return look (← get)) (do return look (← get)) :=
    ties.weaken (ties.step (ties.single.seen look paceless))
  refine ties.seq (look _ fun _ _ _ => rfl) fun literals => ties.seq (each literals) fun _ =>
    ties.seq (look _ fun _ _ _ => rfl) fun program => ?_
  -- Without an entry point not even the global declarations run.
  cases program.function? entryPoint with
  | none => exact ties.weaken (ties.lift _)
  | some entry =>
    exact ties.seq ((ties.statements related).2 program.globals) fun _ =>
      ties.seq (ties.weaken (related entry [] none)) fun value => ties.done _

end Calls

/-- Binding parameters is related. -/
theorem bindAll (parameters : List (String × CType)) (values : List Value) :
    S Unit (I.bindAll parameters values) (Function.bindAll parameters values) := by
  -- Parameters and values go together until one of the two lists is used up.
  fun_induction Function.bindAll parameters values with
  | case1 name type parameters value values ih =>
    rw [Interpreter.bindAll]
    exact ties.seq (ties.drop (ties.declare name type (some value))) fun _ => ih
  | case2 parameters values short =>
    rw [Interpreter.bindAll.eq_2 I parameters values short]
    exact ties.done ()

/-- Checking the number of arguments is related. -/
theorem checkCount (function : Function) (arguments : List Value) :
    R Unit (I.step (function.checkCount arguments)) (function.checkCount arguments) := by
  refine ties.step ?_
  unfold Function.checkCount
  -- A wrong number fails on both sides.
  split
  · exact ties.single.pure ()
  · exact ties.single.fail _

/-- Calls are related where one more activation fits, if activations of related bodies are and the
calls in the body are related where one less fits. -/
theorem invoke {R' S' : ∀ α : Type, m α → Exec α → Prop} (inner : Interprets I K R' S')
    (activation : ∀ function buffer {body' : m Unit} {body : Exec Unit}, S' Unit body' body →
      R Frame (I.activation function buffer body') (Exec.activation function buffer body))
    {calls : Calls m} {room : Nat} (related : ∀ function arguments buffer,
      R' Value (calls function arguments buffer) (Function.invoke room function arguments buffer))
    (function : Function) (arguments : List Value) (buffer : Option Block) :
    R Value (I.invoke calls function arguments buffer)
      (Function.invoke (room + 1) function arguments buffer) := by
  -- Parameters are bound inside the new activation, before the body runs.
  have body := inner.seq (inner.bindAll function.parameters arguments) fun _ =>
    (inner.statements related).2 function.body
  rw [Function.invoke]
  refine ties.bind (ties.checkCount function arguments) fun _ =>
    ties.bind (activation function.name buffer body) fun frame => ?_
  -- A function that returned nothing yields nothing, whatever its type is.
  cases frame.result with
  | void => exact ties.pure Value.void
  | _ => exact ties.lift _

end Interprets

end StepMachine
