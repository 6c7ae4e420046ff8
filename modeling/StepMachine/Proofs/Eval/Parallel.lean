import StepMachine.Proofs.Exec.Run

/-! Two evaluations of the same program side by side, which differ in how calls are run: relations
between computations that hold of every step hold of whole expressions and statements. Each
induction over expressions and statements is done here once, for any such relation. -/

namespace StepMachine

/-- A relation that holds between each step of which expressions are evaluated and itself, and that
sequences keep. -/
structure Parallel (R : ∀ α : Type, Exec α → Exec α → Prop) : Prop where
  pure : ∀ {α : Type} (result : α), R α (pure result) (pure result)
  bind : ∀ {α β : Type} {run run' : Exec α} {next next' : α → Exec β},
    R α run run' → (∀ result, R β (next result) (next' result)) →
      R β (run >>= next) (run' >>= next')
  lift : ∀ {α : Type} (result : Except RuntimeError α), R α (liftM result) (liftM result)
  -- What is looked up in the state, apart from the heap.
  stringAddress : ∀ index, R Address (Exec.stringAddress index) (Exec.stringAddress index)
  lookup : ∀ name, R Variable (Exec.lookup name) (Exec.lookup name)
  resolve : ∀ name, R Callable (Exec.resolve name) (Exec.resolve name)
  -- What is read from the heap.
  loadPlace : ∀ place, R Value (Exec.loadPlace place) (Exec.loadPlace place)
  textAt : ∀ pointer, R String (Builtin.textAt pointer) (Builtin.textAt pointer)
  expand : ∀ format arguments,
    R (List Char) (do Format.expand (← get).heap format arguments)
      (do Format.expand (← get).heap format arguments)
  -- What changes the state.
  store : ∀ address type value, R Unit (Exec.edit (Heap.store address type value))
    (Exec.edit (Heap.store address type value))
  returnBuffer : ∀ type, R (Option Block) (Exec.returnBuffer type) (Exec.returnBuffer type)
  print : ∀ text, R Unit (Exec.print text) (Exec.print text)
  mallocOrNull : ∀ size, R Value (Builtin.mallocOrNull size) (Builtin.mallocOrNull size)
  free : ∀ address, R Unit (Exec.free address) (Exec.free address)

namespace Parallel

variable {R : ∀ α : Type, Exec α → Exec α → Prop} (steps : Parallel R)

include steps

/-- A failure is related to itself. -/
theorem fail (cause : RuntimeError) : R α (Exec.fail cause) (Exec.fail cause) :=
  steps.lift (.error cause)

/-- The functions that the machine provides are related to themselves. -/
theorem builtin (builtin : Builtin) (arguments : List Value) :
    R Value (builtin.call arguments) (builtin.call arguments) := by
  -- Each function looks at the number of its arguments first, and refuses any other.
  fun_cases Builtin.call builtin arguments with
  | case1 => exact steps.fail _
  | case2 format arguments =>
    refine steps.bind (steps.textAt format) fun format => ?_
    -- Reading the text and expanding it are one look at the heap.
    rw [← bind_assoc]
    exact steps.bind (steps.expand format.toList arguments)
      fun text => steps.bind (steps.print _) fun _ => steps.pure _
  | case3 argument =>
    exact steps.bind (steps.textAt argument) fun text =>
      steps.bind (steps.print _) fun _ => steps.pure _
  | case4 argument =>
    exact steps.bind (steps.lift _) fun size => steps.bind (steps.print _) fun _ => steps.pure _
  | case5 argument =>
    -- A size that is not positive is refused on both sides.
    refine steps.bind (steps.lift _) fun size => ?_
    split
    · exact steps.fail _
    · exact steps.mallocOrNull _
  -- Null is given up without a look.
  | case6 argument =>
    refine steps.bind (steps.lift _) fun address => ?_
    split
    · exact steps.pure _
    · exact steps.bind (steps.free address) fun _ => steps.pure _
  | case7 => exact steps.fail _

/-- Testing related truth values, then going on on related ways, is related. -/
theorem whenTrue {value value' : Exec Value} (first : R Value value value')
    {yes yes' no no' : Exec α} (left : R α yes yes') (right : R α no no') :
    R α (do if ← (← value).isTruthy then yes else no)
      (do if ← (← value').isTruthy then yes' else no') := by
  refine steps.bind first fun value => steps.bind (steps.lift value.isTruthy) fun truth => ?_
  -- Only one of the two ways is taken, and it is the same one on both sides.
  cases truth with
  | true => exact left
  | false => exact right

variable {invoke invoke' : Invoke}

/-- If calls are related, then so are the evaluations of every expression, of every list of
expressions and of every place. -/
theorem expressions (calls : ∀ function arguments buffer,
      R Value (invoke function arguments buffer) (invoke' function arguments buffer)) :
    (∀ expression : Expr, R Value (expression.eval invoke) (expression.eval invoke')) ∧
      (∀ list, R (List Value) (Expr.evalAll invoke list) (Expr.evalAll invoke' list)) ∧
      ∀ expression : Expr, R Place (expression.place invoke) (expression.place invoke') := by
  -- The induction follows the three functions that evaluate, case by case.
  apply Expr.eval.mutual_induct
  case case1 | case2 | case4 => intros; rw [Expr.eval, Expr.eval]; exact steps.pure _
  -- Strings and variables are looked up in states that are related.
  case case3 =>
    intro index
    rw [Expr.eval, Expr.eval]
    exact steps.bind (steps.stringAddress index) fun address => steps.pure _
  case case5 =>
    intro name
    rw [Expr.eval, Expr.eval]
    exact steps.bind (steps.lookup name) fun object => steps.loadPlace ⟨object.address, object.type⟩
  -- The right side is evaluated only if the left one does not decide.
  case case6 =>
    intro left right first second
    rw [Expr.eval, Expr.eval]
    exact steps.whenTrue first
      (steps.bind second fun value =>
        steps.bind (steps.lift value.isTruthy) fun truth => steps.pure _)
      (steps.pure _)
  case case7 =>
    intro left right first second
    rw [Expr.eval, Expr.eval]
    exact steps.whenTrue first (steps.pure _)
      (steps.bind second fun value =>
        steps.bind (steps.lift value.isTruthy) fun truth => steps.pure _)
  case case8 | case9 =>
    intro op left right first second
    rw [Expr.eval, Expr.eval]
    exact steps.bind first fun a => steps.bind second fun b => steps.lift _
  case case10 =>
    intro op operand first
    rw [Expr.eval, Expr.eval]
    exact steps.bind first fun value => steps.lift _
  case case11 =>
    intro operand first
    rw [Expr.eval, Expr.eval]
    exact steps.bind first fun place => steps.pure _
  case case12 | case13 =>
    intro pointer type first
    rw [Expr.eval, Expr.eval]
    exact steps.bind first fun value => steps.bind (steps.lift _) fun place => steps.loadPlace place
  -- The value comes first, then the place that it is stored to.
  case case14 =>
    intro target value second first
    rw [Expr.eval, Expr.eval]
    exact steps.bind second fun value => steps.bind first fun place =>
      steps.bind (steps.store place.address place.type value) fun _ => steps.loadPlace place
  -- The function is found before its arguments are evaluated.
  case case15 =>
    intro function arguments all
    rw [Expr.eval, Expr.eval]
    refine steps.bind (steps.resolve function) fun callee => steps.bind all fun values =>
      steps.bind (steps.returnBuffer callee.result) fun buffer => ?_
    cases callee with
    | function f => exact calls f values buffer
    | builtin b => exact steps.builtin b values
  -- Of the places, a name is looked up, and the others are computed from a value.
  case case16 =>
    intro name
    rw [Expr.place, Expr.place]
    exact steps.bind (steps.lookup name) fun object => steps.pure _
  case case17 | case18 =>
    intro object field first
    rw [Expr.place, Expr.place]
    exact steps.bind first fun value => steps.lift _
  -- Nothing else is a place.
  case case19 =>
    intro expression noName noPointer noMember
    rw [Expr.place, Expr.place]
    · exact steps.fail .notAssignable
    all_goals assumption
  case case20 =>
    rw [Expr.evalAll, Expr.evalAll]
    exact steps.pure _
  case case21 =>
    intro argument rest first all
    rw [Expr.evalAll, Expr.evalAll]
    exact steps.bind first fun value => steps.bind all fun values => steps.pure _

end Parallel

/-- A relation `S` that holds of the steps of which statements are executed, and that sequences and
protocols keep, beside the relation `R` of the expressions in them. -/
structure ParallelStatements (R S : ∀ α : Type, Exec α → Exec α → Prop) : Prop extends
    Parallel R where
  weaken : ∀ {α : Type} {run run' : Exec α}, R α run run' → S α run run'
  seq : ∀ {α β : Type} {run run' : Exec α} {next next' : α → Exec β},
    S α run run' → (∀ result, S β (next result) (next' result)) →
      S β (run >>= next) (run' >>= next')
  alone : ∀ {α : Type} {run run' : Exec α}, R α run run' → R α (Exec.alone run) (Exec.alone run')
  handOver : ∀ value, R Value (Exec.handOver value) (Exec.handOver value)
  declare : ∀ name type init,
    S Address (Exec.declare name type init) (Exec.declare name type init)
  markReturned : ∀ value, S Unit (Exec.markReturned value) (Exec.markReturned value)
  inBlock : ∀ {body body' : Exec Unit}, S Unit body body' →
    S Unit (Exec.inBlock body) (Exec.inBlock body')
  statement : ∀ location {effect effect' : Exec Unit}, S Unit effect effect' →
    S Unit (Exec.statement location effect) (Exec.statement location effect')
  loop : ∀ location {test test' : Exec Bool} {effect effect' : Exec Unit}, R Bool test test' →
    S Unit effect effect' → S Unit (Exec.loop test (Exec.statement location effect))
      (Exec.loop test' (Exec.statement location effect'))

namespace ParallelStatements

variable {R S : ∀ α : Type, Exec α → Exec α → Prop} (steps : ParallelStatements R S)

include steps

/-- Yielding a value is related to itself in the wider relation as well. -/
theorem done (result : α) : S α (pure result) (pure result) := steps.weaken (steps.pure result)

/-- Results that are not wanted keep the relation. -/
theorem discard {run run' : Exec α} (first : S α run run') :
    S Unit (discard run) (discard run') := by
  -- A result is dropped behind the computation on both sides.
  rw [discard_eq, discard_eq]
  exact steps.seq first fun _ => steps.done ()

/-- Binding parameters is related to itself. -/
theorem bindAll (parameters : List (String × CType)) (values : List Value) :
    S Unit (Function.bindAll parameters values) (Function.bindAll parameters values) := by
  -- Parameters and values go together until one of the two lists is used up.
  induction parameters generalizing values with
  | nil =>
    rw [Function.bindAll.eq_2 _ _ (by simp)]
    exact steps.done ()
  | cons parameter parameters ih =>
    -- A parameter without a value is left unbound on both sides.
    cases values with
    | nil =>
      rw [Function.bindAll.eq_2 _ _ (by simp)]
      exact steps.done ()
    | cons value values =>
      rw [Function.bindAll]
      exact steps.seq (steps.discard (steps.declare _ _ _)) fun _ => ih values

/-- Checking the number of arguments is related to itself. -/
theorem checkCount (function : Function) (arguments : List Value) :
    R Unit (function.checkCount arguments) (function.checkCount arguments) := by
  -- The number of arguments is the same on both sides, and decides alike.
  unfold Function.checkCount
  split
  · exact steps.pure ()
  · exact steps.fail _

/-- What a call makes of its activation is related to itself. -/
theorem yielded (frame : Frame) (type : CType) :
    R Value (match frame.result with
        | .void => Pure.pure .void
        | value => liftM (value.coerce type))
      (match frame.result with
        | .void => Pure.pure .void
        | value => liftM (value.coerce type)) := by
  -- A function that returned nothing yields nothing, whatever its type is.
  cases frame.result with
  | void => exact steps.pure Value.void
  | _ => exact steps.lift _

/-- If calls are related, then each statement is a pair of related effects under the protocol that
all statements share, and lists of statements are related. -/
theorem statements {invoke invoke' : Invoke} (calls : ∀ function arguments buffer,
      R Value (invoke function arguments buffer) (invoke' function arguments buffer)) :
    (∀ statement : Stmt, ∃ effect effect',
        statement.exec invoke = Exec.statement statement.location effect ∧
        statement.exec invoke' = Exec.statement statement.location effect' ∧
        S Unit effect effect') ∧
      ∀ list, S Unit (Stmt.execAll invoke list) (Stmt.execAll invoke' list) := by
  -- Conditions and values are related by the theorem about expressions.
  obtain ⟨evaluation, -, -⟩ := steps.expressions calls
  have tests (condition : Expr) :
      R Bool (Exec.test invoke condition) (Exec.test invoke' condition) :=
    steps.bind (evaluation condition) fun value => steps.lift value.isTruthy
  -- Statements whose effects are related are related as a whole.
  have whole {statement : Stmt} (known : ∃ effect effect',
      statement.exec invoke = Exec.statement statement.location effect ∧
      statement.exec invoke' = Exec.statement statement.location effect' ∧
      S Unit effect effect') :
      S Unit (statement.exec invoke) (statement.exec invoke') := by
    obtain ⟨effect, effect', same, same', related⟩ := known
    rw [same, same']
    exact steps.statement statement.location related
  -- The induction follows execution, with one case for each kind of statement.
  apply Stmt.exec.mutual_induct
  case case1 =>
    intro name type init location
    -- A variable may come without an initial value.
    cases init with
    | none =>
      exact ⟨_, _, Stmt.exec.eq_2 .., Stmt.exec.eq_2 ..,
        steps.discard (steps.declare name type none)⟩
    | some value =>
      refine ⟨_, _, Stmt.exec.eq_1 .., Stmt.exec.eq_1 .., ?_⟩
      exact steps.seq (steps.weaken (evaluation value)) fun value =>
        steps.discard (steps.declare name type (some value))
  case case2 =>
    intro value location
    exact ⟨_, _, Stmt.exec.eq_3 .., Stmt.exec.eq_3 ..,
      steps.discard (steps.weaken (evaluation value))⟩
  case case3 =>
    intro body location inside
    exact ⟨_, _, Stmt.exec.eq_4 .., Stmt.exec.eq_4 .., steps.inBlock inside⟩
  case case4 =>
    intro condition yes no location left right
    -- Without a second branch, nothing is run in its place.
    cases no with
    | none =>
      refine ⟨_, _, Stmt.exec.eq_6 .., Stmt.exec.eq_6 ..,
        steps.seq (steps.weaken (tests condition)) fun truth => ?_⟩
      cases truth with
      | true => exact whole left
      | false => exact steps.done ()
    | some no =>
      refine ⟨_, _, Stmt.exec.eq_5 .., Stmt.exec.eq_5 ..,
        steps.seq (steps.weaken (tests condition)) fun truth => ?_⟩
      cases truth with
      | true => exact whole left
      | false => exact whole right
  -- The body of a loop is a statement, and a loop may rely on that.
  case case5 =>
    intro condition body location inside
    obtain ⟨effect, effect', same, same', related⟩ := inside
    refine ⟨_, _, Stmt.exec.eq_7 .., Stmt.exec.eq_7 .., ?_⟩
    rw [same, same']
    exact steps.loop body.location (steps.alone (tests condition)) related
  case case6 =>
    intro value location
    -- What is returned is handed over first.
    cases value with
    | none => exact ⟨_, _, Stmt.exec.eq_9 .., Stmt.exec.eq_9 .., steps.markReturned .void⟩
    | some value =>
      refine ⟨_, _, Stmt.exec.eq_8 .., Stmt.exec.eq_8 .., ?_⟩
      exact steps.seq (steps.weaken (evaluation value)) fun value =>
        steps.seq (steps.weaken (steps.handOver value)) fun value => steps.markReturned value
  case case7 =>
    rw [Stmt.execAll, Stmt.execAll]
    exact steps.done ()
  case case8 =>
    intro statement rest first all
    rw [Stmt.execAll, Stmt.execAll]
    exact steps.seq (whole first) fun _ => all

end ParallelStatements

end StepMachine
