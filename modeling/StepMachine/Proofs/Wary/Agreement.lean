import StepMachine.Proofs.Wary.Steps

/-! Whole programs, run warily: none of them crashes, and each ends like the run that does not look.
What is possible step by step is possible for every expression, statement and call. -/

namespace StepMachine

namespace Exec

variable {setting : Setting}

/-- A statement can be put under way, and taken off again. -/
theorem activate_tracks (active : Context → List Location) :
    setting.Tracks (fun _ => True)
      (Wary.step (modify fun context => { context with active := active context }))
      (modify fun context => { context with active := active context }) :=
  .of_single (fun steps => Obeys.modify fun context => steps.activate context _)
    (fun _ safe => safe.frames) (fun _ _ => rfl) fun _ _ _ _ _ => trivial

/-- A statement can be reached, and let in if there is a grant. -/
theorem enter_tracks (location : Location) :
    setting.Tracks (fun _ => True) (Wary.step (enter location)) (enter location) :=
  .of_steps (fun steps => steps.enter location) (enter_undisturbed location) (fun _ _ => rfl)
    fun _ _ _ _ _ => trivial

/-- A computation whose temporary objects go when it is over. -/
theorem alone_tracks {good : α → Prop} {wary : WaryExec α} {run : Exec α}
    (tracks : setting.Tracks good wary run) : setting.Tracks good (alone? wary) (alone run) := by
  -- The mark is only read, so it is there when the computation is over.
  have mark : setting.Tracks (fun _ => True) (Wary.step temporaryMark) temporaryMark :=
    .step fun _ safe => ⟨safe, trivial⟩
  exact mark.bind fun mark _ => tracks.finished (releaseTemporaries_tracks mark)

/-- A statement whose effect is possible is possible. -/
theorem statement_tracks (location : Location) {wary : WaryExec Unit} {effect : Exec Unit}
    (tracks : setting.Tracks (fun _ => True) wary effect) :
    setting.Tracks (fun _ => True) (statement? location wary) (statement location effect) := by
  refine .consult fun context safe => ?_
  -- The protocol without its first question is a row of three parts.
  have whole : setting.Tracks (fun _ => True) (do
      Wary.step (modify fun context => { context with active := location :: context.active })
      alone? do
        Wary.step (enter location)
        wary
      Wary.step (modify fun context => { context with active := context.active.tail })) (do
      modify fun context => { context with active := location :: context.active }
      alone do
        enter location
        effect
      modify fun context => { context with active := context.active.tail }) := by
    refine (activate_tracks _).bind fun _ _ => ?_
    exact (alone_tracks ((enter_tracks location).bind fun _ _ => tracks)).bind
      fun _ _ => activate_tracks _
  -- After the current function has returned nothing happens.
  split
  · exact ⟨rfl, safe, trivial⟩
  · exact whole context safe

/-- A block around a body that is possible is possible. -/
theorem inBlock_tracks {wary : WaryExec Unit} {body : Exec Unit}
    (tracks : setting.Tracks (fun _ => True) wary body) :
    setting.Tracks (fun _ => True) (inBlock? wary) (inBlock body) :=
  pushScope_tracks.bind fun _ _ => tracks.finished popScope_tracks

/-- Repetition of a test and a body that are possible is possible. -/
theorem repeatWhile_tracks {test' : WaryExec Bool} {test : Exec Bool} {body' : WaryExec Unit}
    {body : Exec Unit} (tests : setting.Tracks (fun _ => True) test' test)
    (tracks : setting.Tracks (fun _ => True) body' body) (turns : Nat) :
    setting.Tracks (fun _ => True) (repeatWhile? test' body' turns)
      (repeatWhile test body turns) := by
  -- The induction is on the turns.
  induction turns with
  | zero => exact .step fun _ safe => safe
  | succ turns ih =>
    refine .consult fun context safe => ?_
    -- One round is a look at the state, a test and the body.
    have round : setting.Tracks (fun _ => True)
        (do if ← test' then do body'; repeatWhile? test' body' turns)
        (do if ← test then do body; repeatWhile test body turns) := by
      refine tests.bind fun proceed _ => ?_
      cases proceed with
      | true => exact tracks.bind fun _ _ => ih
      | false => exact .pure trivial
    split
    · exact ⟨rfl, safe, trivial⟩
    · exact round context safe

/-- A loop of a test and a body that are possible is possible. -/
theorem loop_tracks {test' : WaryExec Bool} {test : Exec Bool} {body' : WaryExec Unit}
    {body : Exec Unit} (tests : setting.Tracks (fun _ => True) test' test)
    (tracks : setting.Tracks (fun _ => True) body' body) :
    setting.Tracks (fun _ => True) (loop? test' body') (loop test body) :=
  .consult fun context safe => repeatWhile_tracks tests tracks (context.grants + 1) context safe

/-- An activation can be entered around a confined body, and is there to be left when the body is
over. -/
theorem activation_tracks (function : String) {buffer : Option Block}
    (lies : ∀ block ∈ buffer, block.Lies setting.size) {wary : WaryExec Unit} {body : Exec Unit}
    (confined : Obeys Effect.execution body)
    (tracks : setting.Tracks (fun _ => True) wary body) :
    setting.Tracks (·.Lies setting.size) (activation? function buffer wary)
      (activation function buffer body) := by
  intro context safe
  have opens := (pushFrame_tracks function lies context safe).2
  unfold activation activation?
  cases entered : pushFrame function buffer context with
  | error reason last =>
    rw [entered] at opens
    refine ⟨.bind rfl fun _ _ ran => ?_, ?_⟩
    · -- Without an activation there is no body to run.
      rw [entered] at ran
      cases ran
    · -- The refusal is the outcome, in a state that is safe.
      rw [bind_run, entered]
      exact opens
  | ok _ opened =>
    rw [entered] at opens
    obtain ⟨agrees, ends⟩ := tracks opened opens.1
    obtain ⟨leaving, left⟩ := popFrame_tracks (stateOf (body opened)) ends.leaves
    -- The body leaves the activation on top, where it was put.
    obtain ⟨frame, after, popped⟩ :
        ∃ frame after, popFrame (stateOf (body opened)) = .ok frame after := by
      obtain ⟨room, free, rfl⟩ := pushFrame_eq_ok entered
      obtain ⟨frame, after, popped, -⟩ := popFrame_closes free (execution_outcome confined _)
      exact ⟨frame, after, popped⟩
    refine ⟨.bind rfl fun _ _ ran => ?_, ?_⟩
    · -- With the activation open, the body runs and what was opened is left.
      rw [entered] at ran
      cases ran
      exact (agrees.lastly (leaving.certainly popped)).bind fun _ _ _ => rfl
    · -- The result is what the activation was left with.
      have both := ends.closing left
      rw [bind_run, entered]
      dsimp only
      rw [bind_run, tryFinally'_closing]
      cases ended : closing (body opened) (popFrame (stateOf (body opened))) with
      | ok results last =>
        rw [ended] at both
        exact ⟨both.1, both.2.2⟩
      | error reason last =>
        rw [ended] at both
        exact both

/-- A result that is not wanted is dropped. -/
theorem discard_tracks {good : α → Prop} {wary : WaryExec α} {run : Exec α}
    (tracks : setting.Tracks good wary run) :
    setting.Tracks (fun _ => True) (discard wary) (discard run) := by
  -- What is wanted of the result is dropped with it.
  rw [discard_eq]
  exact tracks.bind fun _ _ => .pure trivial

/-- The truth of any value can be asked for. -/
theorem truth_tracks (value : Value) :
    setting.Tracks (fun _ => True) (truth? value) (liftM value.isTruthy) :=
  lift_tracks fun _ _ => trivial

/-- Arguments can be counted. -/
theorem checkCount_tracks (function : Function) (arguments : List Value) :
    setting.Tracks (fun _ => True) (Wary.step (function.checkCount arguments))
      (function.checkCount arguments) := by
  refine .step fun context safe => ?_
  unfold Function.checkCount
  -- The numbers agree, or the call is the program's failure.
  split
  · exact ⟨safe, trivial⟩
  · exact safe

/-- A pointer may lead to any type whose size is a machine word. -/
theorem target_tracks (pointer : Value) {type : CType} (fits : type.size < UInt64.size) :
    setting.Tracks (·.type.size < UInt64.size) (lift? (pointer.target type))
      (liftM (pointer.target type)) := by
  refine lift_tracks fun place found => ?_
  -- Only an address leads to a place, and the type is the one that was asked for.
  obtain ⟨address, -, rest⟩ := Value.exists_of_ok found
  cases rest
  exact fits

end Exec

namespace Setting

variable {setting : Setting}

/-- Calls of the program's functions are possible with values and storage in the arena, and yield
such values. -/
def Calls (setting : Setting) (wary : WaryInvoke) (invoke : Invoke) : Prop :=
  ∀ function ∈ setting.program.functions, ∀ arguments buffer,
    (∀ value ∈ arguments, value.Lies setting.size) →
    (∀ block ∈ buffer, block.Lies setting.size) →
    setting.Tracks (·.Lies setting.size) (wary function arguments buffer)
      (invoke function arguments buffer)

/-- An expression can be evaluated, if its types fit, and yields what lies in the arena. -/
def Evaluates (setting : Setting) (wary : WaryInvoke) (invoke : Invoke) (expression : Expr) :
    Prop :=
  Fit expression.types →
    setting.Tracks (·.Lies setting.size) (expression.eval? wary) (expression.eval invoke)

/-- The same of a list of expressions. -/
def EvaluatesAll (setting : Setting) (wary : WaryInvoke) (invoke : Invoke) (list : List Expr) :
    Prop :=
  Fit (Expr.allTypes list) →
    setting.Tracks (fun values => ∀ value ∈ values, value.Lies setting.size)
      (Expr.evalAll? wary list) (Expr.evalAll invoke list)

/-- A statement can be run, if its types fit. -/
def Runs (setting : Setting) (wary : WaryInvoke) (invoke : Invoke) (statement : Stmt) : Prop :=
  Fit statement.types →
    setting.Tracks (fun _ => True) (statement.exec? wary) (statement.exec invoke)

/-- The same of a list of statements. -/
def RunsAll (setting : Setting) (wary : WaryInvoke) (invoke : Invoke) (list : List Stmt) : Prop :=
  Fit (Stmt.allTypes list) →
    setting.Tracks (fun _ => True) (Stmt.execAll? wary list) (Stmt.execAll invoke list)

/-- The place of an expression can be found, if its types fit, and so does the type that it has. -/
def Finds (setting : Setting) (wary : WaryInvoke) (invoke : Invoke) (expression : Expr) : Prop :=
  Fit expression.types →
    setting.Tracks (·.type.size < UInt64.size) (expression.place? wary) (expression.place invoke)

section Expressions

variable {wary : WaryInvoke} {invoke : Invoke} {left right operand pointer object : Expr}

/-- The address of a literal is no structure. -/
theorem string_evaluates (index : Nat) : setting.Evaluates wary invoke (.string index) := by
  intro _
  rw [Expr.eval?, Expr.eval]
  exact .of_steps
    (fun steps => Exec.Obeys.bind (steps.executes.stringAddress index) fun _ => Exec.Obeys.pure _)
    (Exec.Obeys.bind (Exec.evaluates_undisturbed.stringAddress index) fun _ => Exec.Obeys.pure _)
    -- What is yielded is an address, whatever the table says.
    (fun _ _ => rfl) fun context value last _ ran =>
      Exec.Gives.bind (fun _ => .pure trivial) context value last ran

/-- A name is looked up, and its object read. -/
theorem var_evaluates (name : String) : setting.Evaluates wary invoke (.var name) := by
  intro _
  rw [Expr.eval?, Expr.eval]
  exact (Exec.lookup_tracks name).bind fun object fits => Exec.loadPlace_tracks fits

/-- The right side of a conjunction is evaluated only if the left one does not decide. -/
theorem and_evaluates (first : setting.Evaluates wary invoke left)
    (second : setting.Evaluates wary invoke right) :
    setting.Evaluates wary invoke (.binary (.connective .and) left right) := by
  intro fits
  obtain ⟨fitsLeft, fitsRight⟩ := Fit.append fits
  rw [Expr.eval?, Expr.eval]
  -- The left side decides, or the right side is asked too.
  refine (first fitsLeft).bind fun value _ => (Exec.truth_tracks value).bind fun truth _ => ?_
  cases truth with
  | true =>
    exact (second fitsRight).bind fun value _ =>
      (Exec.truth_tracks value).bind fun _ _ => .pure trivial
  | false => exact .pure trivial

/-- The same of a disjunction. -/
theorem or_evaluates (first : setting.Evaluates wary invoke left)
    (second : setting.Evaluates wary invoke right) :
    setting.Evaluates wary invoke (.binary (.connective .or) left right) := by
  intro fits
  obtain ⟨fitsLeft, fitsRight⟩ := Fit.append fits
  rw [Expr.eval?, Expr.eval]
  -- The left side decides, or the right side is asked too.
  refine (first fitsLeft).bind fun value _ => (Exec.truth_tracks value).bind fun truth _ => ?_
  cases truth with
  | true => exact .pure trivial
  | false =>
    exact (second fitsRight).bind fun value _ =>
      (Exec.truth_tracks value).bind fun _ _ => .pure trivial

/-- Both sides of any other operator are evaluated, and there is an operation for it. -/
theorem operation_evaluates {op : BinaryOp} (proper : ∀ connective, op ≠ .connective connective)
    (first : setting.Evaluates wary invoke left) (second : setting.Evaluates wary invoke right) :
    setting.Evaluates wary invoke (.binary op left right) := by
  intro fits
  obtain ⟨fitsLeft, fitsRight⟩ := Fit.append fits
  -- A connective never comes here; of the other operators both sides are evaluated.
  cases op with
  | connective connective => exact absurd rfl (proper connective)
  -- The result of an operation is a number, which takes no part in the arena.
  | arithmetic op =>
    rw [Expr.eval?, Expr.eval]
    · exact (first fitsLeft).bind fun a _ => (second fitsRight).bind fun b _ =>
        .given rfl (Exec.lift_tracks fun _ computed =>
          (Value.plain_of_number (Value.arithmetic_number computed)).lies _)
    all_goals simp
  | comparison op =>
    rw [Expr.eval?, Expr.eval]
    · exact (first fitsLeft).bind fun a _ => (second fitsRight).bind fun b _ =>
        .given rfl (Exec.lift_tracks fun _ computed =>
          (Value.plain_of_number (Value.compare_number computed)).lies _)
    all_goals simp

/-- An operator with one operand yields a number. -/
theorem unary_evaluates (op : UnaryOp) (first : setting.Evaluates wary invoke operand) :
    setting.Evaluates wary invoke (.unary op operand) := by
  intro fits
  rw [Expr.eval?, Expr.eval]
  -- Whatever it yields is a number, which takes no part in the arena.
  exact (first fits).bind fun value _ => Exec.lift_tracks fun _ computed =>
    (Value.plain_of_number (Value.unary_number computed)).lies _

/-- An address is no structure. -/
theorem addressOf_evaluates (found : setting.Finds wary invoke operand) :
    setting.Evaluates wary invoke (.addressOf operand) := by
  intro fits
  rw [Expr.eval?, Expr.eval]
  exact (found fits).bind fun place _ => .pure trivial

/-- What a pointer leads to has a type of the program. -/
theorem deref_evaluates {type : CType} (first : setting.Evaluates wary invoke pointer) :
    setting.Evaluates wary invoke (.deref pointer type) := by
  intro fits
  obtain ⟨fitsType, fitsPointer⟩ := Fit.cons fits
  rw [Expr.eval?, Expr.eval]
  -- The address is read, and then the object there, whose type is one of the program's.
  exact (first fitsPointer).bind fun value _ =>
    (Exec.target_tracks value fitsType).bind fun place fits => Exec.loadPlace_tracks fits

/-- A member of what lies in the arena lies there as well. -/
theorem member_evaluates (field : String) (first : setting.Evaluates wary invoke object) :
    setting.Evaluates wary invoke (.member object field) := by
  intro fits
  rw [Expr.eval?, Expr.eval]
  refine (first fits).bind fun value lies => ?_
  obtain ⟨possible, small⟩ := lies.member?_eq setting.room field
  exact .given possible
    ((Exec.lift_tracks small).bind fun place fits => Exec.loadPlace_tracks fits)

/-- The value comes first, then the place that it is stored to. -/
theorem assign_evaluates {target value : Expr} (second : setting.Evaluates wary invoke value)
    (found : setting.Finds wary invoke target) :
    setting.Evaluates wary invoke (.assign target value) := by
  intro fits
  obtain ⟨fitsTarget, fitsValue⟩ := Fit.append fits
  rw [Expr.eval?, Expr.eval]
  -- The value comes before its place, and what was stored is read back.
  exact (second fitsValue).bind fun value lies => (found fitsTarget).bind fun place fits =>
    (Exec.storePlace_tracks place lies).bind fun _ _ => Exec.loadPlace_tracks fits

/-- The place of a name is that of its object. -/
theorem var_finds (name : String) : setting.Finds wary invoke (.var name) := by
  intro _
  rw [Expr.place?, Expr.place]
  exact (Exec.lookup_tracks name).bind fun object fits => .pure fits

/-- A pointer leads to a place of the type that it was given. -/
theorem deref_finds {type : CType} (first : setting.Evaluates wary invoke pointer) :
    setting.Finds wary invoke (.deref pointer type) := by
  intro fits
  obtain ⟨fitsType, fitsPointer⟩ := Fit.cons fits
  rw [Expr.place?, Expr.place]
  exact (first fitsPointer).bind fun value _ => Exec.target_tracks value fitsType

/-- The place of a member lies in that of its structure. -/
theorem member_finds (field : String) (first : setting.Evaluates wary invoke object) :
    setting.Finds wary invoke (.member object field) := by
  intro fits
  rw [Expr.place?, Expr.place]
  -- The structure lies in the arena, so its member can be found there.
  refine (first fits).bind fun value lies => ?_
  obtain ⟨possible, small⟩ := lies.member?_eq setting.room field
  exact .given possible (Exec.lift_tracks small)

/-- Arguments are evaluated one after the other. -/
theorem cons_evaluates {argument : Expr} {rest : List Expr}
    (first : setting.Evaluates wary invoke argument)
    (all : setting.EvaluatesAll wary invoke rest) :
    setting.EvaluatesAll wary invoke (argument :: rest) := by
  intro fits
  obtain ⟨fitsFirst, fitsRest⟩ := Fit.append fits
  rw [Expr.evalAll?, Expr.evalAll]
  exact (first fitsFirst).bind fun value lies => (all fitsRest).bind fun values lie =>
    .pure (List.forall_mem_cons.mpr ⟨lies, lie⟩)

end Expressions

section Calls

variable {wary : WaryInvoke} {invoke : Invoke} (calls : setting.Calls wary invoke)

include calls

/-- Whatever a called name stands for can be called. -/
theorem call_tracks {callee : Callable}
    (known : ∀ f, callee = .function f → f ∈ setting.program.functions) {arguments : List Value}
    (lie : ∀ value ∈ arguments, value.Lies setting.size) {buffer : Option Block}
    (lies : ∀ block ∈ buffer, block.Lies setting.size) :
    setting.Tracks (·.Lies setting.size) (callee.call? wary arguments buffer)
      (callee.call invoke arguments buffer) := by
  -- The program's functions are called, and the machine's are known to be possible.
  cases callee with
  | function f => exact calls f (known f rfl) arguments buffer lie lies
  | builtin b => exact Exec.builtin_tracks b arguments

omit calls in
/-- What a called name yields has a size that is a machine word. -/
theorem callee_fits {callee : Callable}
    (known : ∀ f, callee = .function f → f ∈ setting.program.functions) :
    callee.result.size < UInt64.size := by
  -- A type of the program fits, and the machine's own types are small.
  cases callee with
  | function f => exact (setting.fit_function (known f rfl)).cons.1
  | builtin b => cases b <;> decide

/-- The function is found before its arguments are evaluated. -/
theorem call_evaluates (function : String) {arguments : List Expr}
    (all : setting.EvaluatesAll wary invoke arguments) :
    setting.Evaluates wary invoke (.call function arguments) := by
  intro fits
  rw [Expr.eval?, Expr.eval]
  -- Arguments are evaluated in order, and then there is storage for the result.
  exact (Exec.resolve_tracks function).bind fun callee known =>
    (all fits).bind fun values lie =>
      (Exec.returnBuffer_tracks (callee_fits known)).bind fun buffer lies =>
        call_tracks calls known lie lies

/-- If calls are possible, then every expression can be evaluated, and every place can be found. -/
theorem expressions_track :
    (∀ expression : Expr, setting.Evaluates wary invoke expression) ∧
    (∀ list, setting.EvaluatesAll wary invoke list) ∧
    ∀ expression : Expr, setting.Finds wary invoke expression := by
  -- The induction follows the three functions that evaluate, case by case.
  apply Expr.eval.mutual_induct
  case case1 | case2 | case4 =>
    intros
    intro _
    rw [Expr.eval?, Expr.eval]
    exact .pure trivial
  case case3 => exact string_evaluates
  case case5 => exact var_evaluates
  case case6 => exact fun _ _ => and_evaluates
  case case7 => exact fun _ _ => or_evaluates
  case case8 | case9 => exact fun _ _ _ => operation_evaluates (by simp)
  case case10 => exact fun op _ => unary_evaluates op
  case case11 => exact fun _ => addressOf_evaluates
  case case12 => exact fun _ _ => deref_evaluates
  case case13 => exact fun _ field => member_evaluates field
  case case14 => exact fun _ _ => assign_evaluates
  case case15 => exact fun function _ => call_evaluates calls function
  case case16 => exact var_finds
  case case17 => exact fun _ _ => deref_finds
  case case18 => exact fun _ field => member_finds field
  -- Nothing else is a place.
  case case19 =>
    intro expression noName noPointer noMember _
    rw [Expr.place?, Expr.place]
    · exact .step fun _ safe => safe
    all_goals assumption
  case case20 =>
    intro _
    rw [Expr.evalAll?, Expr.evalAll]
    exact .pure (List.forall_mem_nil _)
  case case21 => exact fun _ _ => cons_evaluates

/-- If calls are possible, then every condition can be tested. -/
theorem test_tracks {condition : Expr} (fits : Fit condition.types) :
    setting.Tracks (fun _ => True) (Exec.test? wary condition) (Exec.test invoke condition) :=
  ((expressions_track calls).1 condition fits).bind fun value _ => Exec.truth_tracks value

/-- An initial value is evaluated before its name is declared. -/
theorem declare_runs (name : String) (type : CType) (init : Option Expr) (location : Location) :
    setting.Runs wary invoke (.declare name type init location) := by
  intro fits
  obtain ⟨fitsType, fitsInit⟩ := Fit.cons fits
  -- Without an initial value the object is zeroed.
  cases init with
  | none =>
    rw [Stmt.exec?, Stmt.exec]
    exact Exec.statement_tracks location
      (Exec.discard_tracks (Exec.declare_tracks name fitsType fun _ given => by cases given))
  | some value =>
    rw [Stmt.exec?, Stmt.exec]
    refine Exec.statement_tracks location
      (((expressions_track calls).1 value fitsInit).bind fun value lies => ?_)
    -- What the name is bound to lies in the arena, since the initial value does.
    exact Exec.discard_tracks (Exec.declare_tracks name fitsType fun given same =>
      Option.some.inj same ▸ lies)

/-- The value of an expression that is a statement is dropped. -/
theorem expression_runs (value : Expr) (location : Location) :
    setting.Runs wary invoke (.expression value location) := by
  intro fits
  rw [Stmt.exec?, Stmt.exec]
  exact Exec.statement_tracks location
    (Exec.discard_tracks ((expressions_track calls).1 value fits))

omit calls in
/-- A block can be run if its statements can. -/
theorem block_runs {body : List Stmt} (location : Location)
    (inside : setting.RunsAll wary invoke body) :
    setting.Runs wary invoke (.block body location) := by
  intro fits
  rw [Stmt.exec?, Stmt.exec]
  exact Exec.statement_tracks location (Exec.inBlock_tracks (inside fits))

/-- Only one way of a branch is gone, and both of them can be. -/
theorem branch_runs {condition : Expr} {yes : Stmt} {no : Option Stmt} {location : Location}
    (left : setting.Runs wary invoke yes)
    (right : ∀ statement ∈ no, setting.Runs wary invoke statement) :
    setting.Runs wary invoke (.branch condition yes no location) := by
  intro fits
  -- Without a second branch, nothing is run in its place.
  cases no with
  | none =>
    obtain ⟨fitsFirst, -⟩ := Fit.append fits
    obtain ⟨fitsCondition, fitsYes⟩ := Fit.append fitsFirst
    rw [Stmt.exec?, Stmt.exec]
    refine Exec.statement_tracks location
      ((test_tracks calls fitsCondition).bind fun truth _ => ?_)
    cases truth with
    | true => exact left fitsYes
    | false => exact .pure trivial
  | some no =>
    -- Both branches fit, and the test decides which of them runs.
    obtain ⟨fitsFirst, fitsNo⟩ := Fit.append fits
    obtain ⟨fitsCondition, fitsYes⟩ := Fit.append fitsFirst
    rw [Stmt.exec?, Stmt.exec]
    refine Exec.statement_tracks location
      ((test_tracks calls fitsCondition).bind fun truth _ => ?_)
    cases truth with
    | true => exact left fitsYes
    | false => exact right no rfl fitsNo

/-- A loop can be run if its body can. -/
theorem loop_runs {condition : Expr} {body : Stmt} (location : Location)
    (inside : setting.Runs wary invoke body) :
    setting.Runs wary invoke (.loop condition body location) := by
  intro fits
  obtain ⟨fitsCondition, fitsBody⟩ := Fit.append fits
  rw [Stmt.exec?, Stmt.exec]
  exact Exec.statement_tracks location
    (Exec.loop_tracks (Exec.alone_tracks (test_tracks calls fitsCondition)) (inside fitsBody))

/-- What is returned is handed over before the activation is marked. -/
theorem ret_runs (value : Option Expr) (location : Location) :
    setting.Runs wary invoke (.ret value location) := by
  intro fits
  -- Either nothing is returned, or a value, which is handed over first.
  cases value with
  | none =>
    rw [Stmt.exec?, Stmt.exec]
    exact Exec.statement_tracks location (Exec.markReturned_tracks trivial)
  | some value =>
    rw [Stmt.exec?, Stmt.exec]
    refine Exec.statement_tracks location
      (((expressions_track calls).1 value fits).bind fun value lies => ?_)
    exact (Exec.handOver_tracks lies).bind fun value lies => Exec.markReturned_tracks lies

omit calls in
/-- Statements are run one after the other. -/
theorem cons_runs {statement : Stmt} {rest : List Stmt} (first : setting.Runs wary invoke statement)
    (all : setting.RunsAll wary invoke rest) :
    setting.RunsAll wary invoke (statement :: rest) := by
  intro fits
  obtain ⟨fitsFirst, fitsRest⟩ := Fit.append fits
  rw [Stmt.execAll?, Stmt.execAll]
  exact (first fitsFirst).bind fun _ _ => all fitsRest

/-- If calls are possible, then every statement can be run. -/
theorem statements_track :
    (∀ statement : Stmt, setting.Runs wary invoke statement) ∧
    ∀ list, setting.RunsAll wary invoke list := by
  -- The induction follows execution, with one case for each kind of statement.
  apply Stmt.exec.mutual_induct
  case case1 => exact declare_runs calls
  case case2 => exact expression_runs calls
  case case3 => exact fun _ location => block_runs location
  case case4 =>
    intro condition yes no location left right
    refine branch_runs calls left fun statement member => ?_
    -- The second branch may be missing.
    cases no with
    | none => cases member
    | some no =>
      cases member
      exact right
  case case5 => exact fun _ _ location => loop_runs calls location
  case case6 => exact ret_runs calls
  case case7 =>
    intro _
    rw [Stmt.execAll?, Stmt.execAll]
    exact .pure trivial
  case case8 => exact fun _ _ => cons_runs

end Calls

/-- Parameters can be bound to values that lie in the arena. -/
theorem bindAll_tracks {parameters : List (String × CType)} {values : List Value}
    (fits : Fit (parameters.map (·.2))) (lie : ∀ value ∈ values, value.Lies setting.size) :
    setting.Tracks (fun _ => True) (Function.bindAll? parameters values)
      (Function.bindAll parameters values) := by
  -- The induction is on the parameters, each of which takes one value.
  induction parameters generalizing values with
  | nil =>
    rw [Function.bindAll?.eq_2 _ _ (by simp), Function.bindAll.eq_2 _ _ (by simp)]
    exact .pure trivial
  | cons parameter parameters ih =>
    -- Each parameter takes the first of the values that are left.
    obtain ⟨name, type⟩ := parameter
    obtain ⟨fitsType, fitsRest⟩ := Fit.cons fits
    cases values with
    | nil =>
      rw [Function.bindAll?.eq_2 _ _ (by simp), Function.bindAll.eq_2 _ _ (by simp)]
      exact .pure trivial
    | cons value values =>
      obtain ⟨lies, rest⟩ := List.forall_mem_cons.mp lie
      rw [Function.bindAll?, Function.bindAll]
      refine (Exec.discard_tracks (Exec.declare_tracks name fitsType fun given same => ?_)).bind
        fun _ _ => ih fitsRest rest
      exact Option.some.inj same ▸ lies

/-- Every function of the program can be called, however many activations fit. -/
theorem invoke_tracks (room : Nat) :
    setting.Calls (Function.invoke? room) (Function.invoke room) := by
  -- The induction is on the activations that still fit.
  induction room with
  | zero =>
    intro function _ arguments buffer _ _
    -- Whether the number of arguments is right or not, nothing is done.
    have refuses : setting.Tracks (Value.Lies setting.size)
        (Wary.step do Exec.fail (.stack (.overflow (← get).stack.limit)))
        (do Exec.fail (.stack (.overflow (← get).stack.limit))) :=
      .step fun _ safe => safe
    have whole := (Exec.checkCount_tracks function arguments).bind fun _ _ => refuses
    exact .step fun context safe => (whole context safe).2
  | succ room ih =>
    intro function member arguments buffer lie lies
    obtain ⟨-, fits⟩ := (setting.fit_function member).cons
    obtain ⟨fitsParameters, fitsBody⟩ := Fit.append fits
    -- Parameters are bound inside the new activation, before the body runs.
    have body := (bindAll_tracks fitsParameters lie).bind fun _ _ =>
      (statements_track ih).2 function.body fitsBody
    have confined := Exec.executes_confined.seq
      (Exec.executes_confined.bindAll function.parameters arguments) fun _ =>
        (Exec.executes_confined.statements (Exec.executes_confined.invoke room)).2 function.body
    rw [Function.invoke?, Function.invoke]
    refine (Exec.checkCount_tracks function arguments).bind fun _ _ =>
      (Exec.activation_tracks function.name lies confined body).bind fun frame lies => ?_
    -- A function that returned nothing yields nothing, whatever its type is.
    have result := lies.result
    cases yielded : frame.result with
    | void => exact .pure trivial
    | _ =>
      rw [yielded] at result
      exact Exec.lift_tracks fun _ coerced => result.coerce coerced

end Setting

namespace Exec

variable {setting : Setting}

/-- The literals of the program can be laid out. -/
theorem loadStrings_tracks :
    setting.Tracks (fun _ => True) loadStrings? loadStrings := by
  -- One literal after the other, each of which fits.
  have each {literals : List String}
      (fits : ∀ literal ∈ literals, (utf8Bytes literal).length + 1 < UInt64.size) :
      setting.Tracks (fun _ => True) (literals.forM loadString?) (literals.forM loadString) := by
    induction literals with
    | nil => exact .pure trivial
    | cons literal literals ih =>
      obtain ⟨first, rest⟩ := List.forall_mem_cons.mp fits
      exact (loadString_tracks first).bind fun _ _ => ih rest
  refine .consult fun context safe => each (fun literal member => ?_) context safe
  rw [safe.program] at member
  exact setting.fits.literals literal member

/-- A whole program can be run. -/
theorem runProgram_tracks (entryPoint : String) :
    setting.Tracks (fun _ => True) (runProgram? entryPoint) (runProgram entryPoint) := by
  -- The literals come first; what follows is looked up in the program.
  refine loadStrings_tracks.bind fun _ _ => .consult fun context safe => ?_
  -- The program that is looked at is the one of the setting.
  dsimp only
  rw [safe.program]
  cases found : setting.program.function? entryPoint with
  | none => exact ⟨rfl, safe⟩
  | some entry =>
    -- The functions are called from the depth on at which the program is started.
    have calls := @Setting.invoke_tracks setting context.stack.room
    obtain ⟨fits, -⟩ := setting.fits.types.append
    have globals := (Setting.statements_track calls).2 setting.program.globals fits
    have main := calls entry (List.mem_of_find?_eq_some found) [] none nofun nofun
    have whole : setting.Tracks (fun _ => True) (do
        Stmt.execAll? (Function.invoke? context.stack.room) setting.program.globals
        return (← Function.invoke? context.stack.room entry [] none).exitStatus) (do
        Stmt.execAll (Function.invoke context.stack.room) setting.program.globals
        return (← Function.invoke context.stack.room entry [] none).exitStatus) :=
      globals.bind fun _ _ => main.bind fun _ _ => .pure trivial
    exact whole context safe

end Exec

end StepMachine
