import StepMachine.Proofs.Context.Account
import StepMachine.Proofs.Eval.Departure

/-! The expressions that a statement evaluates itself, each from the state that the evaluation has
come to, and how it goes on after each of them up to where it releases its temporary objects. -/

namespace StepMachine

/-- The expression that has to be evaluated to find a place. -/
def Expr.base? : Expr → Option Expr
  | .deref pointer _ => some pointer
  | .member object _ => some object
  | _ => none

/-- A value of the left side leaves it open what the right side is. -/
def BinaryOp.Needs : BinaryOp → Value → Prop
  | .connective .and, left => left.isTruthy = .ok true
  | .connective .or, left => left.isTruthy = .ok false
  | .arithmetic _, _ | .comparison _, _ => True

namespace Expr

/-- In the evaluation of an expression from a state, an operand of it is evaluated from another
state. -/
inductive Operand (invoke : Invoke) : Expr → Context → Expr → Context → Prop where
  | left (op : BinaryOp) (left right : Expr) (context : Context) :
    Operand invoke (.binary op left right) context left context
  | right {op : BinaryOp} {left : Expr} (right : Expr) {context middle : Context} {value : Value}
    (ran : left.eval invoke context = .ok value middle) (needed : op.Needs value) :
    Operand invoke (.binary op left right) context right middle
  | unary (op : UnaryOp) (operand : Expr) (context : Context) :
    Operand invoke (.unary op operand) context operand context
  | base {expression operand : Expr} (context : Context)
    (based : expression.base? = some operand) :
    Operand invoke expression context operand context
  | addressOf {place operand : Expr} (context : Context) (based : place.base? = some operand) :
    Operand invoke (.addressOf place) context operand context
  | value (target value : Expr) (context : Context) :
    Operand invoke (.assign target value) context value context
  | target {target value operand : Expr} {context middle : Context} {result : Value}
    (ran : value.eval invoke context = .ok result middle) (based : target.base? = some operand) :
    Operand invoke (.assign target value) context operand middle
  | argument {function : String} {front : List Expr} (argument : Expr) (behind : List Expr)
    {context middle : Context} {callee : Callable} {values : List Value}
    (known : Exec.resolve function context = .ok callee context)
    (ran : evalAll invoke front context = .ok values middle) :
    Operand invoke (.call function (front ++ argument :: behind)) context argument middle

/-- In the evaluation of an expression from a state, an expression anywhere in it is evaluated from
another state. -/
inductive Within (invoke : Invoke) : Expr → Context → Expr → Context → Prop where
  | itself (expression : Expr) (context : Context) :
    Within invoke expression context expression context
  | inside {outer operand inner : Expr} {context middle reached : Context}
    (direct : Operand invoke outer context operand middle)
    (within : Within invoke operand middle inner reached) :
    Within invoke outer context inner reached

end Expr

/-- The expression that a statement evaluates under its own protocol. A loop tests its condition
under a protocol of the test. -/
def Stmt.expression? : Stmt → Option Expr
  | .declare _ _ init _ => init
  | .expression value _ => some value
  | .branch condition _ _ _ => some condition
  | .ret value _ => value
  | .block _ _ | .loop _ _ _ => none

namespace Exec

/-- What does not look at a result takes its steps behind those that lead to the result. -/
theorem Account.seq {run : Exec α} {next : Exec β} {context middle : Context} {result : α}
    {first rest : List Step} (ran : run context = .ok result middle)
    (began : Account run context first) (went : Account next middle rest) :
    Account (run >>= fun _ => next) context (first ++ rest) := .bind ran began went

/-- What is made of a result takes no further step. -/
theorem Account.map {run : Exec α} {context : Context} {steps : List Step}
    (account : Account run context steps) (make : α → β) :
    Account (do return make (← run)) context steps := by
  -- A result is passed on without a step, and a failure ends the sequence as it is.
  cases ran : run context with
  | error reason last => exact .broken ran account
  | ok result last =>
    have both : Account (do return make (← run)) context (steps ++ []) :=
      .bind ran account (.pure (make result) last)
    rw [List.append_nil] at both
    exact both

/-- A computation whose temporary objects go releases them after its own steps. -/
theorem Account.alone {run : Exec α} {context : Context} {steps : List Step}
    (account : Account run context steps) :
    Account (Exec.alone run) context
      (steps ++ [.releaseTemporaries context.temporaries.size]) := by
  -- The objects are counted first, which is no step.
  have counted : Account temporaryMark context [] :=
    .bind (get_run context) (.get context) (.pure _ context)
  have released := Account.step (.releaseTemporaries context.temporaries.size) (run.after context)
  have finished := (Account.lastly account released).map (·.1)
  -- What is done alone is followed by the release, whatever it came to.
  have same : Account (tryFinally run (releaseTemporaries context.temporaries.size)) context
      (steps ++ [.releaseTemporaries context.temporaries.size]) := by
    show Account ((·.1) <$> tryFinally' run fun _ =>
      releaseTemporaries context.temporaries.size) context _
    rw [map_eq_pure_bind]
    exact finished
  have both : Account (temporaryMark >>= fun mark => tryFinally run (releaseTemporaries mark))
      context ([] ++ (steps ++ [.releaseTemporaries context.temporaries.size])) :=
    .bind rfl counted same
  exact both

/-- A statement that is let in takes the steps of its effect, then releases its temporary objects,
and at most notes that it is no longer under way. -/
theorem Account.statement {location : Location} {effect : Exec Unit} {context begun : Context}
    {steps : List Step} (begins : Begins location context begun)
    (account : Account effect begun steps) :
    ∃ behind, Account (Exec.statement location effect) context
        ([.activate (location :: context.active), .enter location] ++ steps ++
          .releaseTemporaries context.temporaries.size :: behind) ∧
      ∀ step ∈ behind, ∃ active, step = .activate active := by
  -- The statement is put under way first, and then let in.
  have active := Account.activate (location :: ·) context
  have entered : Account (do enter location; effect)
      { context with active := location :: context.active } (.enter location :: steps) :=
    .bind begins.entered (.step (.enter location) _) account
  -- A statement that fails stays among those that are under way.
  obtain ⟨behind, went, noted⟩ : ∃ behind, Account (do
        Exec.alone (do enter location; effect)
        modify fun context => { context with active := context.active.tail })
      { context with active := location :: context.active }
      (.enter location :: steps ++ .releaseTemporaries context.temporaries.size :: behind) ∧
      ∀ step ∈ behind, ∃ active, step = .activate active := by
    cases ended : Exec.alone (do enter location; effect)
        { context with active := location :: context.active } with
    | error reason last => exact ⟨[], .broken ended entered.alone, nofun⟩
    | ok result last =>
      have both := Account.seq ended entered.alone (.activate List.tail last)
      rw [List.append_assoc] at both
      exact ⟨[.activate last.active.tail], both, by simp⟩
  refine ⟨behind, ?_, noted⟩
  -- Nothing has been returned, so that the statement is not skipped.
  have whole := Account.seq (modify_run _ context) active went
  show Account (Exec.statement location effect) context ([] ++ ([.activate _] ++
    (.enter location :: steps ++ .releaseTemporaries context.temporaries.size :: behind)))
  refine Account.bind (get_run context) (.get context) ?_
  rw [if_neg (by simp [begins.running])]
  exact whole

/-- From a state a computation comes to a part of it in another state: the steps that the part takes
there are among those of the whole, and the ones behind them spare the temporary objects that the
part has left. -/
def ComesTo (run : Exec α) (context : Context) (part : Exec β) (reached : Context) : Prop :=
  ∃ before, Step.walk before context = reached ∧
    ∀ inner mark, Account part reached inner → mark ≤ (part.after reached).temporaries.size →
      ∃ rest, Account run context (before ++ inner ++ rest) ∧ ∀ step ∈ rest, step.Spares mark

namespace ComesTo

/-- A computation comes to itself at once. -/
theorem itself (run : Exec α) (context : Context) : ComesTo run context run context :=
  ⟨[], rfl, fun inner _ account _ => ⟨[], by simpa using account, nofun⟩⟩

/-- A sequence comes to its first part at once. -/
theorem first {run : Exec β} {next : β → Exec α} (context : Context)
    (shelter : ∀ mark result, Shelters mark (next result)) :
    ComesTo (run >>= next) context run context := by
  -- What follows the first part may do anything that spares older temporary objects.
  refine ⟨[], rfl, fun inner mark account enough => ?_⟩
  unfold after at enough
  -- A first part that breaks off has no rest behind it.
  cases ran : run context with
  | error reason last => exact ⟨[], by simpa using Account.broken ran account, nofun⟩
  | ok result last =>
    rw [ran] at enough
    obtain ⟨rest, went, spare⟩ := shelter mark result last enough
    exact ⟨rest, .bind ran account went, spare⟩

/-- After its first part a sequence comes to what the rest of it comes to. -/
theorem behind {run : Exec β} {next : β → Exec α} {part : Exec γ} {context middle reached : Context}
    {result : β} (shelters : Shelters 0 run) (ran : run context = .ok result middle)
    (comes : ComesTo (next result) middle part reached) :
    ComesTo (run >>= next) context part reached := by
  -- The first part leaves all temporaries where they are, so it has an account of its own.
  obtain ⟨earlier, began⟩ := shelters.exists_account context
  -- The steps of the first part lead to where the rest begins.
  have there : Step.walk earlier context = middle := by
    rw [← began.after_eq]
    unfold after
    rw [ran]
    rfl
  obtain ⟨before, way, rest⟩ := comes
  refine ⟨earlier ++ before, by rw [Step.walk_append, there, way],
    fun inner mark account enough => ?_⟩
  obtain ⟨further, went, spare⟩ := rest inner mark account enough
  refine ⟨further, ?_, spare⟩
  have both := Account.bind ran began went
  simpa only [List.append_assoc] using both

/-- What is come to on the way to a part is come to on the way to the whole. -/
theorem trans {run : Exec α} {part : Exec β} {inside : Exec γ} {context middle reached : Context}
    (outer : ComesTo run context part middle) (inner : ComesTo part middle inside reached) :
    ComesTo run context inside reached := by
  -- The steps on the way to the part are followed by those on the way inside of it.
  obtain ⟨before, way, rest⟩ := outer
  obtain ⟨between, further, others⟩ := inner
  refine ⟨before ++ between, by rw [Step.walk_append, way, further],
    fun steps mark account enough => ?_⟩
  obtain ⟨behind, went, spare⟩ := others steps mark account enough
  -- The part spares the temporary objects as well, so that they are there when it has ended.
  have left : part.after middle = Step.walk behind (inside.after reached) := by
    rw [went.after_eq, account.after_eq, Step.walk_append, Step.walk_append, further]
  have still : mark ≤ (part.after middle).temporaries.size := by
    rw [left]
    exact (Step.walk_sameOldest spare enough).enough
  obtain ⟨final, whole, sparing⟩ := rest _ mark went still
  refine ⟨behind ++ final, by simpa only [List.append_assoc] using whole, fun step member => ?_⟩
  rcases List.mem_append.mp member with early | late
  · exact spare step early
  · exact sparing step late

end ComesTo

section Parts

variable {invoke : Invoke}
  (calls : ∀ mark function arguments buffer, Shelters mark (invoke function arguments buffer))

include calls

/-- The evaluation of an expression spares the temporary objects of others. -/
theorem eval_shelters (expression : Expr) (mark : Nat) :
    Shelters mark (expression.eval invoke) :=
  ((executes_sheltering mark).expressions (calls mark)).1 expression

/-- The evaluation of several expressions does so too. -/
theorem evalAll_shelters (list : List Expr) (mark : Nat) :
    Shelters mark (Expr.evalAll invoke list) :=
  ((executes_sheltering mark).expressions (calls mark)).2.1 list

/-- To find a place does so too. -/
theorem place_shelters (expression : Expr) (mark : Nat) :
    Shelters mark (expression.place invoke) :=
  ((executes_sheltering mark).expressions (calls mark)).2.2 expression

/-- To run a statement does so too, since it releases only its own. -/
theorem exec_shelters (statement : Stmt) (mark : Nat) :
    Shelters mark (statement.exec invoke) := by
  -- What a statement releases are its own temporary objects, which are newer.
  have statements := ((executes_sheltering mark).statements (calls mark)).1
  obtain ⟨effect, same, shelters⟩ := statements statement
  rw [same]
  exact .statement statement.location shelters

omit calls in
/-- To read what is at a place does so too. -/
theorem loadPlace_shelters (place : Place) (mark : Nat) : Shelters mark (loadPlace place) :=
  (executes_sheltering mark).loadPlace place

omit calls in
/-- Where a place is looked for, what it is based on is evaluated first. -/
theorem place_comesTo {place operand : Expr} (based : place.base? = some operand)
    (context : Context) : ComesTo (place.place invoke) context (operand.eval invoke) context := by
  -- Only what a pointer or a member is based on has to be evaluated first.
  cases place with
  | deref pointer type =>
    cases based
    rw [Expr.place]
    exact .first context fun mark value => .lift _
  | member object field =>
    cases based
    rw [Expr.place]
    exact .first context fun mark value => .lift _
  | _ => cases based

/-- Expressions are evaluated from left to right. -/
theorem evalAll_comesTo {front : List Expr} (expression : Expr) (behind : List Expr)
    {context middle : Context} {values : List Value}
    (ran : Expr.evalAll invoke front context = .ok values middle) :
    ComesTo (Expr.evalAll invoke (front ++ expression :: behind)) context (expression.eval invoke)
      middle := by
  -- The induction is on the expressions in front, each of which has yielded a value.
  induction front generalizing context values with
  -- The expression comes first, and the others follow it.
  | nil =>
    rw [Expr.evalAll] at ran
    cases ran
    rw [List.nil_append, Expr.evalAll]
    exact .first _ fun mark value =>
      (evalAll_shelters calls behind mark).bind fun _ => .pure _
  | cons earlier front ih =>
    rw [Expr.evalAll] at ran
    obtain ⟨value, next, valued, rest⟩ := exists_of_bind_ok ran
    obtain ⟨others, _, went, gave⟩ := exists_of_bind_ok rest
    cases gave
    rw [List.cons_append, Expr.evalAll]
    exact .behind (eval_shelters calls earlier 0) valued
      ((ComesTo.first next fun mark values => .pure _).trans (ih went))

/-- A binary operation comes to its left side at once. -/
theorem binary_comesTo_left (op : BinaryOp) (left right : Expr) (context : Context) :
    ComesTo ((Expr.binary op left right).eval invoke) context (left.eval invoke) context := by
  -- The right side may still be evaluated, and its truth looked at.
  have decides (mark : Nat) : Shelters mark
      (do return Value.ofBool (← (← right.eval invoke).isTruthy)) :=
    .bind (eval_shelters calls right mark) fun _ => .bind (.lift _) fun _ => .pure _
  -- A connective may stop at its left side, and any other operator goes on to the right one.
  cases op with
  | connective connective =>
    cases connective with
    | and =>
      rw [Expr.eval]
      refine .first context fun mark value => .bind (.lift _) fun truth => ?_
      cases truth with
      | true => exact decides mark
      | false => exact .pure _
    | or =>
      rw [Expr.eval]
      refine .first context fun mark value => .bind (.lift _) fun truth => ?_
      cases truth with
      | true => exact .pure _
      | false => exact decides mark
  | arithmetic op =>
    rw [Expr.eval]
    exact .first context fun mark a => .bind (eval_shelters calls right mark) fun b => .lift _
  | comparison op =>
    rw [Expr.eval]
    exact .first context fun mark a => .bind (eval_shelters calls right mark) fun b => .lift _

/-- The right side is come to where the left one leaves it open. -/
theorem binary_comesTo_right {op : BinaryOp} {left : Expr} (right : Expr)
    {context middle : Context} {value : Value}
    (ran : left.eval invoke context = .ok value middle) (needed : op.Needs value) :
    ComesTo ((Expr.binary op left right).eval invoke) context (right.eval invoke) middle := by
  -- The left side has yielded a value, and the rest starts in the state that it has left.
  have evaluated := eval_shelters calls left 0
  -- Only a connective looks at the left side before it goes on to the right one.
  cases op with
  | connective connective =>
    cases connective with
    | and =>
      have truth : value.isTruthy = .ok true := needed
      rw [Expr.eval]
      refine .behind evaluated ran (.behind (.lift _) (by rw [truth]; rfl) ?_)
      exact .first middle fun mark _ => .bind (.lift _) fun _ => .pure _
    | or =>
      have truth : value.isTruthy = .ok false := needed
      rw [Expr.eval]
      refine .behind evaluated ran (.behind (.lift _) (by rw [truth]; rfl) ?_)
      exact .first middle fun mark _ => .bind (.lift _) fun _ => .pure _
  | arithmetic op =>
    rw [Expr.eval]
    exact .behind evaluated ran (.first middle fun mark b => .lift _)
  | comparison op =>
    rw [Expr.eval]
    exact .behind evaluated ran (.first middle fun mark b => .lift _)

/-- The evaluation of an expression comes to each operand. -/
theorem eval_comesTo_operand {outer operand : Expr} {context reached : Context}
    (direct : outer.Operand invoke context operand reached) :
    ComesTo (outer.eval invoke) context (operand.eval invoke) reached := by
  -- Each kind of operand stands in one place of the evaluation.
  cases direct with
  | left op _ right => exact binary_comesTo_left calls op operand right context
  | right _ ran needed => exact binary_comesTo_right calls operand ran needed
  | unary op operand =>
    rw [Expr.eval]
    exact .first context fun mark value => .lift _
  | base _ based =>
    -- To read what is at a place, the place is found in the same way.
    have loads (mark : Nat) (place : Except RuntimeError Place) :
        Shelters mark (liftM place >>= loadPlace) :=
      .bind (.lift place) fun place => loadPlace_shelters place mark
    cases outer with
    | deref pointer type =>
      cases based
      rw [Expr.eval]
      exact .first context fun mark value => loads mark _
    | member object field =>
      cases based
      rw [Expr.eval]
      exact .first context fun mark value => loads mark _
    | _ => cases based
  | addressOf _ based =>
    rw [Expr.eval]
    exact (ComesTo.first context fun mark place => .pure _).trans (place_comesTo based context)
  -- The value comes first; then the place is found, stored to and read back.
  | value target value =>
    rw [Expr.eval]
    refine .first context fun mark value => .bind (place_shelters calls target mark) fun place => ?_
    exact .bind (.step (.store place.address place.type value) trivial) fun _ =>
      loadPlace_shelters place mark
  -- The value is computed before the place is looked for.
  | @target target value _ _ _ result ran based =>
    rw [Expr.eval]
    refine .behind (eval_shelters calls value 0) ran
      (ComesTo.trans ?_ (place_comesTo based reached))
    exact .first reached fun mark place =>
      .bind (.step (.store place.address place.type result) trivial) fun _ =>
        loadPlace_shelters place mark
  | @argument function front argument behind _ _ callee values known ran =>
    rw [Expr.eval]
    -- Behind the arguments there is only the call itself.
    have arguments := evalAll_comesTo calls operand behind ran
    refine .behind ((executes_sheltering 0).resolve function) known
      (ComesTo.trans (.first context fun mark values => ?_) arguments)
    refine .bind (.step (.returnBuffer callee.result) trivial) fun buffer => ?_
    -- A function of the program spares the temporaries of its caller, and so does the machine's
    -- own.
    cases callee with
    | function function => exact calls mark function values buffer
    | builtin builtin => exact (executes_sheltering mark).builtin builtin values

/-- So it comes to each expression in it. -/
theorem eval_comesTo {outer inner : Expr} {context reached : Context}
    (within : outer.Within invoke context inner reached) :
    ComesTo (outer.eval invoke) context (inner.eval invoke) reached := by
  -- On the way to an expression deep inside, each operand is come to in the state left by those
  -- before.
  induction within with
  | itself expression context => exact .itself _ context
  | inside direct _ ih => exact (eval_comesTo_operand calls direct).trans ih

omit calls in
/-- A test comes to its condition at once. -/
theorem test_comesTo (condition : Expr) (context : Context) :
    ComesTo (test invoke condition) context (condition.eval invoke) context :=
  .first context fun _ _ => .lift _

/-- The effect of a statement comes to its own expression at once. -/
theorem exec_comesTo {statement : Stmt} {expression : Expr}
    (own : statement.expression? = some expression) :
    ∃ effect, statement.exec invoke = Exec.statement statement.location effect ∧
      ∀ context, ComesTo effect context (expression.eval invoke) context := by
  -- The expression stands in front of everything else that the effect does.
  cases statement with
  | declare name type init location =>
    -- Only a declaration with an initial value evaluates something.
    cases init with
    | none => cases own
    | some value =>
      cases own
      rw [Stmt.exec]
      refine ⟨_, rfl, fun context => .first context fun mark value => ?_⟩
      exact .bind (.step (.declare name type (some value)) trivial) fun _ => .pure _
  | expression value location =>
    cases own
    rw [Stmt.exec]
    exact ⟨_, rfl, fun context => .first context fun mark value => .pure _⟩
  | block body location => cases own
  | branch condition yes no location =>
    cases own
    -- The condition is tested, and then one of the ways is taken, or none.
    have tests {ways : Bool → Exec Unit} (shelter : ∀ mark truth, Shelters mark (ways truth))
        (context : Context) :
        ComesTo (test invoke expression >>= ways) context (expression.eval invoke) context :=
      ComesTo.trans (.first context shelter) (test_comesTo expression context)
    cases no with
    | none =>
      rw [Stmt.exec]
      refine ⟨_, rfl, tests fun mark truth => ?_⟩
      cases truth with
      | true => exact exec_shelters calls yes mark
      | false => exact .pure _
    | some no =>
      rw [Stmt.exec]
      refine ⟨_, rfl, tests fun mark truth => ?_⟩
      cases truth with
      | true => exact exec_shelters calls yes mark
      | false => exact exec_shelters calls no mark
  | loop condition body location => cases own
  | ret value location =>
    -- So does only a return with a value.
    cases value with
    | none => cases own
    | some value =>
      cases own
      rw [Stmt.exec]
      -- What is returned is handed over and noted, both before the release.
      refine ⟨_, rfl, fun context => .first context fun mark value => ?_⟩
      exact .bind (.step (.handOver value) trivial) fun value =>
        .step (.markReturned value) trivial

end Parts

/-- Two steps lead to where the effect of a statement begins. -/
theorem Begins.walk {location : Location} {context begun : Context}
    (begins : Begins location context begun) :
    Step.walk [.activate (location :: context.active), .enter location] context = begun := by
  have entered := congrArg stateOf begins.entered
  exact entered

/-- A statement that is let in begins in a state that can be reached. -/
theorem Begins.reachable {location : Location} {first context begun : Context}
    (begins : Begins location context begun) (reachable : first.Reachable context) :
    first.Reachable begun := by
  -- The two steps neither look at what was there nor fail.
  rw [← begins.walk]
  exact Step.walk_reachable reachable _

/-- A state in which an expression is evaluated can be reached, if that can be from which the
evaluation of the whole started. -/
theorem reachable_within {first : Context} {room : Nat} {outer inner : Expr}
    {context reached : Context} (within : outer.Within (Function.invoke room) context inner reached)
    (reachable : first.Reachable context) : first.Reachable reached := by
  -- Each operand starts where the evaluation of those in front of it has ended.
  have executes := (steps_reach first).executes
  obtain ⟨values, lists, -⟩ := executes.expressions (executes.invoke room)
  induction within with
  | itself => exact reachable
  | inside direct _ ih =>
    apply ih
    -- An operand is evaluated in the state that those in front of it have left.
    cases direct with
    | left | unary | base | addressOf | value => exact reachable
    | right _ ran => exact (values _).keeps_ok reachable ran
    | target ran => exact (values _).keeps_ok reachable ran
    | argument _ _ _ ran => exact (lists _).keeps_ok reachable ran

end Exec

end StepMachine
