import StepMachine.Proofs.Context.Stores
import StepMachine.Proofs.Eval.EarlyReturn
import StepMachine.Proofs.Wary.Heap

/-! Where a function is left: the return statement that a call comes to, the state in which its
operand is evaluated, and what it hands out. -/

namespace StepMachine

/-- Storage of the caller for what the current function returns. -/
def Context.buffer? (context : Context) : Option Block := context.stack.current?.bind (·.buffer)

namespace Exec

/-- A statement of a function that has not returned is put under way and let in. -/
structure Begins (location : Location) (context begun : Context) : Prop where
  running : context.hasReturned = false
  entered : enter location { context with active := location :: context.active } = .ok () begun

/-- Rounds of a loop, one after the other, in each of which the test holds and the body ends. -/
inductive Rounds (test : Exec Bool) (body : Exec Unit) : Context → Context → Prop where
  | none (context : Context) : Rounds test body context context
  | more {context tested next turn : Context} (holds : test context = .ok true tested)
    (ran : body tested = .ok () next) (rest : Rounds test body next turn) :
    Rounds test body context turn

end Exec

namespace Stmt

/-- A statement that is run from a state comes to a return statement, and the operand of that is
about to be evaluated in another state. -/
inductive Departs (invoke : Invoke) : Stmt → Context → Expr → Context → Prop where
  | ret {operand : Expr} {location : Location} {context begun : Context}
    (begins : Exec.Begins location context begun) :
    Departs invoke (.ret (some operand) location) context operand begun
  | block {front behind : List Stmt} {statement : Stmt} {location : Location}
    {context begun opened reached leaving : Context} {operand : Expr}
    (begins : Exec.Begins location context begun)
    (opens : Exec.pushScope begun = .ok () opened)
    (ran : execAll invoke front opened = .ok () reached)
    (departs : Departs invoke statement reached operand leaving) :
    Departs invoke (.block (front ++ statement :: behind) location) context operand leaving
  | yes {condition : Expr} {yes : Stmt} {no : Option Stmt} {location : Location}
    {context begun tested leaving : Context} {operand : Expr}
    (begins : Exec.Begins location context begun)
    (holds : Exec.test invoke condition begun = .ok true tested)
    (departs : Departs invoke yes tested operand leaving) :
    Departs invoke (.branch condition yes no location) context operand leaving
  | no {condition : Expr} {yes no : Stmt} {location : Location}
    {context begun tested leaving : Context} {operand : Expr}
    (begins : Exec.Begins location context begun)
    (fails : Exec.test invoke condition begun = .ok false tested)
    (departs : Departs invoke no tested operand leaving) :
    Departs invoke (.branch condition yes (some no) location) context operand leaving
  | loop {condition : Expr} {body : Stmt} {location : Location}
    {context begun turn tested leaving : Context} {operand : Expr}
    (begins : Exec.Begins location context begun)
    (rounds : Exec.Rounds (Exec.alone (Exec.test invoke condition)) (body.exec invoke) begun turn)
    (holds : Exec.alone (Exec.test invoke condition) turn = .ok true tested)
    (departs : Departs invoke body tested operand leaving) :
    Departs invoke (.loop condition body location) context operand leaving

/-- Statements that are run in order come to a return statement in one of them. -/
def DepartsAll (invoke : Invoke) (list : List Stmt) (context : Context) (operand : Expr)
    (leaving : Context) : Prop :=
  ∃ front statement behind reached, list = front ++ statement :: behind ∧
    execAll invoke front context = .ok () reached ∧
    Departs invoke statement reached operand leaving

end Stmt

/-- A call comes to a return statement of the function, after its parameters have been bound in a
new activation. -/
def Function.Departs (room : Nat) (function : Function) (arguments : List Value)
    (buffer : Option Block) (context : Context) (operand : Expr) (leaving : Context) : Prop :=
  ∃ opened bound, Exec.pushFrame function.name buffer context = .ok () opened ∧
    bindAll function.parameters arguments opened = .ok () bound ∧
    Stmt.DepartsAll (invoke room) function.body bound operand leaving

namespace Exec

/-- The value that leaves the current function is that of the operand of a return statement which
was come to, handed over to the storage that the function began with; since then no byte has been
written. A return without an operand hands out nothing. -/
def HandedOut (invoke : Invoke) (departs : Expr → Context → Prop) (context : Context)
    (value : Value) (last : Context) : Prop :=
  value = .void ∨ ∃ operand leaving source evaluated handed, departs operand leaving ∧
    operand.eval invoke leaving = .ok source evaluated ∧
    handOver source evaluated = .ok value handed ∧
    evaluated.buffer? = context.buffer? ∧ last.heap.bytes = handed.heap.bytes

/-- What is done in front of it with the same storage, and what is done behind it without writing,
may be added to the way of a value out of a function. -/
theorem HandedOut.along {invoke : Invoke} {departs further : Expr → Context → Prop}
    {context first last final : Context} {value : Value}
    (handed : HandedOut invoke departs context value last)
    (comes : ∀ operand leaving, departs operand leaving → further operand leaving)
    (buffer : context.buffer? = first.buffer?) (bytes : final.heap.bytes = last.heap.bytes) :
    HandedOut invoke further first value final := by
  -- What was handed out is looked at, and all the rest stays.
  rcases handed with none |
    ⟨operand, leaving, source, evaluated, handed, way, ran, gave, same, kept⟩
  · exact .inl none
  · exact .inr ⟨operand, leaving, source, evaluated, handed, comes operand leaving way, ran, gave,
      same.trans buffer, bytes.trans kept⟩

/-- What disturbs nothing leaves the storage for the result. -/
theorem buffer?_evaluation {run : Exec α} (obeys : Obeys Effect.evaluation run)
    {context last : Context} {result : α} (ran : run context = .ok result last) :
    last.buffer? = context.buffer? := by
  have allowed := obeys context
  rw [ran] at allowed
  -- What is evaluated leaves the whole stack alone.
  unfold Context.buffer?
  rw [allowed.1.stack]

/-- So does what is confined. -/
theorem buffer?_execution {run : Exec α} (obeys : Obeys Effect.execution run)
    {context last : Context} {result : α} (ran : run context = .ok result last) :
    last.buffer? = context.buffer? := by
  -- What is confined may change the current activation, but not its storage.
  have allowed := obeys context
  rw [ran] at allowed
  unfold Context.buffer? CallStack.current?
  -- The current activation keeps its storage, whatever becomes of its scopes.
  have kept := allowed.1.frames
  cases before : context.stack.frames with
  | nil =>
    rw [before] at kept
    cases after : last.stack.frames with
    | nil => rfl
    | cons frame callers =>
      rw [after] at kept
      cases kept
  | cons frame callers =>
    rw [before] at kept
    cases after : last.stack.frames with
    | nil =>
      rw [after] at kept
      cases kept
    | cons changed others =>
      rw [after] at kept
      cases kept with
      | inside confined => exact confined.buffer

/-- A statement that hands out a value has been let in, and its effect has handed it out; what comes
behind writes no byte. -/
theorem early_statement_eq_ok {location : Location} {effect : Exec Flow} {context last : Context}
    {flow : Flow} (running : context.Running)
    (ran : Early.statement location effect context = .ok flow last) :
    ∃ begun middle, Begins location context begun ∧ begun.Running ∧
      begun.buffer? = context.buffer? ∧ effect begun = .ok flow middle ∧
      last.heap.bytes = middle.heap.bytes := by
  -- The statement has yielded a flow, so it was let in and its effect has ended.
  rw [early_statement_run] at ran
  dsimp only at ran
  cases inside : (enter location >>= fun _ => effect)
      { context with active := location :: context.active } with
  | error reason left =>
    rw [inside] at ran
    cases ran
  | ok other middle =>
    rw [inside] at ran
    cases ran
    obtain ⟨_, begun, entered, ended⟩ := exists_of_bind_ok inside
    -- Being let in changes neither the activations nor what is in memory.
    have allowed := enter_undisturbed location { context with active := location :: context.active }
    rw [entered] at allowed
    refine ⟨begun, middle, ⟨running.hasReturned, entered⟩, running.of_stack allowed.1.stack,
      ?_, ended, middle.heap.releaseAll_bytes _⟩
    unfold Context.buffer?
    rw [allowed.1.stack]

/-- A result under `finally` is that of the body, and what comes last has succeeded as well. -/
theorem tryFinally_eq_ok {body : Exec α} {final : Exec β} {context last : Context} {result : α}
    (ran : tryFinally body final context = .ok result last) :
    ∃ middle other, body context = .ok result middle ∧ final middle = .ok other last := by
  -- Either of the two may break off, and then there is no result.
  rw [tryFinally_run] at ran
  cases began : body context with
  | error reason middle =>
    rw [began] at ran
    cases ended : final middle <;> simp [ended] at ran
  | ok value middle =>
    rw [began] at ran
    -- What succeeded is split at the point where the body had ended.
    cases ended : final middle with
    | error reason left => simp [ended] at ran
    | ok other left =>
      simp only [ended] at ran
      cases ran
      exact ⟨middle, other, rfl, ended⟩

/-- A block that hands out a value has been opened, and its body has handed it out; closing the
block writes no byte. -/
theorem early_inBlock_eq_ok {body : Exec Flow} {context last : Context} {flow : Flow}
    (running : context.Running) (ran : Early.inBlock body context = .ok flow last) :
    ∃ opened middle, pushScope context = .ok () opened ∧ opened.Running ∧
      opened.buffer? = context.buffer? ∧ body opened = .ok flow middle ∧
      last.heap.bytes = middle.heap.bytes := by
  -- The block is opened, then its body runs, and closing it comes last.
  obtain ⟨_, opened, pushed, rest⟩ := exists_of_bind_ok ran
  obtain ⟨middle, _, ended, closed⟩ := tryFinally_eq_ok rest
  refine ⟨opened, middle, pushed, Ongoing.pushScope context _ opened running pushed, ?_, ended, ?_⟩
  · -- Opening a block changes the scopes of the current activation and not its storage.
    obtain ⟨frame, callers, frames, -⟩ := running
    rw [pushScope_run, frames] at pushed
    cases pushed
    simp [Context.buffer?, CallStack.current?, frames, Frame.pushScope]
  · -- To close it is to give up blocks, and none of their bytes is changed.
    have bytes := popScope_bytes middle
    unfold after at bytes
    rw [closed] at bytes
    exact bytes

/-- A value that the statement hands out is that of the operand of a return statement which it comes
to. -/
def HandsOut (invoke : Invoke) (statement : Stmt) : Prop :=
  ∀ {context last : Context} {value : Value}, context.Running →
    Early.exec invoke statement context = .ok (.returned value) last →
    HandedOut invoke (Stmt.Departs invoke statement context) context value last

/-- The same of statements that are run in order. -/
def AllHandOut (invoke : Invoke) (list : List Stmt) : Prop :=
  ∀ {context last : Context} {value : Value}, context.Running →
    Early.execAll invoke list context = .ok (.returned value) last →
    HandedOut invoke (Stmt.DepartsAll invoke list context) context value last

/-- A declaration hands out nothing. -/
theorem declare_handsOut (invoke : Invoke) (name : String) (type : CType) (init : Option Expr)
    (location : Location) : HandsOut invoke (.declare name type init location) := by
  -- The effect of a declaration ends in a state and in no value.
  intro context last value running ran
  cases init with
  | none =>
    -- The effect would have to yield a value, and it goes on.
    rw [Early.exec] at ran
    obtain ⟨begun, middle, -, -, -, ended, -⟩ := early_statement_eq_ok running ran
    obtain ⟨_, _, -, gave⟩ := exists_of_bind_ok ended
    cases gave
  | some initial =>
    rw [Early.exec] at ran
    obtain ⟨begun, middle, -, -, -, ended, -⟩ := early_statement_eq_ok running ran
    obtain ⟨_, _, -, rest⟩ := exists_of_bind_ok ended
    obtain ⟨_, _, -, gave⟩ := exists_of_bind_ok rest
    cases gave

/-- Nor does an expression. -/
theorem expression_handsOut (invoke : Invoke) (expression : Expr) (location : Location) :
    HandsOut invoke (.expression expression location) := by
  intro context last value running ran
  -- What was evaluated is dropped.
  rw [Early.exec] at ran
  obtain ⟨begun, middle, -, -, -, ended, -⟩ := early_statement_eq_ok running ran
  obtain ⟨_, _, -, gave⟩ := exists_of_bind_ok ended
  cases gave

/-- What a block hands out, its body does. -/
theorem block_handsOut {invoke : Invoke} {body : List Stmt} (location : Location)
    (inside : AllHandOut invoke body) : HandsOut invoke (.block body location) := by
  intro context last value running ran
  rw [Early.exec] at ran
  -- The statement was let in, and its block was opened in the state that the effect starts in.
  obtain ⟨begun, middle, begins, still, buffer, ended, bytes⟩ := early_statement_eq_ok running ran
  obtain ⟨opened, inner, opens, further, same, handed, closed⟩ := early_inBlock_eq_ok still ended
  refine (inside further handed).along ?_ (same.trans buffer) (bytes.trans closed)
  rintro operand leaving ⟨front, statement, behind, reached, rfl, front_ran, departs⟩
  exact .block begins opens front_ran departs

section Statements

variable {invoke : Invoke}
  (calls : ∀ function arguments buffer, Obeys Effect.evaluation (invoke function arguments buffer))
  (paced : ∀ function arguments buffer, Obeys Effect.pacing (invoke function arguments buffer))

include calls

/-- A test disturbs nothing. -/
theorem test_undisturbed (condition : Expr) :
    Obeys Effect.evaluation (test invoke condition) :=
  Obeys.bind ((evaluates_undisturbed.expressions calls).1 condition) fun value =>
    Obeys.lift value.isTruthy

/-- What a branch hands out, the way that the test decides on does. -/
theorem branch_handsOut {condition : Expr} {yes : Stmt} {no : Option Stmt} {location : Location}
    (left : HandsOut invoke yes) (right : ∀ statement ∈ no, HandsOut invoke statement) :
    HandsOut invoke (.branch condition yes no location) := by
  intro context last value running ran
  have tests := test_undisturbed calls condition
  -- The test disturbs nothing, and the way that is taken goes on from there.
  have onward {way : Stmt} {truth : Bool} {begun tested middle : Context}
      (departs : ∀ operand leaving, Stmt.Departs invoke way tested operand leaving →
        Stmt.Departs invoke (.branch condition yes no location) context operand leaving)
      (handed : tested.Running →
        HandedOut invoke (Stmt.Departs invoke way tested) tested value middle)
      (still : begun.Running) (buffer : begun.buffer? = context.buffer?)
      (decided : test invoke condition begun = .ok truth tested)
      (bytes : last.heap.bytes = middle.heap.bytes) :
      HandedOut invoke (Stmt.Departs invoke (.branch condition yes no location) context) context
        value last := by
    have further := Ongoing.of_evaluation tests begun truth tested still decided
    have same := buffer?_evaluation tests decided
    exact (handed further).along departs (same.trans buffer) bytes
  -- Without a second way, a test that fails hands out nothing.
  cases no with
  | none =>
    rw [Early.exec] at ran
    obtain ⟨begun, middle, begins, still, buffer, ended, bytes⟩ :=
      early_statement_eq_ok running ran
    obtain ⟨truth, tested, decided, rest⟩ := exists_of_bind_ok ended
    cases truth with
    | true =>
      exact onward (fun _ _ => .yes begins decided) (fun further => left further rest) still
        buffer decided bytes
    | false => cases rest
  | some no =>
    rw [Early.exec] at ran
    obtain ⟨begun, middle, begins, still, buffer, ended, bytes⟩ :=
      early_statement_eq_ok running ran
    obtain ⟨truth, tested, decided, rest⟩ := exists_of_bind_ok ended
    cases truth with
    | true =>
      exact onward (fun _ _ => .yes begins decided) (fun further => left further rest) still
        buffer decided bytes
    | false =>
      exact onward (fun _ _ => .no begins decided) (fun further => right no rfl further rest) still
        buffer decided bytes

/-- A return statement hands out the value of its operand, or nothing. -/
theorem ret_handsOut (value : Option Expr) (location : Location) :
    HandsOut invoke (.ret value location) := by
  intro context last result running ran
  -- A value that is returned is the one that was handed over last.
  cases value with
  | none =>
    rw [Early.exec] at ran
    obtain ⟨begun, middle, -, -, -, ended, -⟩ := early_statement_eq_ok running ran
    cases ended
    exact .inl rfl
  | some operand =>
    rw [Early.exec] at ran
    obtain ⟨begun, middle, begins, -, buffer, ended, bytes⟩ := early_statement_eq_ok running ran
    obtain ⟨source, evaluated, valued, rest⟩ := exists_of_bind_ok ended
    obtain ⟨value, handed, gave, yields⟩ := exists_of_bind_ok rest
    cases yields
    have same := buffer?_evaluation ((evaluates_undisturbed.expressions calls).1 operand) valued
    exact .inr ⟨operand, begun, source, evaluated, _, .ret begins, valued, gave,
      same.trans buffer, bytes⟩

include paced

/-- A statement after which control goes on has run. -/
theorem exec_of_next {statement : Stmt} {context last : Context} (running : context.Running)
    (went : Early.exec invoke statement context = .ok .next last) :
    statement.exec invoke context = .ok () last ∧ last.Running := by
  -- The early exit is the same statement, if nothing has been returned yet.
  have mirrors := (mirrors_statements calls paced).1 statement
  refine ⟨?_, mirrors.running context _ last running went⟩
  rw [mirrors.same context running, went]
  rfl

/-- A loop that hands out a value has gone through rounds, and the body has handed it out in the
next one. -/
theorem early_repeatWhile_eq_ok {condition : Expr} {body : Stmt} {turns : Nat}
    {context last : Context} {value : Value} (running : context.Running)
    (ran : Early.repeatWhile (alone (test invoke condition)) (Early.exec invoke body) turns
      context = .ok (.returned value) last) :
    ∃ turn tested, Rounds (alone (test invoke condition)) (body.exec invoke) context turn ∧
      alone (test invoke condition) turn = .ok true tested ∧ tested.Running ∧
      tested.buffer? = context.buffer? ∧
      Early.exec invoke body tested = .ok (.returned value) last := by
  have tests := alone_undisturbed (test_undisturbed calls condition)
  -- By induction on the turns; without any left, the loop is cut off.
  induction turns generalizing context with
  | zero =>
    obtain ⟨_, middle, looked, thrown⟩ := exists_of_bind_ok ran
    cases thrown
  | succ turns ih =>
    rw [Early.repeatWhile] at ran
    obtain ⟨proceed, tested, held, rest⟩ := exists_of_bind_ok ran
    have still := Ongoing.of_evaluation tests context proceed tested running held
    have kept := buffer?_evaluation tests held
    -- A loop whose test fails hands out nothing.
    cases proceed with
    | false => cases rest
    | true =>
      rw [if_pos rfl] at rest
      obtain ⟨flow, next, went, rest⟩ := exists_of_bind_ok rest
      -- The body hands the value out in this round, or the loop goes on.
      cases flow with
      | returned other =>
        cases rest
        exact ⟨context, tested, .none context, held, still, kept, went⟩
      | next =>
        -- The body has ended, and the rest of the loop goes on from there.
        obtain ⟨ended, further⟩ := exec_of_next calls paced still went
        obtain ⟨effect, same, obeys⟩ := (executes_confined.statements calls).1 body
        have buffer := buffer?_execution (statement_confined body.location obeys) (same ▸ ended)
        obtain ⟨turn, again, rounds, holds, onward, around, handed⟩ := ih further rest
        exact ⟨turn, again, .more held ended rounds, holds, onward,
          around.trans (buffer.trans kept), handed⟩

/-- What a loop hands out, its body does in one of the rounds. -/
theorem loop_handsOut {condition : Expr} {body : Stmt} (location : Location)
    (inside : HandsOut invoke body) : HandsOut invoke (.loop condition body location) := by
  intro context last value running ran
  -- The rounds of the loop lead to the turn in which the body hands it out.
  rw [Early.exec] at ran
  obtain ⟨begun, middle, begins, still, buffer, ended, bytes⟩ := early_statement_eq_ok running ran
  obtain ⟨_, _, looked, rest⟩ := exists_of_bind_ok ended
  cases looked
  obtain ⟨turn, tested, rounds, holds, further, same, handed⟩ :=
    early_repeatWhile_eq_ok calls paced still rest
  refine (inside further handed).along ?_ (same.trans buffer) bytes
  intro operand leaving departs
  exact .loop begins rounds holds departs

/-- What a list hands out, its first statement does, or the rest if that has gone on. -/
theorem cons_handOut {first : Stmt} {rest : List Stmt} (one : HandsOut invoke first)
    (all : AllHandOut invoke rest) : AllHandOut invoke (first :: rest) := by
  intro context last value running ran
  rw [Early.execAll] at ran
  obtain ⟨flow, middle, went, onward⟩ := exists_of_bind_ok ran
  -- The first statement hands the value out itself, or leaves that to the rest.
  cases flow with
  | returned handed =>
    cases onward
    refine (one running went).along ?_ rfl rfl
    intro operand leaving departs
    exact ⟨[], first, rest, context, rfl, by rw [Stmt.execAll]; rfl, departs⟩
  | next =>
    obtain ⟨ended, still⟩ := exec_of_next calls paced running went
    obtain ⟨effect, same, obeys⟩ := (executes_confined.statements calls).1 first
    have buffer := buffer?_execution (statement_confined first.location obeys) (same ▸ ended)
    refine (all still onward).along ?_ buffer rfl
    rintro operand leaving ⟨front, statement, behind, reached, rfl, front_ran, departs⟩
    refine ⟨first :: front, statement, behind, reached, rfl, ?_, departs⟩
    -- What was run in front of it was run after the first statement.
    rw [Stmt.execAll, bind_run, ended]
    exact front_ran

/-- A value that a statement, or a list of them, hands out is that of the operand of a return
statement which it comes to. -/
theorem handedOut_of_returned :
    (∀ statement : Stmt, HandsOut invoke statement) ∧ ∀ list, AllHandOut invoke list := by
  -- The induction follows execution, with one case for each kind of statement.
  apply Stmt.exec.mutual_induct
  -- The cases are declaration, expression, block, branch, loop, return, and the two kinds of lists.
  case case1 => exact declare_handsOut invoke
  case case2 => exact expression_handsOut invoke
  case case3 => exact fun _ location => block_handsOut location
  case case4 =>
    intro condition yes no location left right
    refine branch_handsOut calls left fun statement member => ?_
    -- The second way may be missing.
    cases no with
    | none => cases member
    | some no =>
      cases member
      exact right
  case case5 => exact fun _ _ location => loop_handsOut calls paced location
  case case6 => exact ret_handsOut calls
  case case7 =>
    intro context last value running ran
    -- An empty list hands out nothing.
    rw [Early.execAll] at ran
    cases ran
  case case8 => exact fun _ _ => cons_handOut calls paced

end Statements

end Exec

/-- Only to the type of a structure is a structure converted, and it stays what it is. -/
theorem Value.isStruct_of_coerce {value : Value} {type : CType} {address : Address}
    {definition : StructDef} (coerced : value.coerce type = .ok (.struct address definition)) :
    value = .struct address definition ∧ type.isStruct = true := by
  obtain rfl := Value.coerce_eq_struct coerced
  -- A conversion keeps the structure and asks for a type of structures.
  refine ⟨rfl, ?_⟩
  cases type with
  | struct name fields => rfl
  | _ => cases coerced

namespace Function

open Exec

/-- A structure that a call yields has been handed over by a return statement that the call came to,
to the storage of the caller; leaving the function has written no byte. -/
theorem invoke_eq_struct {room : Nat} {function : Function} {arguments : List Value}
    {buffer : Option Block} {context last : Context} {address : Address} {definition : StructDef}
    (called : invoke room function arguments buffer context =
      .ok (.struct address definition) last) :
    function.result.isStruct = true ∧
      ∃ deeper operand leaving source evaluated handed, room = deeper + 1 ∧
        function.Departs deeper arguments buffer context operand leaving ∧
        operand.eval (invoke deeper) leaving = .ok source evaluated ∧
        handOver source evaluated = .ok (.struct address definition) handed ∧
        evaluated.buffer? = buffer ∧ last.heap.bytes = handed.heap.bytes := by
  -- A call on a full stack fails, so there is room for the activation.
  cases room with
  | zero =>
    rw [invoke] at called
    obtain ⟨_, _, -, rest⟩ := exists_of_bind_ok called
    obtain ⟨_, _, -, gave⟩ := exists_of_bind_ok rest
    cases gave
  | succ room =>
    -- Run with an early exit, the call shows where its value comes from.
    rw [invoke_eq_early, Early.invoke, ← invoke_eq_early] at called
    obtain ⟨_, counted, count, onward⟩ := exists_of_bind_ok called
    -- Counting the arguments changes nothing.
    have same : counted = context := by
      unfold checkCount at count
      split at count <;> cases count
      rfl
    rw [same] at onward
    -- The activation is opened, the parameters are bound, and the body hands out the value.
    obtain ⟨flow, left, activated, yields⟩ := exists_of_bind_ok onward
    obtain ⟨_, opened, pushed, inside⟩ := exists_of_bind_ok activated
    obtain ⟨middle, _, ran, popped⟩ := tryFinally_eq_ok inside
    obtain ⟨_, bound, binds, ended⟩ := exists_of_bind_ok ran
    -- A new activation has returned nothing yet, and has the storage of the caller.
    have fresh : opened.Running ∧ opened.buffer? = buffer := by
      rw [pushFrame_run] at pushed
      cases room_left : context.stack.room with
      | zero =>
        rw [room_left] at pushed
        cases pushed
      | succ more =>
        rw [room_left] at pushed
        cases pushed
        exact ⟨⟨_, _, rfl, rfl⟩, rfl⟩
    have running := Ongoing.bindAll function.parameters arguments opened _ bound fresh.1 binds
    have storage :=
      buffer?_execution (executes_confined.bindAll function.parameters arguments) binds
    -- Only a structure that was returned is converted to one.
    obtain ⟨value, rfl, converted, state⟩ : ∃ value, flow = .returned value ∧
        value.coerce function.result = .ok (.struct address definition) ∧ last = left := by
      cases flow with
      | next => cases yields
      | returned value =>
        cases value with
        | void => cases yields
        | _ =>
          obtain ⟨coerced, same⟩ := lift_eq_ok yields
          exact ⟨_, rfl, coerced, same⟩
    obtain ⟨rfl, struct⟩ := Value.isStruct_of_coerce converted
    -- The body has come to a return statement, since nothing else hands out a structure.
    obtain ⟨-, lists⟩ := handedOut_of_returned (executes_confined.invoke room)
      (executes_pacing.invoke room)
    rcases lists function.body running ended with none |
      ⟨operand, leaving, source, evaluated, handed, departs, valued, gave, kept, bytes⟩
    · cases none
    · refine ⟨struct, room, operand, leaving, source, evaluated, handed, rfl,
        ⟨opened, bound, pushed, binds, departs⟩, valued, gave,
        kept.trans (storage.trans fresh.2), ?_⟩
      -- Leaving the activation writes no byte.
      have popped_bytes := popFrame_bytes middle
      unfold after at popped_bytes
      rw [popped] at popped_bytes
      rw [state]
      exact popped_bytes.trans bytes

end Function

end StepMachine
