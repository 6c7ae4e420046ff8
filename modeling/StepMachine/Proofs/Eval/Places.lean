import StepMachine.Proofs.Context.Stores
import StepMachine.Proofs.Eval.Operands

/-! Expressions that name a place: to read one, to take its address and to assign to it all begin by
finding the place, in the same way and once. -/

namespace StepMachine

namespace Exec

/-- An object is loaded from the heap, and the state stays. -/
theorem loadPlace_run (place : Place) (context : Context) :
    loadPlace place context = match context.heap.load place.address place.type with
      | .ok value => .ok value context
      | .error cause => .error (.fault cause) context := by
  -- Loading reads the heap of the state, and nothing else of it.
  simp only [loadPlace, bind_run, get_run]
  cases context.heap.load place.address place.type <;> rfl

namespace Account

/-- What takes no step of its own adds none. -/
theorem silently {run : Exec α} {next : α → Exec β} {context : Context} {steps : List Step}
    (account : Account run context steps)
    (silent : ∀ result last, Account (next result) last []) :
    Account (run >>= next) context steps := by
  -- If the first part breaks off, its steps are all; else what follows adds none to them.
  cases ran : run context with
  | error reason last => exact .broken ran account
  | ok result last =>
    have both := Account.bind ran account (silent result last)
    rwa [List.append_nil] at both

/-- A result of pure computing takes no step. -/
theorem lift (outcome : Except RuntimeError α) (context : Context) :
    Account (liftM outcome : Exec α) context [] := by
  -- It is a result or a failure from the start.
  cases outcome with
  | ok result => exact .pure result context
  | error cause => exact .throw (.fault cause) context

/-- To read an object takes no step. -/
theorem loadPlace (place : Place) (context : Context) :
    Account (loadPlace place) context [] :=
  silently (.get context) fun current last => lift (current.heap.load place.address place.type) last

end Account

end Exec

namespace Expr

/-- Variables, dereferences and members name a place; anything else has only a value. -/
def isLvalue : Expr → Bool
  | .var _ | .deref _ _ | .member _ _ => true
  | _ => false

variable (invoke : Invoke)

/-- The value of an expression that names a place is what is found there. -/
theorem eval_lvalue {expression : Expr} (lvalue : expression.isLvalue = true) :
    expression.eval invoke = expression.place invoke >>= Exec.loadPlace := by
  -- Each of the three forms is evaluated by finding its place and loading from there.
  cases expression with
  | var name =>
    rw [Expr.eval, Expr.place]
    simp only [bind_assoc, pure_bind]
    rfl
  | deref pointer type =>
    rw [Expr.eval, Expr.place, bind_assoc]
  | member object field =>
    rw [Expr.eval, Expr.place, bind_assoc]
  | _ => cases lvalue

/-- What the address of a place leads to is the place again, with the type that was asked for. -/
theorem place_deref_addressOf (expression : Expr) (type : CType) :
    (Expr.deref (.addressOf expression) type).place invoke =
      expression.place invoke >>= fun place => pure ⟨place.address, type⟩ := by
  -- The address is the place's own, so following it finds what the place was.
  rw [Expr.place, Expr.eval, bind_assoc]
  rfl

/-- A dereference names a place of the type that it was given. -/
theorem place_deref_type {invoke : Invoke} {pointer : Expr} {type : CType} {context last : Context}
    {place : Place} (placed : (Expr.deref pointer type).place invoke context = .ok place last) :
    place.type = type := by
  -- The place is made of the address that was read and the type of the dereference.
  rw [Expr.place] at placed
  obtain ⟨value, middle, -, rest⟩ := exists_of_bind_ok placed
  obtain ⟨target, -⟩ := Exec.lift_eq_ok rest
  unfold Value.target at target
  -- Only an address leads to a place at all.
  cases read : value.asPointer with
  | error cause =>
    rw [read] at target
    cases target
  | ok address =>
    rw [read] at target
    cases target
    rfl

/-- To read through the address of a place is to find the place and to read it as an object of the
type that was asked for. -/
theorem eval_deref_addressOf (expression : Expr) (type : CType) :
    (Expr.deref (.addressOf expression) type).eval invoke =
      expression.place invoke >>= fun place => Exec.loadPlace ⟨place.address, type⟩ := by
  -- A dereference is read like any place, and its place is the one behind the address.
  rw [eval_lvalue invoke rfl, place_deref_addressOf, bind_assoc]
  rfl

/-- An assignment evaluates the value, finds the place, stores the value there and reads it back. -/
theorem eval_assign_eq (target value : Expr) :
    (Expr.assign target value).eval invoke = (do
      let operand ← value.eval invoke
      let place ← target.place invoke
      Exec.edit (Heap.store place.address place.type operand)
      Exec.loadPlace place) := by
  -- The place is found after the value, and the stored object is read back as the result.
  rw [Expr.eval]
  rfl

variable {invoke}

/-- To read through the address of a place is to read the place, if the type is that of the place,
should there be one. -/
theorem eval_deref_addressOf_of_type {expression : Expr} (lvalue : expression.isLvalue = true)
    {context : Context} {type : CType}
    (typed : ∀ place last, expression.place invoke context = .ok place last → place.type = type) :
    (Expr.deref (.addressOf expression) type).eval invoke context =
      expression.eval invoke context := by
  -- Both sides find the place first; then the type that was asked for is the place's own.
  rw [eval_deref_addressOf, eval_lvalue invoke lvalue, bind_run, bind_run]
  cases found : expression.place invoke context with
  | error reason last => rfl
  | ok place last => rw [← typed place last found]

/-- So is to assign through the address, where the place is found after the value. -/
theorem eval_assign_deref_addressOf {expression value : Expr} {context : Context} {type : CType}
    (typed : ∀ operand middle place last, value.eval invoke context = .ok operand middle →
      expression.place invoke middle = .ok place last → place.type = type) :
    (Expr.assign (.deref (.addressOf expression) type) value).eval invoke context =
      (Expr.assign expression value).eval invoke context := by
  rw [eval_assign_eq, eval_assign_eq, bind_run, bind_run]
  -- Without a value nothing is assigned on either side.
  cases ran : value.eval invoke context with
  | error reason middle => rfl
  | ok operand middle =>
    -- From here on the two differ in the type of the place only.
    simp only [place_deref_addressOf, bind_run]
    cases found : expression.place invoke middle with
    | error reason last => rfl
    | ok place last =>
      rw [← typed operand middle place last ran found]
      rfl

/-- The step by which a value is stored, if the place for it has been found. -/
def storing (operand : Value) : EStateM.Result Unwind Context Place → List Step
  | .ok place _ => [.store place.address place.type operand]
  | .error _ _ => []

/-- An assignment takes the steps of the value, then those by which the place is found, and then
stores. -/
theorem account_assign {target value : Expr} {context middle : Context} {operand : Value}
    {first steps : List Step} (ran : value.eval invoke context = .ok operand middle)
    (began : Exec.Account (value.eval invoke) context first)
    (found : Exec.Account (target.place invoke) middle steps) :
    Exec.Account ((Expr.assign target value).eval invoke) context
      (first ++ (steps ++ storing operand (target.place invoke middle))) := by
  -- The steps of the value come first, then those by which the place is found.
  rw [eval_assign_eq]
  refine .bind ran began ?_
  -- Nothing is stored where no place is found.
  cases placed : target.place invoke middle with
  | error reason last =>
    rw [storing, List.append_nil]
    exact .broken placed found
  | ok place last =>
    -- What was stored is read back without a further step.
    have stored := Exec.Account.step (.store place.address place.type operand) last
    exact .bind placed found (stored.silently fun _ state => .loadPlace place state)

/-- The place that the address of another leads to is found by the same steps. -/
theorem account_deref_addressOf {expression : Expr} {context : Context} {steps : List Step}
    (found : Exec.Account (expression.place invoke) context steps) (type : CType) :
    Exec.Account ((Expr.deref (.addressOf expression) type).place invoke) context steps := by
  -- Taking the address and following it are no steps.
  rw [place_deref_addressOf]
  exact found.silently fun place last => .pure _ last

/--
Whatever names a place names the same object, however it is used.

The expression is a variable, a dereference or a member, with anything in it, and the state is any
state.
Its value is what is loaded from the place that it names; a failure to find the place or to load
from it is the failure of the evaluation, in the same state.
To read through its address, with the type of the place, gives the same value or failure in the same
state; where no place is found, the type does not matter.
To assign through its address is to assign to it, where the type is that of the place as it is found
after the value.
What it takes to find the place happens once each time: the place is found, read, read through its
address and turned into its address by the same steps, and both assignments take the steps of the
value, those by which the place is found, and one more, which stores.
-/
theorem lvalues_cohere (room : Nat) (expression : Expr) (lvalue : expression.isLvalue = true)
    (context : Context) :
    let invoke := Function.invoke room
    (expression.eval invoke context = match expression.place invoke context with
      | .ok place last => match last.heap.load place.address place.type with
        | .ok value => .ok value last
        | .error cause => .error (.fault cause) last
      | .error reason last => .error reason last) ∧
    (∀ type,
      (∀ place last, expression.place invoke context = .ok place last → place.type = type) →
      (Expr.deref (.addressOf expression) type).eval invoke context =
        expression.eval invoke context) ∧
    (∀ value type,
      (∀ operand middle place last, value.eval invoke context = .ok operand middle →
        expression.place invoke middle = .ok place last → place.type = type) →
      (Expr.assign (.deref (.addressOf expression) type) value).eval invoke context =
        (Expr.assign expression value).eval invoke context) ∧
    (∃ steps, Exec.Account (expression.place invoke) context steps ∧
      Exec.Account (expression.eval invoke) context steps ∧
      Exec.Account ((Expr.addressOf expression).eval invoke) context steps ∧
      ∀ type, Exec.Account ((Expr.deref (.addressOf expression) type).eval invoke) context steps) ∧
    ∀ value operand middle, value.eval invoke context = .ok operand middle →
      ∃ first steps, Exec.Account (value.eval invoke) context first ∧
        Exec.Account (expression.place invoke) middle steps ∧
        ∀ target, target = expression ∨ (∃ type, target = .deref (.addressOf expression) type) →
          Exec.Account ((Expr.assign target value).eval invoke) context
            (first ++ (steps ++ storing operand (target.place invoke middle))) := by
  intro invoke
  -- Whatever is evaluated, there are steps that account for it.
  have calls (mark : Nat) := (Exec.executes_sheltering mark).invoke room
  have places (state : Context) :=
    (Exec.place_shelters calls expression 0).exists_account state
  refine ⟨?_, fun type => eval_deref_addressOf_of_type lvalue,
    fun value type => eval_assign_deref_addressOf, ?_, fun value operand middle ran => ?_⟩
  · -- Evaluating is finding the place and then loading from it.
    rw [eval_lvalue invoke lvalue, bind_run]
    cases expression.place invoke context with
    | error reason last => rfl
    | ok place last => exact Exec.loadPlace_run place last
  · -- Reading, taking the address and reading through it all begin by finding the place.
    obtain ⟨steps, found⟩ := places context
    refine ⟨steps, found, ?_, ?_, fun type => ?_⟩
    · -- To read the place takes no step beyond those that find it.
      rw [eval_lvalue invoke lvalue]
      exact found.silently Exec.Account.loadPlace
    · -- To make an address of the place takes none either.
      rw [Expr.eval]
      exact found.map fun place => Value.pointer place.address
    · -- Through the address the same place is found, and then read.
      rw [eval_lvalue invoke rfl]
      exact (account_deref_addressOf found type).silently Exec.Account.loadPlace
  · -- The value is evaluated first, and the place is found where that has led.
    obtain ⟨first, began⟩ := (Exec.eval_shelters calls value 0).exists_account context
    obtain ⟨steps, found⟩ := places middle
    refine ⟨first, steps, began, found, ?_⟩
    rintro target (rfl | ⟨type, rfl⟩)
    · exact account_assign ran began found
    · exact account_assign ran began (account_deref_addressOf found type)

section Picking

/-- A variable that holds seven, and a function that prints a letter and returns its address. -/
def picking : Context :=
  (Step.declare "x" .int (some (.int 7))).after
    (Context.start
      { functions := [{
          name := "pick", result := .pointer .int, parameters := []
          body := [.expression (.call "putchar" [.int 112]) {},
            .ret (some (.addressOf (.var "x"))) {}] }] }
      (neighbours []).heap 4 2)

/-- What a call has found is read and assigned to through its address as well, and the letter is
printed once each time. -/
theorem lvalues_cohere_through_a_call :
    let called := Expr.deref (.call "pick" []) .int
    let again := Expr.deref (.addressOf called) .int
    called.isLvalue = true ∧
      (∃ last, again.eval (Function.invoke 4) picking = .ok (.int 7) last ∧
        last.terminal.contents = "p") ∧
      ∃ last, (Expr.assign again (.int 9)).eval (Function.invoke 4) picking = .ok (.int 9) last ∧
        last.terminal.contents = "p" := by
  intro called again
  -- The type of the place is that of the dereference, so the laws apply to it.
  obtain ⟨-, reading, assigning, -⟩ := lvalues_cohere 4 called rfl picking
  have prints (expression : Expr) (result : Value) (ended : (match
      expression.eval (Function.invoke 4) picking with
      | .ok value last => decide (value = result ∧ last.terminal.contents = "p")
      | .error _ _ => false) = true) :
      ∃ last, expression.eval (Function.invoke 4) picking = .ok result last ∧
        last.terminal.contents = "p" := by
    split at ended
    · obtain ⟨rfl, once⟩ := of_decide_eq_true ended
      exact ⟨_, ‹_›, once⟩
    · cases ended
  refine ⟨rfl, ?_, ?_⟩
  · -- Read through its address, the call is made once, and prints once.
    rw [reading .int fun place last placed => place_deref_type placed]
    exact prints called (.int 7) (by decide +kernel)
  · -- So it is with an assignment through the address.
    rw [assigning (.int 9) .int fun _ _ place last _ placed => place_deref_type placed]
    exact prints (.assign called (.int 9)) (.int 9) (by decide +kernel)

end Picking

end Expr

end StepMachine
