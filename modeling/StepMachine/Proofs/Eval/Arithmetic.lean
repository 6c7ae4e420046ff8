import StepMachine.Proofs.Exec.Run

/-! Expressions of literals alone: what they stand for among all integers, the operations that this
takes, and the evaluation of them, which stops at the first operation that the machine cannot do. -/

namespace StepMachine

/-- An integer that the machine can represent. -/
def IsMachineInt (n : Int) : Prop := -2147483648 ≤ n ∧ n ≤ 2147483647

/-- Whether the machine can represent an integer is a matter of two comparisons. -/
instance (n : Int) : Decidable (IsMachineInt n) := inferInstanceAs (Decidable (_ ∧ _))

/-- The result of an operator on integers of any size; quotients are cut off toward zero, and a
remainder has the sign of the dividend. -/
def ArithmeticOp.exact : ArithmeticOp → Int → Int → Int
  | add, a, b => a + b
  | sub, a, b => a - b
  | mul, a, b => a * b
  | div, a, b => a.tdiv b
  | mod, a, b => a.tmod b

/-- The relation between integers that a comparison asks for. -/
def Comparison.Relates : Comparison → Int → Int → Prop
  | eq, a, b => a = b
  | ne, a, b => a ≠ b
  | lt, a, b => a < b
  | le, a, b => a ≤ b
  | gt, a, b => a > b
  | ge, a, b => a ≥ b

/-- Each of the relations can be decided. -/
instance (op : Comparison) (a b : Int) : Decidable (op.Relates a b) :=
  match op with
  | .eq => inferInstanceAs (Decidable (a = b))
  | .ne => inferInstanceAs (Decidable (a ≠ b))
  | .lt => inferInstanceAs (Decidable (a < b))
  | .le => inferInstanceAs (Decidable (a ≤ b))
  | .gt => inferInstanceAs (Decidable (a > b))
  | .ge => inferInstanceAs (Decidable (a ≥ b))

/-- An operation on integers of any size. -/
inductive Computation where
  | binary (op : ArithmeticOp) (left right : Int)
  | negation (operand : Int)
  deriving DecidableEq

namespace Computation

/-- What the operation yields. -/
def result : Computation → Int
  | binary op left right => op.exact left right
  | negation operand => -operand

/-- How errors name the operation. -/
def operation : Computation → Arithmetic
  | binary op _ _ => .binary op
  | negation _ => .negation

/-- There is no quotient by zero, and no remainder of it. -/
def DividesByZero : Computation → Prop
  | binary .div _ right | binary .mod _ right => right = 0
  | binary .add _ _ | binary .sub _ _ | binary .mul _ _ | negation _ => False

/-- Only for a quotient or a remainder is the operand looked at. -/
instance : DecidablePred DividesByZero
  | binary .div _ right | binary .mod _ right => inferInstanceAs (Decidable (right = 0))
  | binary .add _ _ | binary .sub _ _ | binary .mul _ _ | negation _ => instDecidableFalse

/-- The machine can do the operation. It refuses the remainder of its least integer by minus one,
although that is zero. -/
def Proper (computation : Computation) : Prop :=
  IsMachineInt computation.result ∧ ¬ computation.DividesByZero ∧
    computation ≠ binary .mod (-2147483648) (-1)

/-- Whether the machine can do an operation is found by doing it on integers of any size. -/
instance : DecidablePred Proper := fun _ => inferInstanceAs (Decidable (_ ∧ _))

/-- What an operation that the machine cannot do is refused for. -/
def fault (computation : Computation) : RuntimeError :=
  if computation.DividesByZero then .divisionByZero computation.operation
  else .integerOverflow computation.operation

end Computation

namespace Expr

/-- Only literals and operators occur. -/
def isArithmetic : Expr → Bool
  | .int _ | .char _ => true
  | .binary _ left right => left.isArithmetic && right.isArithmetic
  | .unary _ operand => operand.isArithmetic
  | _ => false

/-- The integer that an expression of literals stands for, where integers have no bounds. -/
def exact : Expr → Int
  | .int n => n.toInt
  | .char c => c.toInt
  | .binary (.arithmetic op) left right => op.exact left.exact right.exact
  | .binary (.comparison op) left right => if op.Relates left.exact right.exact then 1 else 0
  | .binary (.connective .and) left right => if left.exact ≠ 0 ∧ right.exact ≠ 0 then 1 else 0
  | .binary (.connective .or) left right => if left.exact ≠ 0 ∨ right.exact ≠ 0 then 1 else 0
  | .unary .neg operand => -operand.exact
  | .unary .not operand => if operand.exact = 0 then 1 else 0
  | _ => 0

/-- The operations that the integer of an expression takes, in the order of evaluation: those of the
operands from left to right, then its own. A right side that is not looked at takes none. -/
def computations : Expr → List Computation
  | .binary (.arithmetic op) left right =>
    left.computations ++ right.computations ++ [.binary op left.exact right.exact]
  | .binary (.comparison _) left right => left.computations ++ right.computations
  | .binary (.connective .and) left right =>
    left.computations ++ if left.exact = 0 then [] else right.computations
  | .binary (.connective .or) left right =>
    left.computations ++ if left.exact = 0 then right.computations else []
  | .unary .neg operand => operand.computations ++ [.negation operand.exact]
  | .unary .not operand => operand.computations
  | _ => []

end Expr

section Machine

/-- A result is an integer of the machine, or there is none. -/
theorem machineInt_eq (operation : Arithmetic) (n : Int) :
    machineInt operation n = if IsMachineInt n then .ok (Int32.ofInt n)
      else .error (.integerOverflow operation) := rfl

/-- Whatever the machine represents it can represent. -/
theorem isMachineInt_toInt (n : Int32) : IsMachineInt n.toInt := by
  -- The machine integers are the numbers of thirty-two bits, with a sign.
  have lower := n.le_toInt
  have upper := n.toInt_lt
  constructor <;> omega

/-- A number that fits is the one that its machine integer stands for. -/
theorem IsMachineInt.toInt_ofInt {n : Int} (machine : IsMachineInt n) :
    (Int32.ofInt n).toInt = n := by
  -- The bounds are those of the conversion.
  obtain ⟨lower, upper⟩ := machine
  exact Int32.toInt_ofInt_of_le (by omega) (by omega)

/-- Of the quotients of machine integers, only that of the least one by minus one is too large. -/
theorem IsMachineInt.tdiv_iff {a b : Int} (machine : IsMachineInt a) (nonzero : b ≠ 0) :
    IsMachineInt (a.tdiv b) ↔ ¬ (a = -2147483648 ∧ b = -1) := by
  obtain ⟨lower, upper⟩ := machine
  -- By one the dividend itself is the quotient, and by minus one its negation.
  by_cases one : b = 1
  · simp [one, IsMachineInt, lower, upper]
  by_cases minus : b = -1
  · rw [minus, Int.tdiv_neg, Int.tdiv_one, IsMachineInt]
    omega
  · -- Any other divisor at least halves the dividend.
    have half : (a.tdiv b).natAbs ≤ a.natAbs / 2 := by
      rw [Int.natAbs_tdiv]
      exact Nat.div_le_div_left (by omega) (by decide)
    rw [IsMachineInt]
    omega

/-- A remainder of machine integers is one. -/
theorem IsMachineInt.tmod {a : Int} (machine : IsMachineInt a) (b : Int) :
    IsMachineInt (a.tmod b) := by
  obtain ⟨lower, upper⟩ := machine
  have small : (a.tmod b).natAbs ≤ a.natAbs := by
    rw [Int.natAbs_tmod]
    exact Nat.mod_le _ _
  -- It is not larger than the dividend and has the same sign.
  have sign : a ≤ 0 → a.tmod b ≤ 0 := by
    intro negative
    have positive := Int.tmod_nonneg b (Int.neg_nonneg_of_nonpos negative)
    rw [Int.neg_tmod] at positive
    omega
  constructor <;> omega

/-- What the machine answers to an operation. -/
def Computation.answer (computation : Computation) : Except RuntimeError Int32 :=
  if computation.Proper then .ok (Int32.ofInt computation.result) else .error computation.fault

namespace Computation

/-- Unless it divides by zero, or is the one remainder that is refused, an operation is done if its
result is an integer of the machine. -/
theorem answer_eq_machineInt (computation : Computation)
    (divides : ¬ computation.DividesByZero)
    (other : computation ≠ binary .mod (-2147483648) (-1)) :
    computation.answer = machineInt computation.operation computation.result := by
  -- Of the three conditions, only the range of the result is left open.
  rw [machineInt_eq, answer, fault, if_neg divides]
  have proper : computation.Proper ↔ IsMachineInt computation.result := by
    simp [Proper, divides, other]
  simp only [proper]

/-- What divides by zero is refused for that. -/
theorem answer_of_dividesByZero (computation : Computation) (divides : computation.DividesByZero) :
    computation.answer = .error (.divisionByZero computation.operation) := by
  -- It is not proper, so the fault is told, and it is the one of a division by zero.
  have improper : ¬ computation.Proper := fun proper => proper.2.1 divides
  rw [answer, if_neg improper, fault, if_pos divides]

/-- A remainder by another number than zero exists if the quotient is an integer of the machine. -/
theorem proper_mod_iff {a b : Int} (machine : IsMachineInt a) (nonzero : b ≠ 0) :
    (binary .mod a b).Proper ↔ IsMachineInt (a.tdiv b) := by
  -- The remainder always is one, so that only the pair is left whose quotient is too large.
  have small : IsMachineInt (binary .mod a b).result := machine.tmod b
  have whole : ¬ (binary .mod a b).DividesByZero := nonzero
  rw [machine.tdiv_iff nonzero, Proper]
  simp [small, whole]

end Computation

/-- The machine answers an operator on integers of the machine. -/
theorem ArithmeticOp.apply_eq (op : ArithmeticOp) (a b : Int32) :
    op.apply a b = (Computation.binary op a.toInt b.toInt).answer := by
  have zero : b = 0 ↔ b.toInt = 0 := by simp [← Int32.toInt_inj]
  -- The three kinds differ in what is asked before the result is looked at.
  cases op with
  | add | sub | mul =>
    -- Only the range of the result is in question.
    rw [Computation.answer_eq_machineInt]
    · rfl
    · exact not_false
    · exact nofun
  | div =>
    by_cases none : b = 0
    · rw [apply, if_pos none, Computation.answer_of_dividesByZero]
      · rfl
      · exact zero.mp none
    · rw [apply, if_neg none, Computation.answer_eq_machineInt]
      · rfl
      · exact mt zero.mpr none
      · exact nofun
  | mod =>
    by_cases none : b = 0
    · rw [apply, if_pos none, Computation.answer_of_dividesByZero]
      · rfl
      · exact zero.mp none
    · -- The quotient is computed first, and decides.
      have nonzero := mt zero.mpr none
      have machine := isMachineInt_toInt a
      have proper := Computation.proper_mod_iff machine nonzero
      have divides : ¬ (Computation.binary .mod a.toInt b.toInt).DividesByZero := nonzero
      rw [apply, if_neg none, machineInt_eq, machineInt_eq, if_pos (machine.tmod b.toInt),
        Computation.answer, Computation.fault, if_neg divides]
      simp only [proper]
      split <;> rfl

end Machine

namespace Value

/-- The value is an integer or a character, and stands for a number. -/
inductive Stands : Value → Int → Prop where
  | int (n : Int32) : Stands (.int n) n.toInt
  | char (c : Int8) : Stands (.char c) c.toInt

namespace Stands

variable {value left right : Value} {n m : Int}

/-- A number is read as an integer of the machine that stands for it. -/
theorem exists_asInt (stands : value.Stands n) : ∃ i, value.asInt = .ok i ∧ i.toInt = n := by
  -- A character is widened, which keeps the number.
  cases stands with
  | int i => exact ⟨i, rfl, rfl⟩
  | char c => exact ⟨c.toInt32, rfl, Int8.toInt_toInt32 c⟩

/-- A number is no pointer. -/
theorem isPointer (stands : value.Stands n) : value.isPointer = false := by
  cases stands <;> rfl

/-- All numbers but zero are true. -/
theorem isTruthy (stands : value.Stands n) : value.isTruthy = .ok (decide (n ≠ 0)) := by
  -- The machine compares with its own zero, which stands for zero and is the only one that does.
  cases stands with
  | int i => simp [Value.isTruthy, bne, ← Int32.toInt_inj, BEq.beq]
  | char c => simp [Value.isTruthy, bne, ← Int8.toInt_inj, BEq.beq]

/-- An operator on two numbers is left to the machine. -/
theorem arithmetic (op : ArithmeticOp) (first : left.Stands n) (second : right.Stands m) :
    Value.arithmetic op left right = (Computation.binary op n m).answer.map .int := by
  -- Neither is a pointer, and characters are widened.
  obtain ⟨a, asInt, rfl⟩ := first.exists_asInt
  obtain ⟨b, alsoInt, rfl⟩ := second.exists_asInt
  simp only [Value.arithmetic, first.isPointer, second.isPointer, asInt, alsoInt, bind, Except.bind,
    op.apply_eq]
  cases (Computation.binary op a.toInt b.toInt).answer <;> rfl

/-- Two numbers are compared as they are. -/
theorem compare (op : Comparison) (first : left.Stands n) (second : right.Stands m) :
    Value.compare op left right = .ok (.ofBool (decide (op.Relates n m))) := by
  -- The comparison looks at the integers, and they stand for the numbers.
  obtain ⟨a, asInt, rfl⟩ := first.exists_asInt
  obtain ⟨b, alsoInt, rfl⟩ := second.exists_asInt
  simp only [Value.compare, first.isPointer, second.isPointer, asInt, alsoInt, bind, Except.bind]
  cases op <;> rfl

/-- The negation of a number is left to the machine. -/
theorem neg (stands : value.Stands n) :
    Value.unary .neg value = (Computation.negation n).answer.map .int := by
  obtain ⟨a, asInt, rfl⟩ := stands.exists_asInt
  -- A negation never divides, so that only its range is in question.
  rw [(Computation.negation a.toInt).answer_eq_machineInt not_false nofun]
  simp only [Value.unary, asInt, bind, Except.bind]
  show _ = (machineInt .negation (-a.toInt)).map Value.int
  cases machineInt .negation (-a.toInt) <;> rfl

/-- The denial of a number tells whether it is zero. -/
theorem not (stands : value.Stands n) :
    Value.unary .not value = .ok (.ofBool (decide (n = 0))) := by
  -- It is the truth of the number that is denied.
  simp [Value.unary, stands.isTruthy, bind, Except.bind, pure, Except.pure]

end Stands

/-- The value is an integer of the machine, and stands for a number. -/
def IsInt (value : Value) (n : Int) : Prop := ∃ i : Int32, value = .int i ∧ i.toInt = n

/-- An integer of the machine stands for its number. -/
theorem IsInt.stands {value : Value} {n : Int} (int : value.IsInt n) : value.Stands n := by
  obtain ⟨i, rfl, rfl⟩ := int
  exact .int i

/-- Truth is zero or one. -/
theorem isInt_ofBool (P : Prop) [Decidable P] :
    (ofBool (decide P)).IsInt (if P then 1 else 0) := by
  -- Either way the integer is known.
  by_cases holds : P
  · exact ⟨1, by simp [ofBool, holds], by simp [holds]⟩
  · exact ⟨0, by simp [ofBool, holds], by simp [holds]⟩

end Value

namespace Exec

/-- A run that does nothing but operations on integers, one after another: it ends in the same
state, with a result as expected if the machine can do all of them, and otherwise is stopped by the
first that the machine cannot do. -/
def Computes (run : Exec α) (computations : List Computation) (expected : α → Prop) : Prop :=
  ∀ context, match computations.find? fun computation => !decide computation.Proper with
    | none => ∃ result, run context = .ok result context ∧ expected result
    | some first => run context = .error (.fault first.fault) context

namespace Computes

variable {computations further : List Computation} {expected : α → Prop} {wanted : β → Prop}

/-- If the machine can do all operations, there is a result. -/
theorem of_proper {run : Exec α} (computes : Computes run computations expected)
    (proper : ∀ computation ∈ computations, computation.Proper) (context : Context) :
    ∃ result, run context = .ok result context ∧ expected result := by
  have ran := computes context
  -- The search for an operation that the machine cannot do finds none.
  rw [List.find?_eq_none.mpr (by simpa using proper)] at ran
  exact ran

/-- If the machine cannot do all operations, the first that it cannot do stops the run. -/
theorem of_improper {run : Exec α} (computes : Computes run computations expected)
    (improper : ∃ computation ∈ computations, ¬ computation.Proper) (context : Context) :
    ∃ before first behind, computations = before ++ first :: behind ∧
      (∀ computation ∈ before, computation.Proper) ∧ ¬ first.Proper ∧
      run context = .error (.fault first.fault) context := by
  have ran := computes context
  -- The search finds the first one, behind others that the machine can do.
  have some : (computations.find? fun computation => !decide computation.Proper).isSome := by
    simpa using improper
  obtain ⟨first, found⟩ := Option.isSome_iff_exists.mp some
  obtain ⟨stops, before, behind, split, proper⟩ := List.find?_eq_some_iff_append.mp found
  rw [found] at ran
  exact ⟨before, first, behind, split, by simpa using proper, by simpa using stops, ran⟩

/-- A result that is there needs no operation. -/
theorem pure {result : α} (holds : expected result) : Computes (pure result) [] expected :=
  fun _ => ⟨result, rfl, holds⟩

/-- Less may be expected of a result. -/
theorem mono {run : Exec α} {weaker : α → Prop} (computes : Computes run computations expected)
    (implies : ∀ result, expected result → weaker result) : Computes run computations weaker := by
  intro context
  have ran := computes context
  split at ran
  · obtain ⟨result, yielded, holds⟩ := ran
    exact ⟨result, yielded, implies result holds⟩
  · exact ran

/-- The operations of a sequence are those of its parts. -/
theorem bind {run : Exec α} {next : α → Exec β} (began : Computes run computations expected)
    (went : ∀ result, expected result → Computes (next result) further wanted) :
    Computes (run >>= next) (computations ++ further) wanted := by
  intro context
  have start := began context
  rw [bind_run, List.find?_append]
  -- The rest runs only if the machine can do the operations of the first part.
  cases found : computations.find? fun computation => !decide computation.Proper with
  | none =>
    rw [found] at start
    obtain ⟨result, ran, holds⟩ := start
    rw [ran]
    exact went result holds context
  | some first =>
    rw [found] at start
    rw [start]
    rfl

/-- A run of no operation that is followed by others. -/
theorem after {result : α} {next : α → Exec β} (went : Computes (next result) further wanted)
    {value : Except RuntimeError α} (known : value = .ok result) :
    Computes (liftM value >>= next) further wanted := by
  -- The value is known, so nothing can stop the run there.
  rw [known]
  exact went

/-- A single operation yields its result as an integer. -/
theorem answer (computation : Computation) :
    Computes (liftM (computation.answer.map Value.int)) [computation]
      (Value.IsInt · computation.result) := by
  intro context
  -- Whether the machine can do the operation is what its answer tells.
  by_cases proper : computation.Proper
  · simp only [List.find?, proper, Computation.answer]
    exact ⟨_, rfl, _, rfl, proper.1.toInt_ofInt⟩
  · simp only [List.find?, proper, Computation.answer]
    rfl

/-- A truth is zero or one. -/
theorem truth (P : Prop) [Decidable P] :
    Computes (Pure.pure (.ofBool (decide P))) [] (Value.IsInt · (if P then 1 else 0)) :=
  .pure (Value.isInt_ofBool P)

end Computes

end Exec

namespace Expr

open Exec (Computes)

section Operands

variable {invoke : Invoke} {left right : Expr}
  (first : Computes (left.eval invoke) left.computations (Value.Stands · left.exact))

include first

/-- An operator with one operand. -/
theorem unary_computes (op : UnaryOp) :
    Computes ((unary op left).eval invoke) (unary op left).computations
      (Value.IsInt · (unary op left).exact) := by
  -- The operand comes first, and an operator works on the number that it stands for.
  rw [eval]
  -- A negation is an operation of its own, and a denial is none.
  cases op with
  | neg =>
    refine first.bind fun value stands => ?_
    rw [stands.neg]
    exact .answer (.negation left.exact)
  | not =>
    rw [computations, ← left.computations.append_nil]
    refine first.bind fun value stands => ?_
    rw [stands.not]
    exact .truth (left.exact = 0)

omit first in
/-- The truth of an expression. -/
theorem truth_computes
    (whole : Computes (right.eval invoke) right.computations (Value.Stands · right.exact)) :
    Computes (do return .ofBool (← (← right.eval invoke).isTruthy)) right.computations
      (Value.IsInt · (if right.exact ≠ 0 then 1 else 0)) := by
  -- To look at the truth of a number is no operation, so the list is the one of the expression.
  rw [← right.computations.append_nil]
  refine whole.bind fun value stands => .after ?_ stands.isTruthy
  exact .truth (right.exact ≠ 0)

/-- An operator with two operands. -/
theorem binary_computes (op : BinaryOp)
    (second : Computes (right.eval invoke) right.computations (Value.Stands · right.exact)) :
    Computes ((binary op left right).eval invoke) (binary op left right).computations
      (Value.IsInt · (binary op left right).exact) := by
  -- Both sides are evaluated before an operator is applied to them.
  cases op with
  | arithmetic op =>
    rw [eval, computations, List.append_assoc]
    refine first.bind fun a standsLeft => second.bind fun b standsRight => ?_
    rw [standsLeft.arithmetic op standsRight]
    exact .answer (.binary op left.exact right.exact)
  | comparison op =>
    rw [eval, computations, ← right.computations.append_nil]
    refine first.bind fun a standsLeft => second.bind fun b standsRight => ?_
    rw [standsLeft.compare op standsRight]
    exact .truth (op.Relates left.exact right.exact)
  | connective op =>
    -- The right side counts only if the left one leaves the answer open.
    cases op with
    | and =>
      rw [eval, computations, exact]
      refine first.bind fun value stands => .after ?_ stands.isTruthy
      by_cases zero : left.exact = 0
      · simpa [zero] using Computes.truth False
      · simpa [zero] using truth_computes second
    | or =>
      rw [eval, computations, exact]
      refine first.bind fun value stands => .after ?_ stands.isTruthy
      by_cases zero : left.exact = 0
      · simpa [zero] using truth_computes second
      · simpa [zero] using Computes.truth True

end Operands

/-- What an expression of literals yields: a character only if it is one. -/
def Yields : Expr → Value → Prop
  | .char c, value => value = .char c
  | expression, value => value.IsInt expression.exact

/-- What an expression of literals yields stands for its number. -/
theorem Yields.stands {expression : Expr} {value : Value} (yields : expression.Yields value) :
    value.Stands expression.exact := by
  -- Only a character is not an integer already.
  cases expression with
  | char c =>
    rw [Yields] at yields
    rw [yields, exact]
    exact .char c
  | _ => exact Value.IsInt.stands yields

/-- The evaluation of an expression of literals does the operations that this takes. -/
theorem eval_computes (invoke : Invoke) : (expression : Expr) → expression.isArithmetic = true →
    Computes (expression.eval invoke) expression.computations expression.Yields
  -- The recursion is the one of the expression, and each operator takes over from its operands.
  | .int n, _ => by
    rw [eval]
    exact .pure ⟨n, rfl, rfl⟩
  | .char c, _ => by
    rw [eval]
    exact .pure rfl
  | .unary op operand, arithmetic => by
    have inner := eval_computes invoke operand arithmetic
    exact unary_computes (inner.mono fun _ => Yields.stands) op
  | .binary op left right, arithmetic => by
    obtain ⟨before, behind⟩ := Bool.and_eq_true_iff.mp arithmetic
    have first := eval_computes invoke left before
    have second := eval_computes invoke right behind
    exact binary_computes (first.mono fun _ => Yields.stands) op
      (second.mono fun _ => Yields.stands)

/--
Arithmetic is exact, or it stops, in every state and for every expression of literals and operators
that is not just a character.

The evaluation yields an integer just if it stands for what the expression stands for among all
integers, and the machine can do every operation that this takes: its result is an integer of the
machine, no divisor is zero, and it is not the remainder of the least integer by minus one.
If the machine can do all of them, there is such an integer.
If it cannot, the first operation that it cannot do, in the order of evaluation and among those that
are reached, is what stops the evaluation: as a division by zero or an overflow that names it.
The state is the same in each case.
-/
theorem eval_exact_or_fault (invoke : Invoke) (expression : Expr) (context : Context)
    (arithmetic : expression.isArithmetic = true) (composed : ∀ c, expression ≠ .char c) :
    (∀ n last, expression.eval invoke context = .ok (.int n) last ↔
      last = context ∧ n.toInt = expression.exact ∧
        ∀ computation ∈ expression.computations, computation.Proper) ∧
    ((∀ computation ∈ expression.computations, computation.Proper) →
      ∃ n, expression.eval invoke context = .ok (.int n) context) ∧
    ((∃ computation ∈ expression.computations, ¬ computation.Proper) →
      ∃ before first behind, expression.computations = before ++ first :: behind ∧
        (∀ computation ∈ before, computation.Proper) ∧ ¬ first.Proper ∧
        expression.eval invoke context = .error (.fault first.fault) context) := by
  have computes := eval_computes invoke expression arithmetic
  -- Only a character by itself is not made an integer.
  have yields {value : Value} (yielded : expression.Yields value) :
      value.IsInt expression.exact := by
    cases expression with
    | char c => exact absurd rfl (composed c)
    | _ => exact yielded
  have succeeds (proper : ∀ computation ∈ expression.computations, computation.Proper) :
      ∃ n : Int32, n.toInt = expression.exact ∧
        expression.eval invoke context = .ok (.int n) context := by
    obtain ⟨value, ran, yielded⟩ := computes.of_proper proper context
    obtain ⟨n, rfl, same⟩ := yields yielded
    exact ⟨n, same, ran⟩
  refine ⟨fun n last => ⟨fun ran => ?_, ?_⟩, fun proper => ?_, fun improper =>
    computes.of_improper improper context⟩
  · by_cases proper : ∀ computation ∈ expression.computations, computation.Proper
    · obtain ⟨i, same, evaluated⟩ := succeeds proper
      rw [evaluated] at ran
      cases ran
      exact ⟨rfl, same, proper⟩
    · -- An operation that the machine cannot do would have stopped the evaluation.
      simp only [Classical.not_forall, exists_prop] at proper
      obtain ⟨before, first, behind, -, -, -, stopped⟩ := computes.of_improper proper context
      rw [stopped] at ran
      cases ran
  · -- An integer that stands for the same number is the same integer of the machine.
    rintro ⟨rfl, same, proper⟩
    obtain ⟨i, exact, evaluated⟩ := succeeds proper
    rw [evaluated, Int32.toInt_inj.mp (same.trans exact.symm)]
  · obtain ⟨n, -, evaluated⟩ := succeeds proper
    exact ⟨n, evaluated⟩

/-- A division by zero stays unseen behind a left side that decides, and behind an operation that
has stopped the evaluation before: the remainder of the least integer by a negated character. -/
theorem eval_exact_or_fault_in_order :
    let quotient := binary (.arithmetic .div) (.int 1) (.int 0)
    let hidden := binary (.connective .and) (.char 0) quotient
    let late := binary (.arithmetic .mul)
      (binary (.arithmetic .mod) (.int (-2147483648)) (.unary .neg (.char 1))) quotient
    let context := Context.start { functions := [] } .empty 4 2
    (hidden.isArithmetic = true ∧ late.isArithmetic = true) ∧
      hidden.eval (Function.invoke 4) context = .ok (.int 0) context ∧
      late.eval (Function.invoke 4) context =
        .error (.fault (.integerOverflow (.binary .mod))) context := by
  intro quotient hidden late context
  refine ⟨⟨rfl, rfl⟩, ?_, ?_⟩
  · -- Behind a left side that is false nothing is computed.
    have ⟨evaluates, _⟩ := eval_exact_or_fault (Function.invoke 4) hidden context rfl nofun
    exact (evaluates 0 context).mpr ⟨rfl, by decide, by decide⟩
  · -- The negation is the only operation in front of the remainder.
    have ⟨_, _, stops⟩ := eval_exact_or_fault (Function.invoke 4) late context rfl nofun
    have listed : late.computations = [.negation 1, .binary .mod (-2147483648) (-1),
      .binary .div 1 0, .binary .mul 0 0] := by decide
    obtain ⟨before, first, behind, split, proper, improper, stopped⟩ :=
      stops ⟨.binary .mod (-2147483648) (-1), by decide, by decide⟩
    rw [listed] at split
    -- The negation is done, and the remainder is not.
    match before with
    | [] =>
      cases split
      exact absurd (by decide) improper
    | [_] =>
      cases split
      exact stopped
    | _ :: second :: _ =>
      have done := proper second (by simp)
      rw [← (List.cons.inj (List.cons.inj split).2).1] at done
      exact absurd done (by decide)

end Expr

end StepMachine
