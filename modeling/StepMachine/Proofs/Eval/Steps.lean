import StepMachine.Proofs.Eval.Closure

/-! Effects that every single step of a program obeys: evaluation and execution obey them too. -/

namespace StepMachine

open Exec (Obeys)

/-- Every single step of a program obeys an effect: those that change the heap, those that change
the stack, and those by which a statement begins and ends. -/
structure SingleSteps (effect : Effect) : Prop where
  store : ∀ address type value, Obeys effect (Exec.edit (Heap.store address type value))
  returnBuffer : ∀ type, Obeys effect (Exec.returnBuffer type)
  print : ∀ text, Obeys effect (Exec.print text)
  mallocOrNull : ∀ size, Obeys effect (Builtin.mallocOrNull size)
  free : ∀ address, Obeys effect (Exec.free address)
  handOver : ∀ value, Obeys effect (Exec.handOver value)
  loadString : ∀ literal, Obeys effect (Exec.loadString literal)
  declare : ∀ name type init, Obeys effect (Exec.declare name type init)
  markReturned : ∀ value, Obeys effect (Exec.markReturned value)
  pushScope : Obeys effect Exec.pushScope
  popScope : Obeys effect Exec.popScope
  pushFrame : ∀ function buffer, Obeys effect (Exec.pushFrame function buffer)
  popFrame : Obeys effect Exec.popFrame
  releaseTemporaries : ∀ mark, Obeys effect (Exec.releaseTemporaries mark)
  enter : ∀ location, Obeys effect (Exec.enter location)
  activate : ∀ context active, effect.yields context { context with active }

namespace SingleSteps

variable {effect : Effect} (steps : SingleSteps effect)

include steps

/-- The temporary objects of a computation go by a single step. -/
theorem alone {run : Exec α} (obeys : Obeys effect run) : Obeys effect (Exec.alone run) := by
  -- Counting the temporary objects changes nothing.
  have mark : Obeys effect Exec.temporaryMark := Obeys.bind Obeys.get fun context => Obeys.pure _
  exact Obeys.bind mark fun mark => Obeys.tryFinally obeys (steps.releaseTemporaries mark)

/-- A statement begins and ends by single steps. -/
theorem statement (location : Location) {run : Exec Unit} (obeys : Obeys effect run) :
    Obeys effect (Exec.statement location run) := by
  refine Obeys.bind Obeys.get fun context => ?_
  -- Either the function has returned and nothing happens, or the statement is put under way.
  split
  · exact Obeys.pure ()
  · refine Obeys.bind (Obeys.modify fun context => steps.activate context _) fun _ => ?_
    refine Obeys.bind (steps.alone (Obeys.bind (steps.enter location) fun _ => obeys)) fun _ => ?_
    -- In the end the statement is taken off again.
    exact Obeys.modify fun context => steps.activate context _

/-- What every single step obeys, everything that is made of steps obeys. -/
theorem executes : Executes (fun _ => Obeys effect) (fun _ => Obeys effect) where
  pure := Obeys.pure
  bind := Obeys.bind
  inspect look _ := Obeys.bind Obeys.get fun context => Obeys.lift (look context)
  store := steps.store
  returnBuffer := steps.returnBuffer
  print := steps.print
  mallocOrNull := steps.mallocOrNull
  free := steps.free
  -- Expressions and statements obey the same effect, so neither class is wider.
  weaken obeys := obeys
  seq := Obeys.bind
  alone := steps.alone
  handOver := steps.handOver
  loadString := steps.loadString
  declare := steps.declare
  markReturned := steps.markReturned
  -- What opens and what closes are single steps as well.
  inBlock obeys := Obeys.bind steps.pushScope fun _ => Obeys.tryFinally obeys steps.popScope
  statement := steps.statement
  loop location _ _ tests obeys := Obeys.loop tests (steps.statement location obeys)
  activation function buffer _ obeys :=
    Obeys.bind (steps.pushFrame function buffer) fun _ =>
      Obeys.bind (Obeys.tryFinally' obeys steps.popFrame) fun results => Obeys.pure results.2

end SingleSteps

end StepMachine
