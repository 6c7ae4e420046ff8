import StepMachine.Proofs.Eval.Steps
import StepMachine.Proofs.Exec.Unpaced

/-! The allowance of statements only shrinks, and the record of them only grows. -/

namespace StepMachine

/-- From one state to a later one no statement is allowed that was not, and none is taken out of a
full record. -/
structure Context.Onward (before after : Context) : Prop where
  grants : after.grants ≤ before.grants
  journal : ∀ earlier, before.journal = .full earlier →
    ∃ newer, after.journal = .full (newer ++ earlier)

namespace Context.Onward

/-- Nothing has happened yet. -/
theorem refl (context : Context) : context.Onward context where
  grants := Nat.le_refl _
  journal _ recorded := ⟨[], recorded⟩

/-- One way onward after another is a way onward. -/
theorem trans {first second third : Context} (one : first.Onward second)
    (two : second.Onward third) : first.Onward third where
  grants := Nat.le_trans two.grants one.grants
  journal earlier recorded := by
    -- What was added last stands in front.
    obtain ⟨newer, recorded⟩ := one.journal earlier recorded
    obtain ⟨newest, recorded⟩ := two.journal _ recorded
    exact ⟨newest ++ newer, by rw [recorded, List.append_assoc]⟩

/-- Leaving both alone is going on. -/
theorem of_eq {before after : Context} (grants : after.grants = before.grants)
    (journal : after.journal = before.journal) : before.Onward after where
  grants := Nat.le_of_eq grants
  journal earlier recorded := ⟨[], by rw [journal, recorded]; rfl⟩

end Context.Onward

/-- Going on, however a computation ends. -/
def Effect.pacing : Effect := .steady Context.Onward .refl .trans

namespace Exec

open Effect (pacing)

/-- A computation that takes no part in pacing goes on. -/
theorem pacing_of_unpaced {run : Exec α} (unpaced : Unpaced run) : Obeys pacing run := by
  intro context
  -- What leaves the grants and the record alone goes on by going nowhere.
  obtain ⟨grants, journal⟩ := unpaced.keeps context
  exact (Effect.allows_iff rfl).mpr (.of_eq grants journal)

/-- What is entered into a full record is put in front of it. -/
theorem add_onward (journal : Journal) (location : Location) (moment : Moment)
    (earlier : List Moment) (recorded : journal = .full earlier) :
    journal.add location moment = .full ([moment] ++ earlier) := by
  -- Only a full record keeps the moment itself.
  rw [recorded]
  rfl

/-- Being let in uses up a grant and adds to the record. -/
theorem enter_pacing (location : Location) : Obeys pacing (enter location) := by
  intro context
  -- Without a grant nothing is used up, and nothing is recorded.
  cases allowed : context.grants with
  | zero =>
    rw [enter_without allowed]
    exact Context.Onward.of_eq rfl rfl
  | succ grants =>
    rw [enter_with allowed]
    refine ⟨?_, fun earlier recorded => ⟨_, add_onward _ _ _ earlier recorded⟩⟩
    rw [allowed]
    exact Nat.le_succ grants

/-- Every single step goes on; only one of them has anything to do with the pace. -/
theorem steps_pacing : SingleSteps pacing where
  store _ _ _ := pacing_of_unpaced (Unpaced.edit _)
  returnBuffer type := pacing_of_unpaced (returnBuffer_unpaced type)
  print text := pacing_of_unpaced (print_unpaced text)
  mallocOrNull size := pacing_of_unpaced (mallocOrNull_unpaced size)
  free address := pacing_of_unpaced (free_unpaced address)
  handOver value := pacing_of_unpaced (handOver_unpaced value)
  loadString literal := pacing_of_unpaced (loadString_unpaced literal)
  declare name type init := pacing_of_unpaced (declare_unpaced name type init)
  markReturned value := pacing_of_unpaced (markReturned_unpaced value)
  pushScope := pacing_of_unpaced pushScope_unpaced
  popScope := pacing_of_unpaced popScope_unpaced
  pushFrame function buffer := pacing_of_unpaced (pushFrame_unpaced function buffer)
  popFrame := pacing_of_unpaced popFrame_unpaced
  releaseTemporaries mark := pacing_of_unpaced (releaseTemporaries_unpaced mark)
  enter := enter_pacing
  activate _ _ := Context.Onward.of_eq rfl rfl

/-- Evaluation and execution go on. -/
theorem executes_pacing : Executes (fun _ => Obeys pacing) (fun _ => Obeys pacing) :=
  steps_pacing.executes

/-- A statement that runs to its end has used up at least one grant, unless the current function
had returned. -/
theorem statement_spends {effect : Exec Unit} (obeys : Obeys pacing effect) {location : Location}
    {context last : Context} (running : context.hasReturned = false)
    (ran : statement location effect context = .ok () last) : last.grants < context.grants := by
  let begun : Context := { context with active := location :: context.active }
  -- The statement was not skipped, so it was put under way.
  rw [statement_run, running] at ran
  simp only [Bool.false_eq_true, if_false, bind_run] at ran
  cases allowed : begun.grants with
  | zero =>
    -- Without a grant the statement is not let in.
    rw [enter_without allowed] at ran
    cases ran
  | succ grants =>
    rw [enter_with allowed] at ran
    -- The effect starts with one grant less and does not give it back.
    have further := obeys (begun.entered location grants)
    simp only at ran
    cases left : effect (begun.entered location grants) with
    | error reason middle =>
      rw [left] at ran
      cases ran
    | ok _ middle =>
      rw [left] at ran further
      cases ran
      have fewer : middle.grants ≤ grants := further.grants
      have same : begun.grants = context.grants := rfl
      simp only [Context.dropTemporaries]
      omega

end Exec

end StepMachine
