import Mathlib.Data.List.Induction
import StepMachine.Proofs.Context.Account
import StepMachine.Proofs.Heap.FirstFit

/-! What a program asks for and gives back itself: an address can be given back just if it was
handed out before and has not been given back since, and nothing else is touched. -/

namespace StepMachine

namespace Exec

/-- A request for memory is answered with a block that the program holds, or fails. -/
theorem malloc_run (size : Nat) (context : Context) :
    malloc size context = match Heap.allocate size context.heap with
      | .ok block heap =>
        .ok block.address { context with heap, dynamic := block :: context.dynamic }
      | .error cause heap => .error (.fault (.memory cause)) { context with heap } := by
  -- The heap answers, and only a block is added to what the program holds.
  simp only [malloc, bind_run, lift_edit, edit_run, liftMemory]
  cases Heap.allocate size context.heap <;> rfl

end Exec

namespace Step

/-- From a state the step hands out a block that starts at the address. -/
def Gives (step : Step) (context : Context) (address : Address) : Prop :=
  ∃ size last, step = .malloc size ∧ Exec.malloc size context = .ok address last

/-- From a state the step takes back the block that starts at the address. -/
def TakesBack (step : Step) (context : Context) (address : Address) : Prop :=
  ∃ last, step = .free address ∧ Exec.free address context = .ok () last

/-- On the way that steps have led from a state, an address was handed out and has not been taken
back since. -/
def Outstanding (steps : List Step) (first : Context) (address : Address) : Prop :=
  ∃ earlier step later, steps = earlier ++ step :: later ∧
    step.Gives (walk earlier first) address ∧
    ∀ before back after, later = before ++ back :: after →
      ¬ back.TakesBack (walk (earlier ++ step :: before) first) address

/-- What is outstanding after one more step has just been handed out, or was outstanding and has not
just been taken back. -/
theorem outstanding_concat {steps : List Step} {last : Step} {first : Context} {address : Address} :
    Outstanding (steps ++ [last]) first address ↔
      last.Gives (walk steps first) address ∨
        Outstanding steps first address ∧ ¬ last.TakesBack (walk steps first) address := by
  constructor
  · rintro ⟨earlier, step, later, split, gives, kept⟩
    -- The step that handed it out is the last one, or one in front of it.
    rcases List.eq_nil_or_concat later with rfl | ⟨between, final, rfl⟩
    · obtain ⟨rfl, same⟩ := List.append_inj' split rfl
      cases same
      exact .inl gives
    · rw [List.concat_eq_append, ← List.cons_append, ← List.append_assoc] at split
      obtain ⟨rfl, same⟩ := List.append_inj' split rfl
      cases same
      refine .inr ⟨⟨earlier, step, between, rfl, gives, fun before back after inside => ?_⟩, ?_⟩
      · refine kept before back (after ++ [last]) ?_
        simp [inside]
      · exact kept between last [] (by simp)
  · -- What was handed out before is outstanding still, if the last step has not taken it back.
    rintro (gives | ⟨⟨earlier, step, later, rfl, gives, kept⟩, unreturned⟩)
    · exact ⟨steps, last, [], rfl, gives, fun before back after inside => by simp at inside⟩
    · refine ⟨earlier, step, later ++ [last], by simp, gives, fun before back after inside => ?_⟩
      -- A step behind is the last one, or one of those that were there.
      rcases List.eq_nil_or_concat after with rfl | ⟨middle, final, rfl⟩
      · obtain ⟨rfl, same⟩ := List.append_inj' inside rfl
        cases same
        exact unreturned
      · rw [List.concat_eq_append, ← List.cons_append, ← List.append_assoc] at inside
        obtain ⟨rfl, -⟩ := List.append_inj' inside rfl
        exact kept before back middle rfl

end Step

namespace Context

/-- The program holds a block that it asked for itself and that starts at the address. -/
def HoldsDynamic (context : Context) (address : Address) : Prop :=
  ∃ block ∈ context.dynamic, block.address = address

end Context

namespace Exec

/-- An address can be given back just if the program holds a block of its own that starts there. -/
theorem free_ok_iff {context : Context} {address : Address} :
    (∃ last, free address context = .ok () last) ↔ context.HoldsDynamic address := by
  -- The block is looked for among those that the program asked for itself.
  rw [free_run]
  cases found : context.dynamic.find? (·.address = address) with
  | some block =>
    have same := List.find?_some found
    simp only [decide_eq_true_eq] at same
    exact ⟨fun _ => ⟨block, List.mem_of_find?_eq_some found, same⟩, fun _ => ⟨_, rfl⟩⟩
  | none =>
    constructor
    · rintro ⟨last, freed⟩
      cases freed
    · rintro ⟨block, member, same⟩
      have other := List.find?_eq_none.mp found block member
      simp [same] at other

/-- Any other address is refused, and nothing happens. -/
theorem free_refused {context : Context} {address : Address}
    (unheld : ¬ context.HoldsDynamic address) :
    free address context = .error (.fault (.invalidFree address)) context := by
  -- What cannot be found is not there to be given back.
  rw [free_run]
  cases found : context.dynamic.find? (·.address = address) with
  | none => rfl
  | some block =>
    -- What is found would be held.
    have same := List.find?_some found
    simp only [decide_eq_true_eq] at same
    exact absurd ⟨block, List.mem_of_find?_eq_some found, same⟩ unheld

end Exec

/-- What leaves alone what the program asked for itself, however it ends. -/
def Effect.aside : Effect :=
  .steady (fun before after => after.dynamic = before.dynamic) (fun _ => rfl)
    (fun one two => two.trans one)

/-- A step that neither asks for memory nor gives it back. -/
def Step.Aside : Step → Prop
  | malloc _ | free _ => False
  | _ => True

namespace Exec

open Effect (aside)

/-- A change of the heap leaves alone what the program asked for itself. -/
theorem edit_aside (change : Edit RuntimeError α) : Obeys aside (edit change) := by
  -- Only the heap changes, however the change ends.
  show Obeys aside.whole (edit change)
  exact Obeys.edit (fun _ _ => rfl) change

/-- Storage for a returned structure is not what the program asked for itself. -/
theorem returnBuffer_aside (type : CType) : Obeys aside (returnBuffer type) := by
  unfold returnBuffer
  -- A structure is given a temporary object; any other result needs none.
  split
  · have made : Obeys aside (temporary type) := by
      intro context
      rw [temporary_run]
      cases Variable.allocate type context.heap <;> rfl
    refine Obeys.bind made fun object => Obeys.bind ?_ fun block => Obeys.pure _
    cases object.block.slice 0 object.block.size with
    | ok block => exact Obeys.pure block
    | error cause => exact Obeys.throw _
  · exact Obeys.pure none

/-- To hand a result over copies bytes at most. -/
theorem handOver_aside (value : Value) : Obeys aside (handOver value) := by
  refine Obeys.bind Obeys.get fun context => ?_
  -- With storage for it a structure is copied there, and nothing is done otherwise.
  split
  · exact Obeys.bind (edit_aside _) fun _ => Obeys.pure _
  · exact Obeys.pure _

/-- A literal is laid out beside what the program asked for itself. -/
theorem loadString_aside (literal : String) : Obeys aside (loadString literal) := by
  intro context
  rw [loadString_run]
  -- Its block goes into the table of literals, if it can be had and written.
  cases Heap.allocate ((utf8Bytes literal).length + 1) context.heap with
  | error cause heap => rfl
  | ok block heap =>
    simp only
    cases block.writeText (utf8Bytes literal) heap <;> rfl

/-- A declared object is not what the program asked for itself. -/
theorem declare_aside (name : String) (type : CType) (init : Option Value) :
    Obeys aside (declare name type init) := by
  intro context
  rw [declare_run]
  cases Variable.create type init context.heap with
  | error cause heap => rfl
  | ok object heap =>
    -- Whichever scope the name is bound in.
    show (context.setCurrentScope _).dynamic = context.dynamic
    unfold Context.setCurrentScope
    cases context.stack.current? <;> rfl

/-- To record a result changes the current activation at most. -/
theorem markReturned_aside (value : Value) : Obeys aside (markReturned value) := by
  intro context
  rw [markReturned_run]
  -- Only an activation without a result takes one.
  cases context.stack.frames with
  | nil => rfl
  | cons frame callers =>
    simp only
    split <;> rfl

/-- To close a scope frees what it bound, which the program did not ask for itself. -/
theorem popScope_aside : Obeys aside popScope := by
  intro context
  rw [popScope_run]
  -- Without an activation or a scope to close, nothing happens.
  cases context.stack.frames with
  | nil => rfl
  | cons frame callers =>
    simp only
    cases frame.nested <;> rfl

/-- To reach a statement asks for no memory. -/
theorem enter_aside (location : Location) : Obeys aside (enter location) := by
  intro context
  -- Being let in or not, the program holds what it held.
  cases allowed : context.grants with
  | zero =>
    rw [enter_without allowed]
    rfl
  | succ grants =>
    rw [enter_with allowed]
    rfl

end Exec

namespace Step

open Exec

/-- A step of that kind leaves alone what the program asked for itself. -/
theorem Aside.obeys {step : Step} (kind : step.Aside) : Obeys Effect.aside step.run := by
  -- The two kinds of steps that are left out are those of the program's own requests.
  cases step with
  | malloc size => exact kind.elim
  | free address => exact kind.elim
  | store address type value => exact edit_aside _
  | returnBuffer type => exact returnBuffer_aside type
  | print text => exact Obeys.modify fun _ => rfl
  | handOver value => exact handOver_aside value
  | loadString literal => exact loadString_aside literal
  | declare name type init => exact declare_aside name type init
  | markReturned value => exact markReturned_aside value
  | pushScope =>
    intro context
    rw [run, pushScope_run]
    cases context.stack.frames <;> rfl
  | popScope => exact popScope_aside
  | pushFrame function buffer =>
    intro context
    rw [run, pushFrame_run]
    cases context.stack.room <;> rfl
  | popFrame =>
    intro context
    rw [run, popFrame_run]
    cases context.stack.frames <;> rfl
  | releaseTemporaries mark =>
    intro context
    rw [run, releaseTemporaries_run]
    rfl
  | enter location => exact enter_aside location
  | activate active => exact Obeys.modify fun _ => rfl

/-- A request for memory adds the block that it is answered with. -/
theorem holdsDynamic_malloc {size : Nat} {context : Context} {address : Address} :
    ((malloc size).after context).HoldsDynamic address ↔
      (malloc size).Gives context address ∨ context.HoldsDynamic address := by
  unfold Context.HoldsDynamic Gives
  show (∃ block ∈ (stateOf (Builtin.mallocOrNull size context)).dynamic, _) ↔ _
  rw [mallocOrNull_run]
  -- The heap grants the request, or it refuses.
  cases allocated : Heap.allocate size context.heap with
  | ok block heap =>
    have answered : Exec.malloc size context = .ok block.address
        { context with heap, dynamic := block :: context.dynamic } := by
      rw [malloc_run, allocated]
    constructor
    · -- What is held now is the new block, or was held before.
      rintro ⟨other, member, same⟩
      rcases List.mem_cons.mp member with rfl | old
      · exact .inl ⟨size, _, rfl, by rw [answered, same]⟩
      · exact .inr ⟨other, old, same⟩
    · -- The new block is held, and so is all that was held before.
      rintro (⟨asked, last, same, given⟩ | ⟨other, old, same⟩)
      · cases same
        rw [answered] at given
        cases given
        exact ⟨block, List.mem_cons_self .., rfl⟩
      · exact ⟨other, List.mem_cons_of_mem _ old, same⟩
  | error cause heap =>
    -- A request that is refused adds nothing, whether it is counted or not.
    have none : ¬ ∃ asked last, malloc size = malloc asked ∧
        Exec.malloc asked context = .ok address last := by
      rintro ⟨asked, last, same, given⟩
      cases same
      rw [malloc_run, allocated] at given
      cases given
    rw [or_iff_right none]
    cases cause <;> rfl

/-- To give back takes away the block that starts at the address, and no other. -/
theorem holdsDynamic_free {freed : Address} {context : Context} {address : Address} :
    ((free freed).after context).HoldsDynamic address ↔
      context.HoldsDynamic address ∧ ¬ (free freed).TakesBack context address := by
  have state : (free freed).after context = stateOf (Exec.free freed context) := rfl
  -- Either the address is that of a block of the program's own, or it is refused.
  by_cases held : context.HoldsDynamic freed
  · obtain ⟨last, done⟩ := free_ok_iff.mpr held
    have kept : last.dynamic = context.dynamic.filter (·.address ≠ freed) := by
      rw [free_run] at done
      cases found : context.dynamic.find? (·.address = freed) with
      | none =>
        rw [found] at done
        cases done
      | some block =>
        rw [found] at done
        cases done
        rfl
    rw [state, done]
    constructor
    · -- What is left starts elsewhere, so this step has not taken it back.
      rintro ⟨block, member, same⟩
      simp only [stateOf, kept, List.mem_filter, decide_eq_true_eq] at member
      refine ⟨⟨block, member.1, same⟩, ?_⟩
      rintro ⟨_, again, -⟩
      cases again
      exact member.2 same
    · -- Another block starts elsewhere, so it is not among those taken out.
      rintro ⟨⟨block, member, same⟩, other⟩
      refine ⟨block, ?_, same⟩
      simp only [stateOf, kept, List.mem_filter, decide_eq_true_eq]
      refine ⟨member, fun here => other ?_⟩
      rw [← same, here]
      exact ⟨last, rfl, done⟩
  · -- What is not held cannot be given back, and nothing happens.
    rw [state, free_refused held]
    have idle : ¬ (free freed).TakesBack context address := by
      rintro ⟨last, same, done⟩
      cases same
      exact held (free_ok_iff.mp ⟨last, done⟩)
    simp [idle]

/-- What a step does to the blocks that the program asked for itself: one is handed out, one is
taken back, or they stay. -/
theorem holdsDynamic_after {step : Step} {context : Context} {address : Address} :
    (step.after context).HoldsDynamic address ↔
      step.Gives context address ∨
        context.HoldsDynamic address ∧ ¬ step.TakesBack context address := by
  -- Either the step leaves these blocks alone, or it is a request or a return.
  by_cases kind : step.Aside
  · have same : (step.after context).dynamic = context.dynamic := by
      rw [← step.after_run]
      exact (Effect.allows_iff rfl).mp (kind.obeys context)
    have gives : ¬ step.Gives context address := by
      rintro ⟨size, last, rfl, -⟩
      exact kind
    have takes : ¬ step.TakesBack context address := by
      rintro ⟨last, rfl, -⟩
      exact kind
    unfold Context.HoldsDynamic
    simp [same, gives, takes]
  · cases step with
    | malloc size =>
      have takes : ¬ (malloc size).TakesBack context address := by
        rintro ⟨last, other, -⟩
        cases other
      rw [holdsDynamic_malloc]
      simp [takes]
    | free freed =>
      have gives : ¬ (free freed).Gives context address := by
        rintro ⟨size, last, other, -⟩
        cases other
      rw [holdsDynamic_free]
      simp [gives]
    | _ => exact absurd trivial kind

/-- Wherever steps lead from a state in which the program holds no block of its own, the blocks that
it holds are those that are outstanding. -/
theorem holdsDynamic_walk (first : Context) (none : first.dynamic = []) (steps : List Step)
    (address : Address) :
    (walk steps first).HoldsDynamic address ↔ Outstanding steps first address := by
  -- The induction is on the steps, from the last one back.
  induction steps using List.reverseRecOn with
  | nil =>
    constructor
    · rintro ⟨block, member, -⟩
      rw [show walk [] first = first from rfl, none] at member
      cases member
    · rintro ⟨earlier, step, later, split, -⟩
      simp at split
  | append_singleton steps step ih =>
    rw [walk_append, outstanding_concat, ← ih]
    exact holdsDynamic_after

end Step

/-- Heaps of one shape that hold the same blocks have the same live units and use as many. -/
theorem Heap.Holds.unitLive_eq {before after : Heap} {blocks others : List Block}
    (first : before.Holds blocks) (second : after.Holds others) (same : blocks.Perm others)
    (unit : after.unit = before.unit) :
    (∀ index, after.unitLive index = before.unitLive index) ∧
      after.usedBytes = before.usedBytes := by
  -- Heaps with units of one size round alike, and so the same units are covered.
  have needed (size : Nat) : after.unitsFor size = before.unitsFor size := by
    unfold unitsFor
    rw [unit]
  have covers (index : Nat) : after.covers index = before.covers index := by
    funext block
    unfold Heap.covers firstUnit
    rw [needed, unit]
  constructor
  · intro index
    -- A unit is live just if one of the blocks covers it.
    have one := first.ledger index
    have two := second.ledger index
    rw [covers, ← same.countP_eq, one] at two
    cases old : before.unitLive index <;> cases new : after.unitLive index <;>
      simp [old, new] at two ⊢
  · -- As many bytes are used as the blocks add up to.
    unfold Heap.usedBytes
    rw [first.counted, second.counted, unit, after.unitsOf_perm same.symm]
    unfold unitsOf
    simp only [needed]

namespace Context

variable {context : Context}

/-- To give back a block frees that block, and the program holds all the others as before. -/
theorem Owns.free (owns : context.Owns) {address : Address} {last : Context}
    (freed : Exec.free address context = .ok () last) :
    ∃ block ∈ context.dynamic, block.address = address ∧
      last = { context with
        dynamic := context.dynamic.filter (·.address ≠ address)
        heap := context.heap.release block } ∧
      context.owned.Perm (block :: last.owned) := by
  -- The block is found by its address, or the return has failed.
  rw [Exec.free_run] at freed
  cases found : context.dynamic.find? (·.address = address) with
  | none =>
    rw [found] at freed
    cases freed
  | some block =>
    rw [found] at freed
    cases freed
    have same := List.find?_some found
    simp only [decide_eq_true_eq] at same
    refine ⟨block, List.mem_of_find?_eq_some found, same, rfl, ?_⟩
    -- No two blocks start at the same address, so only one is taken out.
    have apart : context.dynamic.Pairwise fun one other => one.address ≠ other.address :=
      owns.holds.addresses.sublist (List.sublist_append_right ..)
    refine List.perm_iff_count.mpr fun other => ?_
    have split := List.perm_iff_count.mp (Exec.find_perm_filter apart found) other
    rw [List.count_cons] at split ⊢
    rw [count_owned, count_owned]
    dsimp only
    omega

/-- The blocks that the program holds and did not ask for itself: those of names, of activations, of
temporary objects and of literals. -/
def undemanded (context : Context) : List Block :=
  context.globals.blocks ++ context.stack.blocks ++
    context.temporaries.toList.map (·.block) ++ context.strings.toList

/-- What the program did not ask for itself cannot be given back. -/
theorem Owns.not_holdsDynamic (owns : context.Owns) {block : Block}
    (member : block ∈ context.undemanded) : ¬ context.HoldsDynamic block.address := by
  rintro ⟨other, asked, same⟩
  -- Blocks of different holders start at different addresses.
  have apart := (List.pairwise_append.mp owns.holds.addresses).2.2
  exact apart block member other asked same.symm

/-- Inside of a block that the program holds, no other one starts. -/
theorem Owns.not_holdsDynamic_inside (owns : context.Owns) {block : Block}
    (member : block ∈ context.owned) {offset : Nat} (some : 0 < offset)
    (inside : offset < block.size) :
    ¬ context.HoldsDynamic (block.address + UInt64.ofNat offset) := by
  rintro ⟨other, asked, same⟩
  have also : other ∈ context.owned := List.mem_append_right _ asked
  -- The whole block has addresses, so that the other one starts behind its start.
  have rest : offset + (block.size - offset) ≤ block.size := by omega
  have located := Heap.locate_ok
    (owns.holds.locate_part member (show 0 < block.size - offset by omega) rest)
  rw [← same] at located
  have start := (owns.holds.seated block member).address
  have behind : other.address.toNat = block.address.toNat + offset := by omega
  have differ : other ≠ block := by
    rintro rfl
    omega
  have size := (owns.holds.seated other also).size_pos
  have apart := owns.holds.bytes_apart also member differ size
  omega

/-- A request for memory that finds no room is counted, and nothing else happens. -/
theorem Owns.malloc_full (owns : context.Owns) {size : Nat} (asked : 0 < size)
    (full : ¬ ∃ first, context.heap.FreeRun first (context.heap.unitsFor size)) :
    Builtin.mallocOrNull size context =
      .ok (.pointer 0) { context with refused := context.refused + 1 } := by
  -- Without a free run the heap refuses, and the refusal is counted.
  rw [Exec.mallocOrNull_run, owns.holds.allocate_full asked full]

/-- A request for memory that finds room is answered with a block that lies apart from everything
that the program held. -/
theorem Owns.malloc_room (owns : context.Owns) {size first : Nat} (asked : 0 < size)
    (run : context.heap.FreeRun first (context.heap.unitsFor size)) :
    ∃ block heap, Builtin.mallocOrNull size context = .ok (.pointer block.address)
        { context with heap, dynamic := block :: context.dynamic } ∧
      block.size = size ∧ block.address ≠ 0 ∧ heap.bytes = context.heap.bytes ∧
      heap.unit = context.heap.unit ∧ heap.Holds (block :: context.owned) := by
  -- With a free run the heap grants the request, and the block is held beside all else.
  obtain ⟨block, heap, allocated⟩ := Heap.exists_allocate asked run
  have holds := Heap.allocate_holds owns.holds allocated
  obtain ⟨lowest, -, -, address, granted⟩ := owns.holds.allocate_granted asked allocated
  refine ⟨block, heap, ?_, ?_, ?_, granted.bytes, granted.unit, holds⟩
  · rw [Exec.mallocOrNull_run, allocated]
  · -- The block is as long as it was asked to be.
    obtain ⟨-, -, -, -, rfl, -⟩ := Heap.allocate_ok owns.holds.bounded allocated
    rfl
  · -- The arena starts behind the null address.
    intro null
    rw [null] at address
    have low : 0 < heapBase := by decide
    have zero : (0 : Address).toNat = 0 := rfl
    omega

/-- A block that has just been handed out starts where no other one does that the program gives back
itself, so that a table of these by their addresses holds no entry that it would displace. -/
theorem displaces_none {block : Block} {heap : Heap}
    (holds : heap.Holds (block :: context.owned)) :
    context.dynamic.filter (·.address ≠ block.address) = context.dynamic := by
  rw [List.filter_eq_self]
  intro other asked
  -- Blocks that are held together start at addresses of their own.
  have apart := (List.pairwise_cons.mp holds.addresses).1 other (List.mem_append_right _ asked)
  simpa using fun same => apart same.symm

/-- A block that has just been handed out can be given back, and the program holds what it held
before. -/
theorem free_answered {block : Block} {heap : Heap}
    (holds : heap.Holds (block :: context.owned)) :
    Exec.free block.address { context with heap, dynamic := block :: context.dynamic } =
      .ok () { context with heap := heap.release block } := by
  have found : (block :: context.dynamic).find? (·.address = block.address) = some block := by
    simp
  -- The others start elsewhere.
  have others : (block :: context.dynamic).filter (·.address ≠ block.address) =
      context.dynamic := by
    rw [List.filter_cons, if_neg (by simp), displaces_none holds]
  rw [Exec.free_run]
  dsimp only
  rw [found, others]
  rfl

/-- Memory that is handed out to a program is entered under an address that is not taken: to put it
in the place of whatever stands there is to put it beside all that stands there. -/
theorem Owns.malloc_enters (owns : context.Owns) {size : Nat} {address : Address} {last : Context}
    (answered : Exec.malloc size context = .ok address last) :
    ∃ block heap, block.address = address ∧ block.size = size ∧
      last = { context with heap, dynamic := block :: context.dynamic } ∧
      last.dynamic = block :: context.dynamic.filter (·.address ≠ address) := by
  -- The request was granted, since it was answered with an address.
  rw [Exec.malloc_run] at answered
  cases allocated : Heap.allocate size context.heap with
  | error cause heap =>
    rw [allocated] at answered
    cases answered
  | ok block heap =>
    rw [allocated] at answered
    cases answered
    have holds := Heap.allocate_holds owns.holds allocated
    obtain ⟨first, -, -, -, rfl, -⟩ := Heap.allocate_ok owns.holds.bounded allocated
    exact ⟨_, heap, rfl, rfl, rfl, congrArg _ (displaces_none holds).symm⟩

/-- To give a block back frees its units and no others; every byte stays, and the program holds all
else that it held. -/
theorem Owns.free_exact (owns : context.Owns) {address : Address} {last : Context}
    (freed : Exec.free address context = .ok () last) :
    ∃ block ∈ context.dynamic, block.address = address ∧
      last = { context with
        dynamic := context.dynamic.filter (·.address ≠ address)
        heap := context.heap.release block } ∧
      (∀ index, last.heap.unitLive index =
        (context.heap.unitLive index && !context.heap.covers index block)) ∧
      last.heap.bytes = context.heap.bytes ∧ context.owned.Perm (block :: last.owned) := by
  -- The return has freed one block, which the program held.
  obtain ⟨block, asked, same, state, split⟩ := owns.free freed
  refine ⟨block, asked, same, state, fun index => ?_, ?_, split⟩
  · -- Its units are free, and those of others are live as before.
    rw [state]
    exact Custody.unitLive_release owns.holds (List.mem_append_right _ asked) index
  · -- A release does not touch the bytes.
    rw [state]
    exact context.heap.release_bytes block

end Context

namespace Builtin

/-- A positive size is asked for as it is. -/
theorem call_malloc {argument : Value} {size : Int32} (read : argument.asInt = .ok size)
    (some : 0 < size) : malloc.call [argument] = mallocOrNull size.toInt.toNat := by
  have proper : ¬ size ≤ 0 := by
    rw [Int32.le_iff_toInt_le]
    rw [Int32.lt_iff_toInt_lt] at some
    omega
  -- The size is read and found positive, so it is passed on.
  funext context
  simp only [call, read, bind_run]
  simp [proper]

/-- An address that is not null is given back as it is. -/
theorem call_free {address : Address} (proper : address ≠ 0) {context last : Context}
    (freed : Exec.free address context = .ok () last) :
    free.call [.pointer address] context = .ok .void last := by
  -- The address is read and found not to be null, so it is passed on.
  simp only [call, Value.asPointer, Exec.lift_ok, bind_run, Exec.pure_run, if_neg proper, freed]

end Builtin

/-- A request for a positive size is answered with null just if no free run is long enough;
otherwise with a block that lies apart from everything that was held, and that can be given back at
once as if it had never been asked for. -/
theorem Context.Owns.malloc_exact {context : Context} (owns : context.Owns) {argument : Value}
    {asked : Int32} (read : argument.asInt = .ok asked) (some : 0 < asked) :
    let needed := context.heap.unitsFor asked.toInt.toNat
    ((¬ ∃ run, context.heap.FreeRun run needed) →
      Builtin.malloc.call [argument] context =
        .ok (.pointer 0) { context with refused := context.refused + 1 }) ∧
    ∀ run, context.heap.FreeRun run needed → ∃ block heap,
      Builtin.malloc.call [argument] context = .ok (.pointer block.address)
        { context with heap, dynamic := block :: context.dynamic } ∧
      block.size = asked.toInt.toNat ∧ block.address ≠ 0 ∧
      heap.bytes = context.heap.bytes ∧
      (∀ other ∈ context.owned, ∀ index,
        ¬ (heap.covers index block = true ∧ heap.covers index other = true)) ∧
      ∃ restored, Builtin.free.call [.pointer block.address]
          { context with heap, dynamic := block :: context.dynamic } =
            .ok .void { context with heap := restored } ∧
        (∀ index, restored.unitLive index = context.heap.unitLive index) ∧
        restored.usedBytes = context.heap.usedBytes ∧
        restored.bytes = context.heap.bytes := by
  -- The size is positive as a number too, so that the heap is asked for some bytes.
  intro needed
  have positive : 0 < asked.toInt.toNat := by
    rw [Int32.lt_iff_toInt_lt] at some
    have zero : (0 : Int32).toInt = 0 := rfl
    omega
  rw [Builtin.call_malloc read some]
  refine ⟨owns.malloc_full positive, fun run room => ?_⟩
  obtain ⟨block, heap, answered, sized, proper, bytes, shape, holds⟩ :=
    owns.malloc_room positive room
  refine ⟨block, heap, answered, sized, proper, bytes,
    fun other member index => (List.pairwise_cons.mp holds.apart).1 other member index,
    heap.release block, ?_, ?_⟩
  · -- The block is the last that was entered, and it is found by its address.
    exact Builtin.call_free proper (Context.free_answered holds)
  · -- Both heaps hold what the program held before.
    have same := owns.holds.unitLive_eq holds.release (.refl _)
      ((heap.release_sameArena block).unit.trans shape)
    exact ⟨same.1, same.2, (heap.release_bytes block).trans bytes⟩

/--
What a program asks for and gives back is handled exactly, wherever steps have led it from its start
on a fresh heap.

The steps are those of any statements, expressions, declarations, opened and closed blocks and
activations, requests and returns of memory: whatever the program runs next has an account, which
goes on where the steps so far end.
An address can be given back just if some step has handed it out and no later one has taken it
back.
Then the units of its block become free and no others, every byte stays, and the program holds all
else that it held.
Any other address is refused, and nothing happens; such are the addresses of variables, temporary
objects and literals, and those inside of a block that is held.
A request for a positive size is answered with null just if no free run is long enough, which is
counted and changes nothing else; otherwise with a block that has no unit in common with anything
that was held.
To give that block back at once leaves the live units, the bytes in use and the blocks of the
program as they were before the request.
-/
theorem Step.malloc_and_free_exact {size unit : Nat} {fresh : Heap}
    (created : Heap.create size unit = .ok fresh) (fits : heapBase + size ≤ UInt64.size)
    (program : Program) (depthLimit grants : Nat) (steps : List Step) :
    let first := Context.start program fresh depthLimit grants
    let context := walk steps first
    (∀ statement, ∃ more, Exec.Account (Exec.runStatement statement) context more ∧
      (Exec.runStatement statement).after context = walk (steps ++ more) first) ∧
    (∀ expression, ∃ more, Exec.Account (Exec.evaluate expression) context more ∧
      (Exec.evaluate expression).after context = walk (steps ++ more) first) ∧
    (∀ address, (∃ last, Exec.free address context = .ok () last) ↔
      Outstanding steps first address) ∧
    (∀ address last, Exec.free address context = .ok () last →
      ∃ block ∈ context.dynamic, block.address = address ∧
        last = { context with
          dynamic := context.dynamic.filter (·.address ≠ address)
          heap := context.heap.release block } ∧
        (∀ index, last.heap.unitLive index =
          (context.heap.unitLive index && !context.heap.covers index block)) ∧
        last.heap.bytes = context.heap.bytes ∧ context.owned.Perm (block :: last.owned)) ∧
    (∀ address, ¬ Outstanding steps first address →
      Exec.free address context = .error (.fault (.invalidFree address)) context) ∧
    (∀ block ∈ context.undemanded, ¬ Outstanding steps first block.address) ∧
    (∀ block ∈ context.owned, ∀ offset, 0 < offset → offset < block.size →
      ¬ Outstanding steps first (block.address + UInt64.ofNat offset)) ∧
    ∀ (argument : Value) (asked : Int32), argument.asInt = .ok asked → 0 < asked →
      let needed := context.heap.unitsFor asked.toInt.toNat
      ((¬ ∃ run, context.heap.FreeRun run needed) →
        Builtin.malloc.call [argument] context =
          .ok (.pointer 0) { context with refused := context.refused + 1 }) ∧
      ∀ run, context.heap.FreeRun run needed → ∃ block heap,
        Builtin.malloc.call [argument] context = .ok (.pointer block.address)
          { context with heap, dynamic := block :: context.dynamic } ∧
        block.size = asked.toInt.toNat ∧ block.address ≠ 0 ∧
        heap.bytes = context.heap.bytes ∧
        (∀ other ∈ context.owned, ∀ index,
          ¬ (heap.covers index block = true ∧ heap.covers index other = true)) ∧
        ∃ restored, Builtin.free.call [.pointer block.address]
            { context with heap, dynamic := block :: context.dynamic } =
              .ok .void { context with heap := restored } ∧
          (∀ index, restored.unitLive index = context.heap.unitLive index) ∧
          restored.usedBytes = context.heap.usedBytes ∧
          restored.bytes = context.heap.bytes := by
  -- The books of the program are right, and they name the blocks that are outstanding.
  intro first context
  have owns : context.Owns := (walk_reachable .start steps).keeps Exec.steps_own
    (Context.start_owns created fits program depthLimit grants)
  have outstanding := holdsDynamic_walk first rfl steps
  have accounted {α : Type} {run : Exec α} (shelters : Exec.Shelters 0 run) :
      ∃ more, Exec.Account run context more ∧
        run.after context = walk (steps ++ more) first := by
    obtain ⟨more, account⟩ := shelters.exists_account context
    exact ⟨more, account, by rw [account.after_eq, walk_append]⟩
  refine ⟨fun statement => accounted (Exec.runStatement_shelters 0 statement),
    fun expression => accounted (Exec.evaluate_shelters 0 expression), ?_, ?_, ?_, ?_, ?_, ?_⟩
  · -- What can be given back is what is held, and that is what is outstanding.
    intro address
    rw [Exec.free_ok_iff]
    exact outstanding address
  · exact fun address last freed => owns.free_exact freed
  · -- What is not outstanding is not held, and so it is refused.
    intro address settled
    exact Exec.free_refused fun held => settled ((outstanding address).mp held)
  · -- Nothing else that is held starts at the address of a block of its own.
    intro block member asked
    exact owns.not_holdsDynamic member ((outstanding _).mpr asked)
  · -- Nor does such a block start inside of another one.
    intro block member offset some inside asked
    exact owns.not_holdsDynamic_inside member some inside ((outstanding _).mpr asked)
  · exact fun argument asked read some => owns.malloc_exact read some

/-- A program asks for two blocks and gives the first one back: of their addresses only the second
can still be given back, and none inside of it. -/
theorem Step.malloc_and_free_exact_after_return :
    ∃ fresh, Heap.create 64 8 = .ok fresh ∧
      let first := Context.start {} fresh 4 0
      let steps := [malloc 10, malloc 8, free 0x1000]
      (∃ last, Exec.free 0x1010 (walk steps first) = .ok () last) ∧
      Outstanding steps first 0x1010 ∧ ¬ Outstanding steps first 0x1000 ∧
      Exec.free 0x1011 (walk steps first) =
        .error (.fault (.invalidFree 0x1011)) (walk steps first) := by
  have created : Heap.create 64 8 = .ok _ := rfl
  refine ⟨_, created, ?_⟩
  intro first steps
  obtain ⟨-, -, outstanding, -, refused, -, inside, -⟩ :=
    malloc_and_free_exact created (by decide) {} 4 0 steps
  -- Of the two blocks only the second is still held.
  have held : (walk steps first).dynamic = [⟨0x1010, 8, true⟩] := by decide +kernel
  have second : ∃ last, Exec.free 0x1010 (walk steps first) = .ok () last :=
    Exec.free_ok_iff.mpr ⟨⟨0x1010, 8, true⟩, by rw [held]; decide, rfl⟩
  refine ⟨second, (outstanding _).mp second, fun again => ?_, refused _ ?_⟩
  · -- Nothing that is held starts at the first address any more.
    obtain ⟨block, member, same⟩ := Exec.free_ok_iff.mp ((outstanding _).mpr again)
    rw [held, List.mem_singleton] at member
    rw [member] at same
    revert same
    decide
  · -- The block is held, so no other starts inside of it.
    have member : ⟨0x1010, 8, true⟩ ∈ (walk steps first).owned := by
      unfold Context.owned
      rw [held]
      simp
    exact inside _ member 1 (by decide) (by decide)

end StepMachine
