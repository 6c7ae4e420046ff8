import StepMachine.Proofs.Exec.Growth
import StepMachine.Proofs.Machine.Stepping

/-! Raising the limits of a machine, in memory and on the stack, changes nothing for a program that
did not run into them. -/

namespace StepMachine

/-- A larger arena of the same units is a smaller one with more units, all free. -/
theorem Heap.create_grown {size larger unit : Nat} {heap heap' : Heap} (le : size ≤ larger)
    (created : create size unit = .ok heap) (created' : create larger unit = .ok heap') :
    ∃ more, heap' = heap.grown more := by
  -- Both sizes were accepted, so both arenas are given by their number of units.
  unfold create at created created'
  split at created
  · split at created'
    · cases created
      cases created'
      -- The units that fit into the larger size are at least as many.
      obtain ⟨more, longer⟩ := Nat.exists_eq_add_of_le (Nat.div_le_div_right le)
      exact ⟨more, by rw [longer]; rfl⟩
    · cases created'
  · cases created

/-- A fresh arena is bounded. -/
theorem Heap.create_bounded {size unit : Nat} {heap : Heap}
    (created : create size unit = .ok heap) : heap.Bounded := by
  -- No unit is in use yet.
  unfold create at created
  split at created
  · cases created
    exact Nat.zero_le _
  · cases created

/-- Tearing down a program with more room leaves the same to be seen. -/
theorem Context.Housed.tearDown_grown {context : Context} (housed : context.Housed)
    (more deeper : Nat) :
    (context.grown more deeper).tearDown.view = context.tearDown.view.grown more := by
  have freed : (context.grown more deeper).heap.releaseAll (context.grown more deeper).owned =
      (context.heap.releaseAll context.owned).grown more :=
    Exec.releaseAll_owned housed (List.Subset.refl context.owned)
  unfold tearDown view
  rw [freed, show (context.grown more deeper).journal.entries = context.journal.entries from
    Journal.entries_grown more deeper context.journal]
  rfl

namespace Program

variable {program : Program} {heap : Heap} {config config' : Config} {more deeper : Nat}

/-- A course that nothing hinders is the same with more room. -/
theorem course_grown (bounded : heap.Bounded) (entry : config'.entryPoint = config.entryPoint)
    (depth : config'.maxCallDepth = config.maxCallDepth + deeper) {patience : Nat}
    {journal : Journal} (fresh : journal.grown more deeper = journal)
    (unhindered : Exec.Unhindered (program.course heap config patience journal)) :
    program.course (heap.grown more) config' patience journal =
      Exec.grown more deeper (program.course heap config patience journal) := by
  -- The run in the larger arena starts from the same state, with more room in it.
  let start := (Context.start program heap config.maxCallDepth 0).repaced patience journal
  have housed : start.Housed := ⟨bounded, nofun⟩
  have same : (Context.start program (heap.grown more) config'.maxCallDepth 0).repaced patience
      journal = start.grown more deeper := by
    rw [depth]
    simp only [start, Context.grown, Context.repaced, fresh]
    rfl
  unfold course at unhindered ⊢
  rw [entry, same]
  exact (Exec.runProgram_scales config.entryPoint).grows start housed unhindered

/-- A course that has ended and was not hindered is not hindered either if it is recorded. -/
theorem unhindered_recorded {patience : Nat}
    (ended : (program.restAt heap config patience .off).isEnded = true)
    (unhindered : Exec.Unhindered (program.course heap config patience .off)) :
    Exec.Unhindered (program.course heap config patience (.full [])) := by
  -- The recorded run follows the plain one.
  have follows := @course_follows program heap config patience 0 .off
  rw [Nat.add_zero] at follows
  unfold restAt at ended
  -- Recording a course that ends changes neither how it ends nor what it counts.
  match came : program.course heap config patience .off with
  | .ok status last =>
    rw [came] at follows unhindered
    obtain ⟨newer, -, same⟩ := follows
    rw [same]
    exact unhindered
  | .error (.fault cause) last =>
    rw [came] at follows unhindered
    obtain ⟨newer, -, same⟩ := follows
    rw [same]
    exact unhindered
  -- A run that waits has not ended.
  | .error (.suspended view) last =>
    rw [came] at ended
    cases ended

/-- A program at rest, with more room. -/
def grownRest (more : Nat) : Rest View Int32 Fault → Rest View Int32 Fault
  | .parked view abandoned => .parked (view.grown more) (abandoned.grown more)
  | .ended view outcome steps => .ended (view.grown more) outcome steps

/-- More room does not make a program go on or stop. -/
theorem isEnded_grownRest (more : Nat) (rest : Rest View Int32 Fault) :
    (grownRest more rest).isEnded = rest.isEnded := by
  -- How a program has come to rest is a matter of its constructor.
  cases rest <;> rfl

/-- More room does not change what a program has come to. -/
theorem outcome?_grownRest (more : Nat) (rest : Rest View Int32 Fault) :
    (grownRest more rest).outcome? = rest.outcome? := by
  cases rest <;> rfl

/-- What is seen at rest is seen with more room. -/
theorem view_grownRest (more : Nat) (rest : Rest View Int32 Fault) :
    (grownRest more rest).view = rest.view.grown more := by
  cases rest <;> rfl

/-- A course is not hindered if no fault that ends it is a want of room, and no request was refused
for one. -/
theorem unhindered_of_outcome {patience : Nat}
    (fault : ∀ fault, ((program.worker heap config).free patience).outcome? =
      some (.failed fault) → fault.error.wantsRoom = false)
    (refused : (stateOf (program.course heap config patience .off)).refused = 0) :
    Exec.Unhindered (program.course heap config patience .off) := by
  -- The three ways to end are looked at in turn, and only a fault needs the first hypothesis.
  rw [free_eq, restAt] at fault
  match came : program.course heap config patience .off with
  | .ok status last =>
    rw [came] at refused
    exact refused
  | .error (.fault cause) last =>
    rw [came] at refused fault
    exact ⟨fault _ rfl, refused⟩
  | .error (.suspended view) last =>
    rw [came] at refused
    exact ⟨rfl, refused⟩

/-- Where a program comes to rest is the same with more room, apart from that. -/
theorem restOf_grown {outcome : EStateM.Result Unwind Context Int32}
    (housed : (stateOf outcome).Housed) (grants : Nat) :
    restOf grants (Exec.grown more deeper outcome) = grownRest more (restOf grants outcome) := by
  -- Whatever is torn down in the end is housed, so it leaves the same with more room.
  match outcome with
  | .ok status last =>
    have housed : last.Housed := housed
    simp only [Exec.grown, restOf, grownRest, housed.tearDown_grown]
    rfl
  | .error (.fault cause) last =>
    have housed : last.Housed := housed
    simp only [Exec.grown, Unwind.grown, restOf, grownRest, housed.tearDown_grown]
    rfl
  | .error (.suspended view) last =>
    have housed : last.Housed := housed
    simp only [Exec.grown, Unwind.grown, restOf, grownRest, housed.tearDown_grown]

/-- A program that runs freely and is not hindered comes to rest alike with more room, having passed
through the same moments. -/
theorem free_grown (bounded : heap.Bounded) (entry : config'.entryPoint = config.entryPoint)
    (depth : config'.maxCallDepth = config.maxCallDepth + deeper) {patience : Nat}
    (ended : ((program.worker heap config).free patience).isEnded = true)
    (unhindered : Exec.Unhindered (program.course heap config patience .off)) :
    (program.worker (heap.grown more) config').free patience =
        grownRest more ((program.worker heap config).free patience) ∧
      program.moments (heap.grown more) config' patience =
        (program.moments heap config patience).map (Moment.grown more deeper) := by
  rw [free_eq] at ended
  refine ⟨?_, ?_⟩
  · rw [free_eq, free_eq]
    unfold restAt
    rw [course_grown bounded entry depth rfl unhindered]
    -- What the program holds in the end lies in its arena, since nothing was held at first.
    refine restOf_grown ?_ patience
    have houses := Exec.steps_house.executes.runProgram config.entryPoint
    exact ((Effect.allows_iff rfl).mp (houses _)).housed ⟨bounded, nofun⟩
  · -- The moments are read off the runs that are recorded, which are not hindered either.
    unfold moments
    rw [course_grown bounded entry depth rfl (unhindered_recorded ended unhindered)]
    generalize program.course heap config patience (.full []) = outcome
    -- The record of a state with more room has the same moments with more room.
    have recorded (journal : Journal) : (journal.grown more deeper).moments =
        journal.moments.map (Moment.grown more deeper) := by
      cases journal <;> rfl
    rw [List.map_reverse]
    cases outcome <;> exact congrArg List.reverse (recorded _)

end Program

namespace Machine

/-- Raising the limits of a machine changes nothing for a program that did not reach them.

The second machine has the arena of the first one with more units, all free, and room for more
activations, and a host that can start it. If the first one runs the program to its end, and neither
its fault nor any refused request was for want of room, then so does the second one, with the same
exit status, the same fault and the same output. It is let into the same statements, with as much
memory in use at each; at each of these moments all that the program holds, prints and returns is
the same, with the same addresses, and only the room differs.
The same goes for each step on the way: whatever makes an object makes it at the same address, and
every statement, expression and place has the same outcome, whatever state it starts from. -/
theorem limits_do_not_matter {program : Program} {config config' : Config}
    {spawns spawns' : Nat → Bool} {machine machine' : Machine}
    (created : create program config spawns = .ok machine)
    (created' : create program config' spawns' = .ok machine')
    (unit : config'.unitSize = config.unitSize) (entry : config'.entryPoint = config.entryPoint)
    (memory : config.heapSize ≤ config'.heapSize)
    (depth : config.maxCallDepth ≤ config'.maxCallDepth)
    (spawnable : spawns' config'.workerStack = true) :
    ∃ heap more deeper, Heap.create config.heapSize config.unitSize = .ok heap ∧
      Heap.create config'.heapSize config'.unitSize = .ok (heap.grown more) ∧
      config'.maxCallDepth = config.maxCallDepth + deeper ∧
      (∀ patience blocked, runAll patience machine = .ok () blocked → blocked.isRunning = false →
        (∀ fault, blocked.fault? = some fault → fault.error.wantsRoom = false) →
        (stateOf (program.course heap config patience .off)).refused = 0 →
        ∃ blocked', runAll patience machine' = .ok () blocked' ∧ blocked'.isRunning = false ∧
          blocked'.exitCode = blocked.exitCode ∧ blocked'.fault? = blocked.fault? ∧
          blocked'.view.terminal = blocked.view.terminal ∧
          blocked'.view.location = blocked.view.location ∧
          (program.moments (heap.grown more) config' patience).map
              (fun moment => (moment.scene.location, moment.scene.heap.usedBytes)) =
            (program.moments heap config patience).map
              (fun moment => (moment.scene.location, moment.scene.heap.usedBytes)) ∧
          program.moments (heap.grown more) config' patience =
            (program.moments heap config patience).map (Moment.grown more deeper)) ∧
      (∀ name type init, Exec.Scales more deeper (Exec.declare name type init)
        (Exec.declare name type init)) ∧
      (∀ type, Exec.Scales more deeper (Exec.temporary type) (Exec.temporary type)) ∧
      (∀ size, Exec.Scales more deeper (Builtin.mallocOrNull size) (Builtin.mallocOrNull size)) ∧
      (∀ literal, Exec.Scales more deeper (Exec.loadString literal) (Exec.loadString literal)) ∧
      (∀ statement, Exec.Scales more deeper (Exec.runStatement statement)
        (Exec.runStatement statement)) ∧
      (∀ expression, Exec.Scales more deeper (Exec.evaluate expression)
          (Exec.evaluate expression) ∧
        Exec.Scales more deeper (Exec.placeOf expression) (Exec.placeOf expression)) := by
  obtain ⟨heap, made, rfl⟩ := create_eq created
  obtain ⟨heap', made', rfl⟩ := create_eq created'
  rw [unit] at made'
  obtain ⟨more, rfl⟩ := Heap.create_grown memory made made'
  obtain ⟨deeper, depth⟩ := Nat.exists_eq_add_of_le depth
  refine ⟨heap, more, deeper, made, unit ▸ made', depth,
    fun patience blocked ran stopped fault refused => ?_, Exec.declare_scales,
    Exec.temporary_scales, Exec.mallocOrNull_scales, Exec.loadString_scales,
    Exec.runStatement_scales, Exec.evaluate_scales⟩
  obtain ⟨-, ended, thread⟩ := runAll_ended ran stopped
  -- The outcome of a machine is that of its thread, which ran the program freely.
  have outcomes : blocked.thread.outcome? =
      ((program.worker heap config).free patience).outcome? := by
    rw [thread]
    rfl
  -- The run has ended, and neither its end nor anything before it was a want of room.
  have unhindered : Exec.Unhindered (program.course heap config patience .off) := by
    refine Program.unhindered_of_outcome (fun failure failed => fault failure ?_) refused
    unfold fault? Thread.fault?
    rw [outcomes, failed]
  obtain ⟨free, moments⟩ :=
    Program.free_grown (Heap.create_bounded made) entry depth ended unhindered
  have ended' : ((program.worker (heap.grown more) config').free patience).isEnded = true := by
    rw [free, Program.isEnded_grownRest, ended]
  obtain ⟨blocked', ran', stopped', thread'⟩ := runAll_ends spawnable ended'
  -- All that a host can ask the second machine is read off the same end of the run.
  have outcomes' : blocked'.thread.outcome? = blocked.thread.outcome? := by
    rw [thread', outcomes, ← Program.outcome?_grownRest more, ← free]
    rfl
  have views : blocked'.view = blocked.view.grown more := by
    unfold view
    rw [thread, thread']
    exact (congrArg Rest.view free).trans (Program.view_grownRest more _)
  refine ⟨blocked', ran', stopped', ?_, ?_, ?_, ?_, ?_, moments⟩
  · -- The exit status and the fault depend on the outcome alone.
    unfold exitCode Thread.exitStatus
    rw [outcomes']
  · unfold fault? Thread.fault?
    rw [outcomes']
  · -- What was printed and where it stands is no matter of room.
    rw [views]
    rfl
  · rw [views]
    rfl
  · -- Where the moments are the same but for the room, so are their locations and what they use.
    rw [moments, List.map_map]
    rfl

/-- A program that asks for four bytes, and then looks at a structure of seventy-two bytes there. -/
def lookingTooFar : Program where
  functions := [{
    name := "main"
    result := .int
    parameters := []
    body := [
      .declare "p" (.pointer .int) (some (.call "malloc" [.int 4])) (.startOfLine 1),
      .expression (.deref (.var "p") (.struct "wide" (.ofList [
        ("a", .struct "half" (.ofList [("x", .pointer .int), ("y", .pointer .int),
          ("z", .pointer .int), ("u", .pointer .int)])),
        ("b", .struct "half" (.ofList [("x", .pointer .int), ("y", .pointer .int),
          ("z", .pointer .int), ("u", .pointer .int)])),
        ("c", .pointer .int)]))) (.startOfLine 2)] }]

/-- The structure reaches past an arena of sixty-four bytes and lies inside one of twice the size;
in both it is not live, and the program fails at the same address. -/
theorem limits_do_not_matter_to_lookingTooFar :
    ∃ machine machine' blocked',
      create lookingTooFar { heapSize := 64 } (fun _ => true) = .ok machine ∧
      create lookingTooFar { heapSize := 128, maxCallDepth := 5000 } (fun _ => true) = .ok machine' ∧
      runAll 5 machine' = .ok () blocked' ∧
      blocked'.fault? =
        some ⟨.memory (.invalidAccess 0x1000 72), some (.startOfLine 2)⟩ := by
  -- The smaller arena has eight units.
  let heap : Heap := { Heap.empty with unit := 8, units := 8, unit_pos := by decide }
  have created : create lookingTooFar { heapSize := 64 } (fun _ => true) =
    .ok { thread := lookingTooFar.thread heap { heapSize := 64 } fun _ => true } := rfl
  have created' :
    create lookingTooFar { heapSize := 128, maxCallDepth := 5000 } (fun _ => true) = .ok _ := rfl
  obtain ⟨heap', more, deeper, made, -, -, same, -⟩ :=
    -- The settings differ in both limits at once.
    limits_do_not_matter created created' rfl rfl (by decide) (by decide) (by decide)
  have fresh : Heap.create 64 8 = .ok heap := rfl
  rw [fresh] at made
  cases made
  -- In the smaller arena the program ends with that fault, and nothing was refused.
  obtain ⟨blocked, ran, stopped, thread⟩ := @runAll_ends lookingTooFar heap { heapSize := 64 }
    (fun _ => true) 5 rfl (by decide +kernel)
  -- The fault is found by running the program once.
  have fault : blocked.fault? =
      some ⟨.memory (.invalidAccess 0x1000 72), some (.startOfLine 2)⟩ := by
    unfold fault? Thread.fault?
    rw [thread]
    decide +kernel
  -- That it is no lack of room is all that is asked of the fault.
  obtain ⟨blocked', ran', -, -, fault', -⟩ := same 5 blocked ran stopped
    (fun found failed => by
      rw [fault] at failed
      cases failed
      rfl)
    (by decide +kernel)
  exact ⟨_, _, blocked', created, created', ran', fault'.trans fault⟩

end Machine

end StepMachine
