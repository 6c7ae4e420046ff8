import StepMachine.Proofs.Eval.Steps
import StepMachine.Proofs.Eval.Suspension
import StepMachine.Proofs.Machine.Stepping
import StepMachine.Proofs.Terminal

/-! The output of a program only ever grows, so that what a host has seen at one pause is the
beginning of what it sees at any later one. -/

namespace StepMachine

/-- All that can be seen of the output, latest first: what has been printed by now, what had been
printed at the moments of the record, and the empty terminal of the beginning. -/
def Context.outputs (context : Context) : List Terminal :=
  context.terminal :: (context.journal.moments.map (·.scene.terminal) ++ [({} : Terminal)])

/-- Each of them has grown from those before it. -/
def Context.Grown (context : Context) : Prop :=
  context.outputs.Pairwise fun later earlier => earlier.GrowsTo later

namespace Context.Grown

variable {before after : Context}

/-- Where nothing is printed and nothing recorded, nothing changes. -/
theorem of_silent (grown : before.Grown) (terminal : after.terminal = before.terminal)
    (journal : after.journal = before.journal) : after.Grown := by
  unfold Grown outputs at grown ⊢
  rwa [terminal, journal]

/-- What is printed comes behind all that was printed at any moment. -/
theorem print (grown : before.Grown) (grows : before.terminal.GrowsTo after.terminal)
    (journal : after.journal = before.journal) : after.Grown := by
  -- All that was seen before was seen no later than what is there now.
  unfold Grown outputs at grown ⊢
  rw [journal]
  obtain ⟨now, past⟩ := List.pairwise_cons.mp grown
  exact List.pairwise_cons.mpr ⟨fun earlier member => (now earlier member).trans grows, past⟩

/-- A moment that is recorded shows what has been printed by now. -/
theorem record (grown : before.Grown) {moment : Moment}
    (shows : moment.scene.terminal = before.terminal) (terminal : after.terminal = before.terminal)
    (location : Location) (journal : after.journal = before.journal.add location moment) :
    after.Grown := by
  unfold Grown outputs at grown ⊢
  -- A moment is seen behind what has been printed by now and in front of the moments before.
  rw [journal, terminal]
  cases recorded : before.journal with
  -- Where no moments are kept, there is nothing new to be seen.
  | off | brief =>
    rw [recorded] at grown
    exact grown
  | full moments =>
    rw [recorded] at grown
    -- The latest moment stands in front of the others, and shows the same as there is now.
    simp only [Journal.add, Journal.moments, List.map_cons, shows, List.cons_append]
    refine List.pairwise_cons.mpr ⟨fun earlier member => ?_, grown⟩
    rcases List.mem_cons.mp member with rfl | past
    · exact .refl _
    · exact (List.pairwise_cons.mp grown).1 earlier past

end Context.Grown

/-- What keeps the output growing, however it ends. -/
def Effect.growing : Effect := .keeping Context.Grown

namespace Exec

open Effect (silent growing)

/-- What cannot be seen lets the output be. -/
theorem grows_of_silent {run : Exec α} (obeys : Obeys silent run) : Obeys growing run := by
  intro context
  -- The output is a function of the terminal and of the record, which both stay.
  refine (Effect.allows_iff rfl).mpr fun grown => ?_
  obtain ⟨terminal, -, journal⟩ := (Effect.allows_iff rfl).mp (obeys context)
  exact grown.of_silent terminal journal

/-- To edit the heap is not seen in the output. -/
theorem edit_silent (change : Edit RuntimeError α) : Obeys silent (edit change) := by
  intro context
  -- Whether the change is made or refused, only the heap is replaced.
  rw [edit_run]
  cases change context.heap <;> exact ⟨rfl, rfl, rfl⟩

/-- To make room for a result is not seen in the output. -/
theorem returnBuffer_silent (type : CType) : Obeys silent (returnBuffer type) := by
  unfold returnBuffer
  -- A buffer is made for a structure only, as a temporary object that is cut to its size.
  split
  · have made : Obeys silent (temporary type) := by
      intro context
      rw [temporary_run]
      cases Variable.allocate type context.heap <;> exact ⟨rfl, rfl, rfl⟩
    refine Obeys.bind made fun object => Obeys.bind ?_ fun block => Obeys.pure _
    cases object.block.slice 0 object.block.size with
    | ok block => exact Obeys.pure block
    | error cause => exact Obeys.throw _
  · exact Obeys.pure none

/-- To ask for memory is not seen in the output, be it refused. -/
theorem mallocOrNull_silent (size : Nat) : Obeys silent (Builtin.mallocOrNull size) := by
  -- A refusal is counted, and that is not seen either.
  intro context
  rw [mallocOrNull_run]
  cases Heap.allocate size context.heap with
  | ok block heap => exact ⟨rfl, rfl, rfl⟩
  | error cause heap => cases cause <;> exact ⟨rfl, rfl, rfl⟩

/-- To give memory back is not seen in the output. -/
theorem free_silent (address : Address) : Obeys silent (free address) := by
  intro context
  rw [free_run]
  -- An address that was never handed out is refused, and nothing changes.
  cases context.dynamic.find? (·.address = address) <;> exact ⟨rfl, rfl, rfl⟩

/-- To hand over a result is not seen in the output. -/
theorem handOver_silent (value : Value) : Obeys silent (handOver value) := by
  refine Obeys.bind Obeys.get fun context => ?_
  -- A structure is copied into the buffer of its caller, and everything else is handed over as it
  -- is.
  split
  · exact Obeys.bind (edit_silent _) fun _ => Obeys.pure _
  · exact Obeys.pure _

/-- To lay out a literal is not seen in the output. -/
theorem loadString_silent (literal : String) : Obeys silent (loadString literal) := by
  intro context
  rw [loadString_run]
  -- There may be no room for it, and it may not be written; then its room is given back.
  cases Heap.allocate ((utf8Bytes literal).length + 1) context.heap with
  | error cause heap => exact ⟨rfl, rfl, rfl⟩
  | ok block heap =>
    simp only
    cases block.writeText (utf8Bytes literal) heap <;> exact ⟨rfl, rfl, rfl⟩

/-- To declare a variable is not seen in the output. -/
theorem declare_silent (name : String) (type : CType) (init : Option Value) :
    Obeys silent (declare name type init) := by
  intro context
  rw [declare_run]
  cases Variable.create type init context.heap with
  | error cause heap => exact ⟨rfl, rfl, rfl⟩
  | ok object heap =>
    -- Whichever scope the name is bound in, no more than that changes.
    simp only [Context.setCurrentScope]
    cases context.stack.current? <;> exact ⟨rfl, rfl, rfl⟩

/-- To note a result is not seen in the output. -/
theorem markReturned_silent (value : Value) : Obeys silent (markReturned value) := by
  intro context
  rw [markReturned_run]
  -- Without an activation, or after a return, it is refused.
  cases context.stack.frames with
  | nil => exact ⟨rfl, rfl, rfl⟩
  | cons frame callers =>
    simp only
    split <;> exact ⟨rfl, rfl, rfl⟩

/-- To open a scope is not seen in the output. -/
theorem pushScope_silent : Obeys silent pushScope := by
  intro context
  rw [pushScope_run]
  cases context.stack.frames <;> exact ⟨rfl, rfl, rfl⟩

/-- To enter an activation is not seen in the output. -/
theorem pushFrame_silent (function : String) (buffer : Option Block) :
    Obeys silent (pushFrame function buffer) := by
  intro context
  rw [pushFrame_run]
  cases context.stack.room <;> exact ⟨rfl, rfl, rfl⟩

/-- A text that is printed comes behind all others. -/
theorem print_grows (text : String) : Obeys growing (print text) := by
  intro context
  refine (Effect.allows_iff rfl).mpr fun grown => ?_
  have printed : context.terminal.GrowsTo (context.terminal.print text context.location) :=
    ⟨[⟨text, context.location⟩], rfl⟩
  exact grown.print printed rfl

/-- To be let into a statement prints nothing, and may be recorded. -/
theorem enter_grows (location : Location) : Obeys growing (enter location) := by
  intro context
  -- Only a statement that is let in leaves a moment.
  refine (Effect.allows_iff rfl).mpr fun grown => ?_
  cases allowed : context.grants with
  | zero =>
    rw [enter_without allowed]
    exact grown.of_silent rfl rfl
  | succ grants =>
    rw [enter_with allowed]
    have shows : (context.reached location).moment.scene.terminal = context.terminal := rfl
    exact grown.record shows rfl location rfl

/-- Whatever a program does, its output grows. -/
theorem steps_grow : SingleSteps growing where
  store _ _ _ := grows_of_silent (edit_silent _)
  returnBuffer type := grows_of_silent (returnBuffer_silent type)
  print := print_grows
  mallocOrNull size := grows_of_silent (mallocOrNull_silent size)
  free address := grows_of_silent (free_silent address)
  handOver value := grows_of_silent (handOver_silent value)
  loadString literal := grows_of_silent (loadString_silent literal)
  declare name type init := grows_of_silent (declare_silent name type init)
  markReturned value := grows_of_silent (markReturned_silent value)
  pushScope := grows_of_silent pushScope_silent
  popScope := grows_of_silent popScope_silent
  pushFrame function buffer := grows_of_silent (pushFrame_silent function buffer)
  popFrame := grows_of_silent popFrame_silent
  releaseTemporaries mark := grows_of_silent (releaseTemporaries_silent mark)
  enter := enter_grows
  activate _ _ grown := grown.of_silent rfl rfl

end Exec

namespace Program

variable {program : Program} {heap : Heap} {config : Config}

/-- From the beginning, through the moments of a course and up to its end, the output grows. -/
theorem course_output (patience : Nat) :
    (stateOf (program.course heap config patience (.full []))).Grown := by
  -- At the beginning nothing is printed or recorded.
  have fresh : Context.Grown
      ((Context.start program heap config.maxCallDepth 0).repaced patience (.full [])) := by
    show List.Pairwise _ [({} : Terminal), {}]
    simpa using Terminal.GrowsTo.refl {}
  exact (Exec.steps_grow.executes.runProgram config.entryPoint).keeps fresh

/-- What has been printed in the end has grown from nothing. -/
theorem end_grows (patience : Nat) :
    Terminal.GrowsTo {}
      (stateOf (program.course heap config patience (.full []))).terminal := by
  have final := (List.pairwise_cons.mp (@course_output program heap config patience)).1
  exact final _ (List.mem_append_right _ (List.mem_singleton_self _))

/-- What had been printed at a moment has grown from nothing, and to what has been printed in the
end. -/
theorem moment_grows_to_end {patience count : Nat} {moment : Moment}
    (passed : (program.moments heap config patience)[count]? = some moment) :
    Terminal.GrowsTo {} moment.scene.terminal ∧ moment.scene.terminal.GrowsTo
      (stateOf (program.course heap config patience (.full []))).terminal := by
  -- What is seen at a moment is among the outputs, in front of the empty one and behind the last.
  have recorded : moment.scene.terminal ∈ (stateOf (program.course heap config patience
      (.full []))).journal.moments.map (·.scene.terminal) :=
    List.mem_map_of_mem (List.mem_reverse.mp (List.mem_of_getElem? passed))
  obtain ⟨final, past⟩ := List.pairwise_cons.mp (@course_output program heap config patience)
  obtain ⟨-, -, begun⟩ := List.pairwise_append.mp past
  exact ⟨begun _ recorded {} (List.mem_singleton_self _), final _ (List.mem_append_left _ recorded)⟩

/-- What had been printed at a moment has grown to what has been printed at a later one. -/
theorem moment_grows {patience count later : Nat} (le : count ≤ later) {moment next : Moment}
    (passed : (program.moments heap config patience)[count]? = some moment)
    (further : (program.moments heap config patience)[later]? = some next) :
    moment.scene.terminal.GrowsTo next.scene.terminal := by
  -- At one moment the output is the same, and two moments stand in order in the record.
  rcases Nat.eq_or_lt_of_le le with rfl | lt
  · cases passed.symm.trans further
    exact .refl _
  · -- The moments are recorded latest first.
    have past := (List.pairwise_cons.mp (@course_output program heap config patience)).2
    have grown := (List.pairwise_append.mp past).1
    rw [← List.reverse_reverse (List.map _ _), List.pairwise_reverse, ← List.map_reverse,
      List.pairwise_map] at grown
    obtain ⟨inside, rfl⟩ := List.getElem?_eq_some_iff.mp passed
    obtain ⟨behind, rfl⟩ := List.getElem?_eq_some_iff.mp further
    exact List.pairwise_iff_getElem.mp grown count later inside behind lt

/-- What is seen of a course that has ended is what it has printed in all. -/
theorem terminal_of_ended {grants : Nat} {outcome : EStateM.Result Unwind Context Int32}
    (ended : (restOf grants outcome).isEnded = true) :
    (restOf grants outcome).view.terminal = (stateOf outcome).terminal := by
  -- What is torn down in the end gives up memory, and keeps what was printed.
  match outcome with
  | .ok status last => rfl
  | .error (.fault cause) last => rfl
  | .error (.suspended view) last => cases ended

/-- Programs that have ended alike have printed the same. -/
theorem SameEnd.terminal {one two : Rest View Int32 Fault} {steps : Nat}
    (same : SameEnd one two steps) : one.view.terminal = two.view.terminal := by
  obtain ⟨view, seen, outcome, rfl, rfl, scene⟩ := same
  exact congrArg Scene.terminal scene

/-- At a pause a host sees what a recorded course had printed at the moment of that pause, or, if
there is none, in the end. -/
theorem paced_terminal {granted patience : Nat} (lt : granted < patience) :
    (∃ moment, (program.moments heap config patience)[granted]? = some moment ∧
      ((program.worker heap config).paced granted).view.terminal = moment.scene.terminal) ∨
    (program.moments heap config patience).length ≤ granted ∧
      ((program.worker heap config).paced granted).view.terminal =
        (stateOf (program.course heap config patience (.full []))).terminal := by
  rw [paced_eq]
  rcases @restAt_cases program heap config _ _ lt (.brief []) with
    ⟨steps, few, ⟨_, _, _, ended, -⟩, length⟩ | ⟨view, abandoned, moment, parked, passed, scene⟩
  · -- The recorded course ends alike.
    obtain ⟨_, -, same, -⟩ := restAt_ended (Nat.le_of_lt lt) (by rw [ended]; rfl) (.full [])
    have final : (program.restAt heap config patience (.full [])).isEnded = true := by
      obtain ⟨_, _, _, _, whole, _⟩ := same
      rw [whole]
      rfl
    refine .inr ⟨by omega, ?_⟩
    rw [same.terminal, restAt, terminal_of_ended final]
  · refine .inl ⟨moment, passed, ?_⟩
    rw [parked, scene]
    rfl

/-- What a host sees at a pause has grown from nothing. -/
theorem paced_begins (granted : Nat) :
    Terminal.GrowsTo {} ((program.worker heap config).paced granted).view.terminal := by
  rcases @paced_terminal program heap config _ _ (Nat.lt_succ_self granted) with
    ⟨moment, passed, shown⟩ | ⟨-, shown⟩
  · rw [shown]
    exact (moment_grows_to_end passed).1
  · rw [shown]
    exact end_grows _

/-- A program that is granted more statements has printed the same or more. -/
theorem paced_grows {granted more : Nat} (le : granted ≤ more) :
    ((program.worker heap config).paced granted).view.terminal.GrowsTo
      ((program.worker heap config).paced more).view.terminal := by
  -- Both pauses are looked at in one recorded course, which goes a statement further.
  rcases @paced_terminal program heap config _ _ (Nat.lt_succ_of_le le) with
    ⟨moment, passed, shown⟩ | ⟨few, shown⟩ <;>
  rcases @paced_terminal program heap config _ _ (Nat.lt_succ_self more) with
    ⟨next, further, later⟩ | ⟨-, later⟩
  · rw [shown, later]
    exact moment_grows le passed further
  · rw [shown, later]
    exact (moment_grows_to_end passed).2
  · -- A course that has ended at the first pause has no moment for the second one.
    have inside := (List.getElem?_eq_some_iff.mp further).1
    omega
  · rw [shown, later]
    exact .refl _

/-- A program that has run freely to its end has printed the same as at its last pause, or more. -/
theorem paced_grows_to_free {patience : Nat}
    (ended : ((program.worker heap config).free patience).isEnded = true) (granted : Nat) :
    ((program.worker heap config).paced granted).view.terminal.GrowsTo
      ((program.worker heap config).free patience).view.terminal := by
  rw [free_eq] at ended ⊢
  -- With as many grants as the host had patience for, and with more, the end is the same.
  obtain ⟨_, -, same, -⟩ :=
    restAt_ended (Nat.le_max_right granted patience) ended (.brief [])
  rw [same.terminal, ← paced_eq]
  exact paced_grows (Nat.le_max_left granted patience)

end Program

namespace Machine

/-- Stepping so many times and then some more is stepping as many times in all. -/
theorem stepTimes_add (count more : Nat) :
    stepTimes (count + more) = (do stepTimes count; stepTimes more) := by
  -- The steps that come last are peeled off one at a time.
  induction more with
  | zero =>
    funext machine
    rw [bind_run, Nat.add_zero]
    cases stepTimes count machine <;> rfl
  | succ more ih =>
    rw [← Nat.add_assoc, stepTimes, ih, stepTimes, bind_assoc]

/--
What is printed is captured whole and in order.

After any prints on an empty terminal, its contents are their texts one after the other.
Its chunks are the prints grouped by where they came from: each run of prints from one location is
one chunk, and no two neighbouring chunks come from the same location.
To print some of them first and to go on with the others gives the same terminal.
There are no lines just if the contents are empty.
Otherwise the lines are the only list, not empty and without a line break in any line, that makes up
the contents without a final line break, if there is one.
For every program, what a host sees at a pause has been printed on an empty terminal, and what it
sees at a later pause, or in the end of the same program when it runs freely, has been printed on
top of that; so the output that was seen stays in front.
-/
theorem output_is_captured_whole (prints : List Chunk) :
    let terminal := Terminal.printAll {} prints
    terminal.contents = String.join (prints.map (·.text)) ∧
    (terminal.chunks = (prints.splitBy Terminal.together).map Chunk.joined ∧
      terminal.chunks.IsChain fun one next => one.location ≠ next.location) ∧
    (∀ first rest, prints = first ++ rest →
      (Terminal.printAll {} first).printAll rest = terminal) ∧
    (terminal.lines = [] ↔ terminal.contents = "") ∧
    (terminal.contents ≠ "" → ∀ lines, lines = terminal.lines ↔
      AreLines lines ∧ "\n".intercalate lines = withoutFinalBreak terminal.contents) ∧
    ∀ program config spawns machine started count now,
      create program config spawns = .ok machine →
      startStepping machine = .ok () started → stepTimes count started = .ok () now →
      Terminal.GrowsTo {} now.view.terminal ∧
      (∀ more later, stepTimes more now = .ok () later →
        now.view.terminal.GrowsTo later.view.terminal ∧
          now.view.terminal.contents.toList <+: later.view.terminal.contents.toList) ∧
      ∀ patience ended, runAll patience machine = .ok () ended → ended.isRunning = false →
        now.view.terminal.GrowsTo ended.view.terminal ∧
          now.view.terminal.contents.toList <+: ended.view.terminal.contents.toList := by
  intro terminal
  refine ⟨?_, ⟨Terminal.chunks_printAll prints, ?_⟩, ?_, terminal.lines_eq_nil_iff,
    fun some lines => ?_, ?_⟩
  · -- The contents are what is printed, behind nothing.
    rw [Terminal.contents_printAll]
    exact String.empty_append
  · -- The chunks are kept latest first, and apart from the beginning.
    have fresh : Terminal.Apart {} := List.IsChain.nil
    exact List.isChain_reverse.mpr (fresh.printAll prints)
  · rintro first rest rfl
    exact (Terminal.printAll_append {} first rest).symm
  · -- The lines are cut from the contents, which determine them.
    obtain ⟨are, made⟩ := terminal.areLines_lines some
    constructor
    · rintro rfl
      exact ⟨are, made⟩
    · -- Lines are the pieces of the text that they make up.
      rintro ⟨others, same⟩
      rw [← others.splitLines_intercalate, same, ← made, are.splitLines_intercalate]
  · intro program config spawns machine started count now created began ran
    obtain ⟨heap, -, rfl⟩ := create_eq created
    have fresh := startStepping_stepped began
    have seen := (fresh.of_times ran).view
    rw [seen]
    refine ⟨Program.paced_begins count, fun more later further => ?_,
      fun patience ended whole stopped => ?_⟩
    · -- The steps before the first pause and those behind it are steps from the start.
      have all : stepTimes (count + more) started = .ok () later := by
        rw [stepTimes_add, bind_run, ran]
        exact further
      rw [(fresh.of_times all).view]
      have grows := @Program.paced_grows program heap config _ _ (Nat.le_add_right count more)
      exact ⟨grows, grows.contents⟩
    · obtain ⟨-, halted, thread⟩ := runAll_ended whole stopped
      have shown : ended.view = ((program.worker heap config).free patience).view := by
        rw [view, thread]
        rfl
      rw [shown]
      have grows := Program.paced_grows_to_free halted count
      exact ⟨grows, grows.contents⟩

/-- A program that prints two characters, each in a statement of its own. -/
def sayingHi : Program where
  functions := [{
    name := "main"
    result := .int
    parameters := []
    body := [.expression (.call "putchar" [.int 104]) (.startOfLine 1),
      .expression (.call "putchar" [.int 105]) (.startOfLine 2)] }]

/-- The prints of two statements, of which the first prints twice. -/
def threePrints : List Chunk :=
  [⟨"a", some (.startOfLine 3)⟩, ⟨"b\n", some (.startOfLine 3)⟩, ⟨"c", some (.startOfLine 4)⟩]

/-- Three prints make two chunks and two lines, and a program that says hi is seen to have said its
first letter before it has said both. -/
theorem output_of_sayingHi :
    (Terminal.printAll {} threePrints).contents = "ab\nc" ∧
    (Terminal.printAll {} threePrints).chunks =
      [⟨"ab\n", some (.startOfLine 3)⟩, ⟨"c", some (.startOfLine 4)⟩] ∧
    (Terminal.printAll {} threePrints).lines = ["ab", "c"] ∧
    ∃ machine started now later, create sayingHi { heapSize := 64 } (fun _ => true) = .ok machine ∧
      startStepping machine = .ok () started ∧ stepTimes 1 started = .ok () now ∧
      stepTimes 1 now = .ok () later ∧ now.view.terminal.contents = "h" ∧
      later.view.terminal.contents = "hi" ∧ now.view.terminal.GrowsTo later.view.terminal := by
  obtain ⟨text, ⟨groups, -⟩, -, -, lines, pauses⟩ := output_is_captured_whole threePrints
  -- The lines are the ones that make up the contents, which fixes them.
  have shown : ["ab", "c"] = (Terminal.printAll {} threePrints).lines :=
    (lines (by decide) _).mpr ⟨⟨by simp, by decide⟩, by decide⟩
  let heap : Heap := { Heap.empty with unit := 8, units := 8, unit_pos := by decide }
  have created : create sayingHi { heapSize := 64 } (fun _ => true) =
    .ok { thread := sayingHi.thread heap { heapSize := 64 } fun _ => true } := rfl
  have began := @startStepping_run sayingHi heap { heapSize := 64 } fun _ => true
  rw [if_pos (by decide)] at began
  -- Neither of the first two steps is the last one.
  have started := startStepping_stepped began
  obtain ⟨now, ran, stepped⟩ := started.times 1 (by decide +kernel)
  obtain ⟨later, further, reached⟩ := stepped.step (by decide +kernel)
  obtain ⟨-, grows, -⟩ := pauses _ _ _ _ _ 1 _ created began ran
  refine ⟨text, groups, shown.symm, _, _, now, later, created, began, ran, further, ?_, ?_,
    (grows 1 later further).1⟩
  · rw [stepped.view]
    decide +kernel
  · rw [reached.view]
    decide +kernel

end Machine

end StepMachine
