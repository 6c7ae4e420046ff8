import StepMachine.Proofs.Eval.Operands
import StepMachine.Proofs.Heap.Liveness
import StepMachine.Proofs.Wary.Steps

/-! A structure that an expression yields is live, and one that a call yields lies in a temporary
object of the caller, where it stays until the calling statement ends. -/

namespace StepMachine

/-- A structure is read only from a live range of its size. -/
theorem Heap.isLive_of_load {heap : Heap} {place source : Address} {type : CType}
    {definition : StructDef} (loaded : heap.load place type = .ok (.struct source definition)) :
    heap.isLive source definition.size = true := by
  -- Only for a type of structures is a structure what is read.
  cases type with
  | struct name fields =>
    -- Nothing is read of a structure, but its range is looked at.
    unfold load at loaded
    dsimp only at loaded
    split at loaded
    · rename_i live
      cases loaded
      exact live
    · cases loaded
  | void => cases loaded
  | int =>
    unfold load at loaded
    cases read : heap.readScalar .int place <;> rw [read] at loaded <;> cases loaded
  | char =>
    unfold load at loaded
    cases read : heap.readScalar .char place <;> rw [read] at loaded <;> cases loaded
  | pointer target =>
    unfold load at loaded
    cases read : heap.readScalar .pointer place <;> rw [read] at loaded <;> cases loaded

namespace Expr

/-- No operation on two values yields a structure. -/
theorem binary_plain (invoke : Invoke) (op : BinaryOp) (left right : Expr) :
    Exec.Gives Value.Plain ((binary op left right).eval invoke) := by
  -- Every operation yields a number, and so does every connective.
  cases op with
  | connective connective =>
    cases connective with
    | and =>
      rw [eval]
      -- The left side decides, or the right side does.
      refine .bind fun _ => .bind fun truth => ?_
      cases truth with
      | true => exact .bind fun _ => .bind fun _ => .pure trivial
      | false => exact .pure trivial
    | or =>
      rw [eval]
      refine .bind fun _ => .bind fun truth => ?_
      cases truth with
      | true => exact .pure trivial
      | false => exact .bind fun _ => .bind fun _ => .pure trivial
  | arithmetic op =>
    rw [eval]
    -- What is computed is a number.
    refine .bind fun _ => .bind fun _ => fun _ _ _ computed => ?_
    exact Value.plain_of_number (Value.arithmetic_number (Exec.lift_eq_ok computed).1)
  | comparison op =>
    rw [eval]
    refine .bind fun _ => .bind fun _ => fun _ _ _ computed => ?_
    exact Value.plain_of_number (Value.compare_number (Exec.lift_eq_ok computed).1)

/-- A structure that an expression yields is live, unless it is the result of a call. -/
theorem isLive_of_eval {invoke : Invoke} {expression : Expr} {context last : Context}
    {address : Address} {definition : StructDef}
    (other : ∀ function arguments, expression ≠ .call function arguments)
    (evaluated : expression.eval invoke context = .ok (.struct address definition) last) :
    last.heap.isLive address definition.size = true := by
  -- A structure comes from a place, which is checked when it is read.
  cases expression with
  | int n => rw [eval] at evaluated; cases evaluated
  | char c => rw [eval] at evaluated; cases evaluated
  | null => rw [eval] at evaluated; cases evaluated
  | string index =>
    rw [eval] at evaluated
    obtain ⟨_, _, -, rest⟩ := exists_of_bind_ok evaluated
    cases rest
  | addressOf operand =>
    rw [eval] at evaluated
    obtain ⟨_, _, -, rest⟩ := exists_of_bind_ok evaluated
    cases rest
  | var name =>
    rw [eval] at evaluated
    obtain ⟨object, middle, -, rest⟩ := exists_of_bind_ok evaluated
    obtain ⟨loaded, rfl⟩ := Exec.lift_eq_ok rest
    exact Heap.isLive_of_load loaded
  | binary op left right => exact (binary_plain invoke op left right _ _ _ evaluated).elim
  | unary op operand =>
    rw [eval] at evaluated
    obtain ⟨value, middle, -, rest⟩ := exists_of_bind_ok evaluated
    exact (Value.plain_of_number (Value.unary_number (Exec.lift_eq_ok rest).1)).elim
  | deref pointer type =>
    rw [eval] at evaluated
    obtain ⟨value, _, -, rest⟩ := exists_of_bind_ok evaluated
    obtain ⟨place, _, -, rest⟩ := exists_of_bind_ok rest
    obtain ⟨loaded, rfl⟩ := Exec.loadPlace_eq_ok rest
    exact Heap.isLive_of_load loaded
  | member object field =>
    rw [eval] at evaluated
    obtain ⟨value, _, -, rest⟩ := exists_of_bind_ok evaluated
    obtain ⟨place, _, -, rest⟩ := exists_of_bind_ok rest
    obtain ⟨loaded, rfl⟩ := Exec.loadPlace_eq_ok rest
    exact Heap.isLive_of_load loaded
  | assign target value =>
    rw [eval] at evaluated
    obtain ⟨_, _, -, rest⟩ := exists_of_bind_ok evaluated
    obtain ⟨place, _, -, rest⟩ := exists_of_bind_ok rest
    obtain ⟨_, _, -, rest⟩ := exists_of_bind_ok rest
    obtain ⟨loaded, rfl⟩ := Exec.loadPlace_eq_ok rest
    exact Heap.isLive_of_load loaded
  | call function arguments => exact absurd rfl (other function arguments)

end Expr

/-- What is copied to a block fits into it and stood in a live range, and nothing else is
written. -/
theorem Block.fillFrom_eq_ok {block : Block} {source : Address} {length : Nat} {heap last : Heap}
    (filled : block.fillFrom source length heap = .ok () last) :
    length ≤ block.size ∧ heap.Accessible source length ∧ ∃ bytes, bytes.length = length ∧
      heap.Shows source bytes ∧ heap.Overwritten block.address bytes last := by
  have fits := Exec.fillFrom_fits filled
  -- The bytes are read as a whole and then written, so that both ranges have been checked.
  unfold Block.fillFrom at filled
  by_cases readable : heap.Accessible source length
  · obtain ⟨bytes, read, size, shows⟩ := readable.read
    subst size
    have whole : block.write 0 bytes = Heap.write block.address bytes := by
      rw [Block.write_within (by omega), show UInt64.ofNat 0 = 0 from rfl, UInt64.add_zero]
    rw [read] at filled
    dsimp only at filled
    rw [whole] at filled
    by_cases writable : heap.Accessible block.address bytes.length
    · obtain ⟨after, wrote, overwritten⟩ := writable.write
      rw [wrote] at filled
      cases filled
      exact ⟨fits, readable, bytes, rfl, shows, overwritten⟩
    · rw [Heap.write_inaccessible writable] at filled
      cases filled
  · rw [Heap.read_inaccessible readable] at filled
    cases filled

/-- Two heaps have the same bytes in two ranges. -/
def Heap.SameBytes (heap : Heap) (address : Address) (other : Heap) (source : Address)
    (length : Nat) : Prop :=
  ∀ index, index < length → heap.byteAt (address.toNat - heapBase + index) =
    other.byteAt (source.toNat - heapBase + index)

namespace Exec

/-- A structure that is handed over to storage was live, and is copied there. -/
theorem handOver_eq_struct {value : Value} {context last : Context} {address : Address}
    {definition : StructDef} {storage : Block}
    (handed : handOver value context = .ok (.struct address definition) last)
    (stored : context.buffer? = some storage) :
    ∃ source, value = .struct source definition ∧ address = storage.address ∧
      definition.size ≤ storage.size ∧ context.heap.Accessible source definition.size ∧
      last.heap.SameBytes address context.heap source definition.size := by
  -- What is handed over depends on whether there is storage for it.
  unfold handOver at handed
  rw [bind_run, get_run] at handed
  unfold Context.buffer? at stored
  -- Only a structure is copied, and only to storage that is there.
  cases value with
  | struct source copied =>
    simp only [stored] at handed
    obtain ⟨_, filled, wrote, rest⟩ := exists_of_bind_ok handed
    cases rest
    obtain ⟨heap, changed, rfl⟩ := edit_eq_ok wrote
    obtain ⟨fits, readable, bytes, size, shows, overwritten⟩ :=
      Block.fillFrom_eq_ok (Edit.ok_of_liftMemory changed)
    refine ⟨source, rfl, rfl, fits, readable, fun index within => ?_⟩
    -- Both ranges show the bytes that were read.
    rw [← size] at within
    exact (overwritten.shows index within).trans (shows index within).symm
  | _ => cases handed

/-- A name is looked up without changing anything. -/
theorem resolve_eq_ok {name : String} {context last : Context} {callee : Callable}
    (resolved : resolve name context = .ok callee last) : last = context := by
  -- A name is that of a function of the program, of one of the machine, or of none.
  simp only [resolve, bind_run, get_run] at resolved
  -- Functions of the program come before those of the machine.
  cases defined : context.program.function? name with
  | some function =>
    simp only [defined] at resolved
    cases resolved
    rfl
  | none =>
    cases provided : Builtin.ofName? name <;> simp only [defined, provided] at resolved <;>
      cases resolved
    rfl

/-- An evaluation that succeeds leaves the temporary objects and adds to them. -/
theorem Obeys.temporaries_ok {run : Exec α} (obeys : Obeys Effect.evaluation run)
    {context last : Context} {result : α} (ran : run context = .ok result last) :
    context.temporaries.toList <+: last.temporaries.toList := by
  -- What was there stands in front in the state that is left.
  have grown := obeys.temporaries_evaluation context
  unfold after at grown
  rw [ran] at grown
  exact grown

/-- Storage for a structure is a new temporary object as a whole. -/
theorem returnBuffer_eq_ok {type : CType} {context last : Context} {buffer : Option Block}
    (struct : type.isStruct = true) (made : returnBuffer type context = .ok buffer last) :
    ∃ object : Variable, buffer = some ⟨object.block.address, object.block.size, false⟩ ∧
      last.temporaries = context.temporaries.push object := by
  unfold returnBuffer at made
  -- A structure is given a temporary object, and all of it is the storage.
  rw [if_pos struct] at made
  obtain ⟨object, middle, allocated, rest⟩ := exists_of_bind_ok made
  have whole : object.block.slice 0 object.block.size =
      .ok ⟨object.block.address, object.block.size, false⟩ := by
    unfold Block.slice Block.part
    rw [if_pos (by omega), show UInt64.ofNat 0 = 0 from rfl, UInt64.add_zero]
    rfl
  rw [whole] at rest
  cases rest
  refine ⟨object, rfl, ?_⟩
  -- The object stands behind those that were there before.
  rw [temporary_run] at allocated
  cases taken : Variable.allocate type context.heap with
  | error cause heap =>
    rw [taken] at allocated
    cases allocated
  | ok fresh heap =>
    rw [taken] at allocated
    cases allocated
    rfl

end Exec

namespace Expr

/-- A call evaluates its arguments, makes room for the result and comes to a return statement of a
function of the program. -/
def CallDeparts (room : Nat) (name : String) (arguments : List Expr) (context : Context)
    (operand : Expr) (leaving : Context) : Prop :=
  ∃ function values passed buffer prepared,
    Exec.resolve name context = .ok (.function function) context ∧
    evalAll (Function.invoke (room + 1)) arguments context = .ok values passed ∧
    Exec.returnBuffer function.result passed = .ok buffer prepared ∧
    function.Departs room values buffer prepared operand leaving

/-- A structure that a call has yielded lies in a temporary object that was made in the course of
it, and has the bytes which the operand of the return statement that was come to had there. -/
structure Yielded (room : Nat) (name : String) (arguments : List Expr) (context : Context)
    (address : Address) (definition : StructDef) (last : Context) (index : Nat)
    (object : Variable) : Prop where
  newer : context.temporaries.size ≤ index
  there : last.temporaries[index]? = some object
  start : address = object.address
  fits : definition.size ≤ object.block.size
  copied : ∃ deeper operand leaving source evaluated, room = deeper + 1 ∧
    CallDeparts deeper name arguments context operand leaving ∧
    operand.eval (Function.invoke deeper) leaving = .ok (.struct source definition) evaluated ∧
    evaluated.heap.Accessible source definition.size ∧
    last.heap.SameBytes address evaluated.heap source definition.size

/-- The temporary object is among those that there are. -/
theorem Yielded.enough {room index : Nat} {name : String} {arguments : List Expr}
    {context last : Context} {address : Address} {definition : StructDef} {object : Variable}
    (yielded : Yielded room name arguments context address definition last index object) :
    index + 1 ≤ last.temporaries.size := by
  -- What is found at an index is within the array.
  obtain ⟨inside, -⟩ := Array.getElem?_eq_some_iff.mp yielded.there
  exact inside

/-- So it is with every structure that a call yields. -/
theorem eval_call_struct {room : Nat} {name : String} {arguments : List Expr}
    {context last : Context} {address : Address} {definition : StructDef}
    (called : (call name arguments).eval (Function.invoke room) context =
      .ok (.struct address definition) last) :
    ∃ index object, Yielded room name arguments context address definition last index object := by
  -- The name, the arguments, the storage and the call come one after the other.
  rw [eval] at called
  obtain ⟨callee, found, resolved, rest⟩ := exists_of_bind_ok called
  obtain rfl := Exec.resolve_eq_ok resolved
  obtain ⟨values, passed, ran, rest⟩ := exists_of_bind_ok rest
  obtain ⟨buffer, prepared, made, rest⟩ := exists_of_bind_ok rest
  cases callee with
  | builtin builtin => exact (Exec.builtin_plain builtin values _ _ _ rest).elim
  | function function =>
    -- The structure came out of the function by a return, whose operand it was.
    obtain ⟨struct, deeper, operand, leaving, value, evaluated, handed, rfl, departs, valued, gave,
      storage, bytes⟩ := Function.invoke_eq_struct rest
    obtain ⟨object, rfl, pushed⟩ := Exec.returnBuffer_eq_ok struct made
    obtain ⟨source, rfl, start, fits, readable, same⟩ := Exec.handOver_eq_struct gave storage
    -- Neither the arguments nor the call release what they find.
    have calls := Exec.executes_confined.invoke (deeper + 1)
    have lists := (Exec.evaluates_undisturbed.expressions calls).2.1
    have earlier := (lists arguments).temporaries_ok ran
    have later := (calls function values _).temporaries_ok rest
    rw [pushed] at later
    refine ⟨passed.temporaries.size, object, ?_, ?_, start, fits, deeper, operand, leaving, source,
      evaluated, rfl, ⟨function, values, passed, _, prepared, resolved, ran, made, departs⟩, valued,
      readable, fun index within => ?_⟩
    · simpa using earlier.length_le
    · -- The call has added its own objects behind that of the caller, if any.
      obtain ⟨newer, grown⟩ := later
      rw [← Array.getElem?_toList, ← grown]
      simp
    · rw [← same index within, Heap.byteAt_eq, Heap.byteAt_eq, bytes]

end Expr

namespace Context

/-- A temporary object is live from its start on. -/
theorem Owns.isLive_temporary {context : Context} (owns : context.Owns) {index length : Nat}
    {object : Variable} (there : context.temporaries[index]? = some object) (some : 0 < length)
    (fits : length ≤ object.block.size) : context.heap.isLive object.address length = true := by
  -- The program holds the block of the object, and what it holds is live.
  have member : object.block ∈ context.owned := by
    have held : object ∈ context.temporaries.toList := by
      rw [← Array.getElem?_toList] at there
      exact List.mem_of_getElem? there
    simp only [owned, List.mem_append, List.mem_map]
    exact .inl (.inl (.inr ⟨object, held, rfl⟩))
  have located := owns.holds.locate_part member some (show 0 + length ≤ object.block.size by omega)
  rw [show UInt64.ofNat 0 = 0 from rfl, UInt64.add_zero] at located
  exact Heap.isLive_iff.mpr (Heap.accessible_of_locate located)

end Context

/-- A range is live from where a part of a computation has ended until the computation releases all
but the oldest `mark` temporary objects, at each of the steps that it takes in between. Behind that
it only notes which statements are under way. -/
def Exec.LiveUntilRelease (run : Exec α) (context : Context) (part : Exec β) (reached : Context)
    (address : Address) (length mark : Nat) : Prop :=
  ∃ before inner steps behind,
    Account run context (before ++ inner ++ steps ++ .releaseTemporaries mark :: behind) ∧
    Step.walk before context = reached ∧ Account part reached inner ∧
    (∀ step ∈ behind, ∃ active, step = .activate active) ∧
    ∀ done, done <+: steps →
      (Step.walk done (part.after reached)).heap.isLive address length = true

namespace Expr.Yielded

variable {room index : Nat} {name : String} {arguments : List Expr} {context last : Context}
  {address : Address} {definition : StructDef} {object : Variable}

/-- A structure that a call has yielded is not empty. -/
theorem size_pos
    (yielded : Yielded room name arguments context address definition last index object) :
    0 < definition.size := by
  -- Its bytes could be accessed, and no empty range can.
  obtain ⟨_, _, _, _, _, -, -, -, readable, -⟩ := yielded.copied
  exact readable.some

/-- A structure that a call has yielded is live for as long as its temporary object is spared. -/
theorem isLive_walk
    (yielded : Yielded room name arguments context address definition last index object)
    (owns : ∀ steps, (Step.walk steps last).Owns) {steps : List Step}
    (spare : ∀ step ∈ steps, step.Spares (index + 1)) :
    (Step.walk steps last).heap.isLive address definition.size = true := by
  -- Its temporary object is spared, so it is where it was.
  have same := Step.walk_sameOldest spare yielded.enough
  have there := (same.getElem? (Nat.lt_succ_self index)).trans yielded.there
  rw [yielded.start]
  exact (owns steps).isLive_temporary there yielded.size_pos yielded.fits

/-- So it is live at each step of a statement, or of a test, up to the release. -/
theorem exists_account
    (yielded : Yielded room name arguments context address definition last index object)
    (called : (call name arguments).eval (Function.invoke room) context =
      .ok (.struct address definition) last)
    (owns : ∀ steps, (Step.walk steps last).Owns) {run : Exec α} {first : Context}
    (comes : Exec.ComesTo run first ((call name arguments).eval (Function.invoke room)) context) :
    ∃ before inner steps, Exec.Account run first (before ++ inner ++ steps) ∧
      Step.walk before first = context ∧
      Exec.Account ((call name arguments).eval (Function.invoke room)) context inner ∧
      ∀ done, done <+: steps → (Step.walk done
        (((call name arguments).eval (Function.invoke room)).after context)).heap.isLive
          address definition.size = true := by
  -- The call is the last thing that has happened before the steps behind it.
  have left : ((call name arguments).eval (Function.invoke room)).after context = last := by
    unfold Exec.after
    rw [called]
    rfl
  -- The steps up to the call, those of the call and those behind it make up the account.
  obtain ⟨before, way, rest⟩ := comes
  have shelters mark := (Exec.executes_sheltering mark).invoke room
  obtain ⟨inner, account⟩ :=
    (Exec.eval_shelters shelters (call name arguments) 0).exists_account context
  -- All that comes behind the call spares what the call has left.
  obtain ⟨steps, whole, spare⟩ := rest inner (index + 1) account (left ▸ yielded.enough)
  refine ⟨before, inner, steps, whole, way, account, fun done part => ?_⟩
  rw [left]
  exact yielded.isLive_walk owns fun step member => spare step (part.subset member)

end Expr.Yielded

/--
Structures that are yielded never dangle, and calls yield them by value, wherever a program can
come to from its start on a fresh heap.

A structure that an expression yields is not empty, and is live at that moment.
One that a call yields lies in a temporary object that was made in the course of the call, and not
in anything that the function held.
Its bytes are those which the operand of a return statement had: the one that the function came to,
when that had been evaluated.
It stays live along any steps that spare this temporary object, whatever else they store, call or
give back.
Such are all the steps of a statement from where it has made the call, wherever in its expression
that stands, to where it releases its own temporary objects; and so are those of a loop's test.
-/
theorem Context.Reachable.struct_results_never_dangle {size unit : Nat} {heap : Heap}
    (created : Heap.create size unit = .ok heap) (addressable : heapBase + size ≤ UInt64.size)
    {program : Program} {depthLimit grants : Nat} {context : Context}
    (reachable : (Context.start program heap depthLimit grants).Reachable context) (room : Nat) :
    (∀ (expression : Expr) address definition last,
      expression.eval (Function.invoke room) context = .ok (.struct address definition) last →
      0 < definition.size ∧ last.heap.isLive address definition.size = true) ∧
    (∀ name arguments address definition last,
      (Expr.call name arguments).eval (Function.invoke room) context =
        .ok (.struct address definition) last →
      ∃ index object,
        Expr.Yielded room name arguments context address definition last index object ∧
        ∀ steps, (∀ step ∈ steps, step.Spares (index + 1)) →
          (Step.walk steps last).heap.isLive address definition.size = true) ∧
    (∀ (statement : Stmt) expression begun name arguments reached address definition last,
      Exec.Begins statement.location context begun → statement.expression? = some expression →
      expression.Within (Function.invoke room) begun (.call name arguments) reached →
      (Expr.call name arguments).eval (Function.invoke room) reached =
        .ok (.struct address definition) last →
      Exec.LiveUntilRelease (statement.exec (Function.invoke room)) context
        ((Expr.call name arguments).eval (Function.invoke room)) reached address definition.size
        context.temporaries.size) ∧
    ∀ (condition : Expr) name arguments reached address definition last,
      condition.Within (Function.invoke room) context (.call name arguments) reached →
      (Expr.call name arguments).eval (Function.invoke room) reached =
        .ok (.struct address definition) last →
      Exec.LiveUntilRelease (Exec.alone (Exec.test (Function.invoke room) condition)) context
        ((Expr.call name arguments).eval (Function.invoke room)) reached address definition.size
        context.temporaries.size := by
  -- Every state on the way is one that the program can come to.
  have executes := (Exec.steps_reach (Context.start program heap depthLimit grants)).executes
  have evaluations := (executes.expressions (executes.invoke room)).1
  have shelters mark := (Exec.executes_sheltering mark).invoke room
  have owned {state : Context}
      (reached : (Context.start program heap depthLimit grants).Reachable state)
      (steps : List Step) : (Step.walk steps state).Owns :=
    ((Step.walk_reachable reached steps).sound created addressable).owns
  refine ⟨fun expression address definition last evaluated => ?_,
    fun name arguments address definition last called => ?_,
    fun statement expression begun name arguments reached address definition last begins own within
      called => ?_,
    fun condition name arguments reached address definition last within called => ?_⟩
  · have live : last.heap.isLive address definition.size = true := by
      -- What a call yields lies in a temporary object, and anything else has just been read.
      cases expression with
      | call name arguments =>
        obtain ⟨index, object, yielded⟩ := Expr.eval_call_struct evaluated
        exact yielded.isLive_walk (owned ((evaluations _).keeps_ok reachable evaluated))
          (List.forall_mem_nil _)
      | _ => exact Expr.isLive_of_eval (fun _ _ same => by cases same) evaluated
    exact ⟨(Heap.isLive_iff.mp live).some, live⟩
  · -- The temporary object of the call is found, and the steps spare it.
    obtain ⟨index, object, yielded⟩ := Expr.eval_call_struct called
    exact ⟨index, object, yielded, fun steps =>
      yielded.isLive_walk (owned ((evaluations _).keeps_ok reachable called))⟩
  · -- The call is found in the statement, and the statement in its account.
    obtain ⟨index, object, yielded⟩ := Expr.eval_call_struct called
    -- The state in which the call is made is one that the program can come to.
    have made := Exec.reachable_within within (begins.reachable reachable)
    obtain ⟨effect, same, comes⟩ := Exec.exec_comesTo shelters own
    obtain ⟨before, inner, steps, whole, way, account, live⟩ :=
      yielded.exists_account called (owned ((evaluations _).keeps_ok made called))
        ((comes begun).trans (Exec.eval_comesTo shelters within))
    obtain ⟨behind, took, noted⟩ := whole.statement begins
    rw [← same] at took
    refine ⟨[.activate (statement.location :: context.active), .enter statement.location] ++ before,
      inner, steps, behind, by simpa using took, ?_, account, noted, live⟩
    -- The statement is put under way and let in before anything else.
    rw [Step.walk_append, begins.walk, way]
  · -- As in a statement, but the test begins with nothing in front of it.
    obtain ⟨index, object, yielded⟩ := Expr.eval_call_struct called
    have made := Exec.reachable_within within reachable
    have comes := (Exec.test_comesTo condition context).trans (Exec.eval_comesTo shelters within)
    obtain ⟨before, inner, steps, whole, way, account, live⟩ :=
      yielded.exists_account called (owned ((evaluations _).keeps_ok made called)) comes
    exact ⟨before, inner, steps, [], whole.alone, way, account, nofun, live⟩

section Pairs

/-- A function that returns a structure of its own. -/
def pairing : Program where
  functions := [
    { name := "pair"
      result := .struct "Pair" (.ofList [("a", .int), ("b", .int)])
      parameters := []
      body := [
        .declare "p" (.struct "Pair" (.ofList [("a", .int), ("b", .int)])) none (.startOfLine 2),
        .expression (.assign (.member (.var "p") "b") (.int 5)) (.startOfLine 3),
        .ret (some (.var "p")) (.startOfLine 4)] }]

/-- A statement reads a member of what that function returns: the structure is live when it is
yielded, and until the statement releases it. -/
theorem Context.Reachable.struct_results_never_dangle_in_a_member :
    ∃ heap, Heap.create 64 8 = .ok heap ∧
      let context := Context.start pairing heap 4 9
      let location := Location.startOfLine 1
      let statement := Stmt.expression (.member (.call "pair" []) "b") location
      let definition : StructDef := ⟨"Pair", .ofList [("a", .int), ("b", .int)]⟩
      ∃ begun last, Exec.Begins location context begun ∧
        (Expr.call "pair" []).eval (Function.invoke 4) begun =
          .ok (.struct 0x1000 definition) last ∧
        0 < definition.size ∧ last.heap.isLive 0x1000 definition.size = true ∧
        (∃ index object, Expr.Yielded 4 "pair" [] begun 0x1000 definition last index object) ∧
        Exec.LiveUntilRelease (statement.exec (Function.invoke 4)) context
          ((Expr.call "pair" []).eval (Function.invoke 4)) begun 0x1000 definition.size 0 := by
  have created : Heap.create 64 8 = .ok _ := rfl
  refine ⟨_, created, ?_⟩
  -- The program is run on a small arena, up to the member access.
  intro context location statement definition
  have reachable : context.Reachable context := .start
  let begun := { context with active := [location] }.entered location 8
  have begins : Exec.Begins location context begun := ⟨rfl, rfl⟩
  have ended : (match (Expr.call "pair" []).eval (Function.invoke 4) begun with
      | .ok value _ => decide (value = .struct 0x1000 definition)
      | .error _ _ => false) = true := by
    decide +kernel
  split at ended
  · rename_i value last called
    obtain rfl := of_decide_eq_true ended
    obtain ⟨live, yielded, -⟩ :=
      struct_results_never_dangle created (by decide) (begins.reachable reachable) 4
    obtain ⟨-, -, stays, -⟩ := struct_results_never_dangle created (by decide) reachable 4
    obtain ⟨some, whole⟩ := live _ _ definition last called
    obtain ⟨index, object, lies, -⟩ := yielded _ _ _ definition last called
    exact ⟨begun, last, begins, called, some, whole, ⟨index, object, lies⟩,
      stays statement _ begun _ _ begun _ definition last begins rfl
        (.inside (.base begun rfl) (.itself _ begun)) called⟩
  · cases ended

end Pairs

end StepMachine
