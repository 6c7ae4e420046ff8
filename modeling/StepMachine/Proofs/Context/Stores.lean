import StepMachine.Proofs.Context.Reachable
import StepMachine.Proofs.Lexical.Simulation

/-! Declaring a variable, binding a parameter and assigning to a variable or to a member of one
change that object and nothing else, if the value takes no more bytes than the object has. -/

namespace StepMachine

/-- A result of pure computing is taken over, and the state stays. -/
theorem Exec.lift_eq_ok {outcome : Except RuntimeError α} {context last : Context} {result : α}
    (ran : (liftM outcome : Exec α) context = .ok result last) :
    outcome = .ok result ∧ last = context := by
  -- A result is handed on with the state as it is.
  cases outcome with
  | ok value =>
    cases ran
    exact ⟨rfl, rfl⟩
  | error cause => cases ran

section Layout

/-- A member lies within its structure. -/
theorem Fields.find?_within {wanted : String} {fields : Fields} {offset : Nat} {type : CType}
    (found : fields.find? wanted = some (offset, type)) : offset + type.size ≤ fields.size := by
  -- The induction follows the search for the member.
  fun_induction Fields.find? wanted fields generalizing offset type with
  | case1 => cases found
  | case2 first rest =>
    cases found
    rw [Fields.size]
    omega
  | case3 name first rest other ih =>
    -- A later member has the first one in front of it.
    obtain ⟨⟨behind, kind⟩, later, same⟩ := Option.map_eq_some_iff.mp found
    cases same
    have inner := ih later
    rw [Fields.size]
    omega

/-- A block has a part that starts at an address and is so long. -/
def Block.Contains (block : Block) (address : Address) (length : Nat) : Prop :=
  ∃ offset, block.part offset length = .ok address

namespace Block.Contains

/-- A block contains all that it has bytes for. -/
theorem whole (block : Block) {length : Nat} (fits : length ≤ block.size) :
    block.Contains block.address length := by
  -- The part begins where the block does.
  refine ⟨0, ?_⟩
  unfold part
  rw [if_pos (by omega), show UInt64.ofNat 0 = 0 from rfl, UInt64.add_zero]

/-- What contains a structure contains its members. -/
theorem member {block : Block} {address : Address} {fields : Fields}
    (inside : block.Contains address fields.size) {wanted : String} {offset : Nat} {type : CType}
    (found : fields.find? wanted = some (offset, type)) :
    block.Contains (address + UInt64.ofNat offset) type.size := by
  -- The structure is a part of the block, and the member a part of the structure.
  obtain ⟨start, part⟩ := inside
  have within := Fields.find?_within found
  unfold Block.part at part
  dsimp only at part
  split at part
  case isFalse => cases part
  case isTrue fits =>
    cases part
    refine ⟨start + offset, ?_⟩
    unfold Block.part
    rw [if_pos (by omega), UInt64.ofNat_add, UInt64.add_assoc]

end Block.Contains

end Layout

section Places

/-- The variable that an expression names, or of which it names a member. -/
def Expr.variable? : Expr → Option String
  | .var name => some name
  | .member object _ => object.variable?
  | _ => none

/-- Only an object that is a structure is read as one, and as its own type says. -/
theorem Heap.load_eq_struct {heap : Heap} {address source : Address} {type : CType}
    {definition : StructDef} (loaded : heap.load address type = .ok (.struct source definition)) :
    source = address ∧ definition.size = type.size := by
  -- Every other type is read from its bytes, which make no structure.
  cases type with
  | struct name fields =>
    unfold load at loaded
    dsimp only at loaded
    split at loaded
    · cases loaded
      exact ⟨rfl, rfl⟩
    · cases loaded
  | void => cases loaded
  -- Anything else is read from its bytes.
  | int =>
    unfold load at loaded
    cases read : heap.readScalar .int address <;> rw [read] at loaded <;> cases loaded
  | char =>
    unfold load at loaded
    cases read : heap.readScalar .char address <;> rw [read] at loaded <;> cases loaded
  | pointer target =>
    unfold load at loaded
    cases read : heap.readScalar .pointer address <;> rw [read] at loaded <;> cases loaded

/-- A name that is looked up stands for what is found, and the state stays. -/
theorem Exec.lookup_eq_ok {name : String} {context last : Context} {object : Variable}
    (looked : lookup name context = .ok object last) :
    context.find? name = some object ∧ last = context := by
  -- The name has to be bound, and then nothing is changed.
  rw [lookup_run] at looked
  cases found : context.find? name with
  | none =>
    rw [found] at looked
    cases looked
  | some bound =>
    rw [found] at looked
    cases looked
    exact ⟨rfl, rfl⟩

/-- An object that is loaded is loaded from the heap, and the state stays. -/
theorem Exec.loadPlace_eq_ok {place : Place} {context last : Context} {value : Value}
    (loaded : loadPlace place context = .ok value last) :
    context.heap.load place.address place.type = .ok value ∧ last = context :=
  lift_eq_ok loaded

/-- A member of a structure lies in the block that contains the structure. -/
theorem Value.member_contains {value : Value} {field : String} {place : Place} {block : Block}
    (found : value.member field = .ok place)
    (inside : ∀ address definition, value = .struct address definition →
      block.Contains address definition.size) :
    block.Contains place.address place.type.size := by
  -- Only a structure has members, and they are found by name.
  cases value with
  | struct address definition =>
    unfold member at found
    dsimp only at found
    split at found
    · rename_i offset type here
      cases found
      exact (inside address definition rfl).member here
    · cases found
  | _ => cases found

/-- Reading a variable or a member of one changes nothing, and a structure that is read lies in the
block of the variable. -/
theorem Expr.eval_variable (invoke : Invoke) {target : Expr} {name : String}
    (named : target.variable? = some name) {context last : Context} {value : Value}
    (evaluated : target.eval invoke context = .ok value last) :
    last = context ∧ ∃ object, context.find? name = some object ∧ (object.Sized →
      ∀ address definition, value = .struct address definition →
        object.block.Contains address definition.size) := by
  -- The induction follows the chain of members down to the variable.
  fun_induction Expr.variable? target generalizing value last with
  | case1 bound =>
    cases named
    rw [Expr.eval] at evaluated
    obtain ⟨object, middle, looked, rest⟩ := exists_of_bind_ok evaluated
    obtain ⟨found, rfl⟩ := Exec.lookup_eq_ok looked
    obtain ⟨loaded, same⟩ := Exec.lift_eq_ok rest
    refine ⟨same, object, found, fun sized address definition struct => ?_⟩
    -- The whole object is read, which has the size of its type.
    rw [struct] at loaded
    obtain ⟨rfl, size⟩ := Heap.load_eq_struct loaded
    exact .whole object.block (Nat.le_of_eq (size.trans sized.symm))
  | case2 inner field ih =>
    rw [Expr.eval] at evaluated
    obtain ⟨outer, middle, read, rest⟩ := exists_of_bind_ok evaluated
    obtain ⟨rfl, object, found, inside⟩ := ih named read
    obtain ⟨place, after, lifted, last⟩ := exists_of_bind_ok rest
    obtain ⟨placed, rfl⟩ := Exec.lift_eq_ok lifted
    obtain ⟨loaded, same⟩ := Exec.loadPlace_eq_ok last
    refine ⟨same, object, found, fun sized address definition struct => ?_⟩
    -- A structure in a structure is read from where the member lies.
    rw [struct] at loaded
    obtain ⟨rfl, size⟩ := Heap.load_eq_struct loaded
    rw [size]
    exact Value.member_contains placed (inside sized)
  | case3 => cases named

/-- The place of a variable or of a member of one lies in the block of the variable, and to find it
changes nothing. -/
theorem Expr.place_variable (invoke : Invoke) {target : Expr} {name : String}
    (named : target.variable? = some name) {context last : Context} {place : Place}
    (placed : target.place invoke context = .ok place last) :
    last = context ∧ ∃ object, context.find? name = some object ∧
      (object.Sized → object.block.Contains place.address place.type.size) := by
  -- A variable is its own place, and a member is placed in what it is a member of.
  cases target with
  | var bound =>
    cases named
    rw [Expr.place] at placed
    obtain ⟨object, middle, looked, yielded⟩ := exists_of_bind_ok placed
    obtain ⟨found, rfl⟩ := Exec.lookup_eq_ok looked
    cases yielded
    exact ⟨rfl, object, found, fun sized => .whole object.block (Nat.le_of_eq sized.symm)⟩
  | member inner field =>
    rw [Expr.place] at placed
    have inner_named : inner.variable? = some name := named
    obtain ⟨outer, middle, read, rest⟩ := exists_of_bind_ok placed
    obtain ⟨rfl, object, found, inside⟩ := eval_variable invoke inner_named read
    obtain ⟨here, same⟩ := Exec.lift_eq_ok rest
    exact ⟨same, object, found, fun sized => Value.member_contains here (inside sized)⟩
  | _ => cases named

end Places

/-- An assignment evaluates the value, finds the place and stores the value there. -/
theorem Expr.eval_assign (invoke : Invoke) {target value : Expr} {context last : Context}
    {result : Value}
    (evaluated : (Expr.assign target value).eval invoke context = .ok result last) :
    ∃ operand middle place placed heap, value.eval invoke context = .ok operand middle ∧
      target.place invoke middle = .ok place placed ∧
      Heap.store place.address place.type operand placed.heap = .ok () heap ∧
      last = { placed with heap } := by
  -- The parts come in the order in which an assignment is evaluated.
  rw [Expr.eval] at evaluated
  obtain ⟨operand, middle, first, rest⟩ := exists_of_bind_ok evaluated
  obtain ⟨place, placed, second, rest⟩ := exists_of_bind_ok rest
  obtain ⟨_, stored, third, rest⟩ := exists_of_bind_ok rest
  obtain ⟨-, rfl⟩ := Exec.loadPlace_eq_ok rest
  refine ⟨operand, middle, place, placed, last.heap, first, second, ?_⟩
  -- To store is an edit of the heap.
  have edited : Exec.edit (Heap.store place.address place.type operand) placed = .ok _ last := third
  rw [Exec.edit_run] at edited
  cases ran : Heap.store place.address place.type operand placed.heap with
  | ok _ heap =>
    rw [ran] at edited
    cases edited
    exact ⟨rfl, rfl⟩
  | error cause heap =>
    rw [ran] at edited
    cases edited

namespace Context

/-- A state in which the program holds its own, and each variable has the size of its type. -/
structure Sound (context : Context) : Prop where
  owns : context.Owns
  sized : context.Sized

/-- Every state that a program can come to on a heap with addresses is sound. -/
theorem Reachable.sound {size unit : Nat} {heap : Heap}
    (created : Heap.create size unit = .ok heap) (addressable : heapBase + size ≤ UInt64.size)
    {program : Program} {depthLimit grants : Nat} {context : Context}
    (reachable : (Context.start program heap depthLimit grants).Reachable context) :
    context.Sound where
  -- Each half is kept by every single step.
  owns := reachable.keeps Exec.steps_own
    (start_owns created addressable program depthLimit grants)
  sized := reachable.keeps Exec.steps_size fun scope member => by
    -- In the beginning there are only the global names, of which there are none.
    cases List.mem_singleton.mp member
    exact .empty

namespace Sound

variable {context last : Context}

/-- A declaration with a value that fits changes the bytes of the new variable, and no byte of
anything that was held. -/
theorem declare (sound : context.Sound) {name : String} {type : CType} {value : Value}
    (fits : value.Fits type) {address : Address}
    (declared : Exec.declare name type (some value) context = .ok address last) :
    context.heap.ChangedWithin last.heap address type.size ∧
      ∀ block ∈ context.owned, context.heap.Untouched last.heap block := by
  -- The object is made first; what it replaces is freed behind.
  rw [Exec.declare_run] at declared
  have holds := Variable.create_holds type (some value) sound.owns.holds
  cases made : Variable.create type (some value) context.heap with
  | error cause heap =>
    rw [made] at declared
    cases declared
  | ok object heap =>
    rw [made] at declared holds
    cases declared
    obtain ⟨typed, sized, changed⟩ := Variable.create_changes made
    have changed := changed fun other same => by
      cases same
      exact fits
    -- Giving up what the name stood for leaves the bytes.
    have freed : context.heap.ChangedWithin (heap.releaseAll
        ((context.currentScope.find? name).toList.map (·.block))) object.address type.size :=
      changed.trans (.of_bytes (heap.releaseAll_bytes _))
    refine ⟨freed, fun block member => ?_⟩
    -- The new object lies apart from all that was held.
    obtain ⟨offset, part⟩ : object.block.Contains object.address type.size :=
      .whole object.block (Nat.le_of_eq (by rw [sized, typed]))
    exact holds.untouched (List.mem_cons_self ..) part freed block
      (List.mem_cons_of_mem _ member) (holds.ne_first member)

/-- A value that fits its place changes that place, and no byte of anything that is held but the
variable of which the place is a part. -/
theorem store (sound : context.Sound) {name : String} {object : Variable}
    (found : context.find? name = some object) {address : Address} {type : CType}
    (inside : object.block.Contains address type.size) {value : Value} (fits : value.Fits type)
    {heap : Heap} (stored : Heap.store address type value context.heap = .ok () heap) :
    context.heap.ChangedWithin heap address type.size ∧
      ∀ block ∈ context.owned, block ≠ object.block → context.heap.Untouched heap block := by
  -- The change is no larger than the place, which is a part of the variable.
  have changed := (Heap.store_changes stored).mono fits
  obtain ⟨offset, part⟩ := inside
  exact ⟨changed, sound.owns.holds.untouched (sound.sized.found found).2 part changed⟩

end Sound

end Context

/-- Each parameter is bound by a declaration, after those in front of it and before the others. -/
theorem Function.bindAll_append {earlier : List (String × CType)} {values : List Value}
    (count : earlier.length = values.length) (name : String) (type : CType) (value : Value)
    (later : List (String × CType)) (others : List Value) :
    bindAll (earlier ++ (name, type) :: later) (values ++ value :: others) = (do
      bindAll earlier values
      discard (Exec.declare name type (some value))
      bindAll later others) := by
  -- The induction is on the parameters in front, which take as many values.
  induction earlier generalizing values with
  | nil =>
    cases List.eq_nil_of_length_eq_zero count.symm
    rfl
  | cons parameter earlier ih =>
    cases values with
    | nil => cases count
    | cons first values =>
      have rest := ih (Nat.succ.inj count)
      simp only [List.cons_append, bindAll, rest, bind_assoc]

/--
Whatever state a program can come to, between its statements or in the midst of them: storing a
value that fits changes the object that it is stored in, and nothing else.

A declaration with an initial value changes only bytes of the new variable, so that every block that
was held before is what it was.
The same is true of each parameter that is bound to an argument.
An assignment to a variable, or to a member of one, first evaluates the value and finds the place;
what it then stores changes only bytes of that place, so that every block that is held, except for
that of the variable itself, is what it was.
A value that is no structure always fits.
A structure fits unless its own definition is larger than that of the object.
All that is asked of the heap is that each of its bytes has an address of 64 bits.
-/
theorem Context.Reachable.stores_stay_inside {size unit : Nat} {heap : Heap}
    (created : Heap.create size unit = .ok heap) (addressable : heapBase + size ≤ UInt64.size)
    {program : Program} {depthLimit grants : Nat} {context : Context}
    (reachable : (Context.start program heap depthLimit grants).Reachable context) :
    (∀ name type value address last, value.Fits type →
      Exec.declare name type (some value) context = .ok address last →
      context.heap.ChangedWithin last.heap address type.size ∧
        ∀ block ∈ context.owned, context.heap.Untouched last.heap block) ∧
    (∀ (earlier later : List (String × CType)) (values others : List Value) name type value last,
      earlier.length = values.length →
      Function.bindAll (earlier ++ (name, type) :: later) (values ++ value :: others) context =
        .ok () last →
      ∃ before address after, Function.bindAll earlier values context = .ok () before ∧
        Exec.declare name type (some value) before = .ok address after ∧
        Function.bindAll later others after = .ok () last ∧
        (value.Fits type → before.heap.ChangedWithin after.heap address type.size ∧
          ∀ block ∈ before.owned, before.heap.Untouched after.heap block)) ∧
    ∀ (target value : Expr) name room result last, target.variable? = some name →
      (Expr.assign target value).eval (Function.invoke room) context = .ok result last →
      ∃ operand before place object,
        value.eval (Function.invoke room) context = .ok operand before ∧
        target.place (Function.invoke room) before = .ok place before ∧
        before.find? name = some object ∧ last = { before with heap := last.heap } ∧
        (operand.Fits place.type →
          before.heap.ChangedWithin last.heap place.address place.type.size ∧
          ∀ block ∈ before.owned, block ≠ object.block →
            before.heap.Untouched last.heap block) := by
  -- The parts of a call or an assignment are single steps too.
  have executes := (Exec.steps_reach (Context.start program heap depthLimit grants)).executes
  refine ⟨fun name type value address last fits declared => ?_,
    fun earlier later values others name type value last count bound => ?_,
    fun target value name room result last named evaluated => ?_⟩
  · -- The declaration is made in the state itself.
    exact (reachable.sound created addressable).declare fits declared
  · -- The parameters in front are bound first.
    rw [Function.bindAll_append count] at bound
    obtain ⟨_, before, first, rest⟩ := exists_of_bind_ok bound
    rw [discard_eq] at rest
    obtain ⟨_, after, declaring, last⟩ := exists_of_bind_ok rest
    obtain ⟨address, middle, declared, yielded⟩ := exists_of_bind_ok declaring
    cases yielded
    refine ⟨before, address, after, first, declared, last, fun fits => ?_⟩
    -- The parameters in front are bound by single steps, which lead to a state of this kind.
    have reached := (executes.bindAll earlier values).keeps_ok reachable first
    exact (reached.sound created addressable).declare fits declared
  · -- The value comes first, and then the place.
    obtain ⟨operand, before, place, placed, heap, first, second, stored, rfl⟩ :=
      Expr.eval_assign _ evaluated
    obtain ⟨rfl, object, found, inside⟩ := Expr.place_variable _ named second
    -- So are the steps by which the value is evaluated.
    have reached :=
      ((executes.expressions (executes.invoke room)).1 value).keeps_ok reachable first
    have sound := reached.sound created addressable
    refine ⟨operand, placed, place, object, first, second, found, rfl, fun fits => ?_⟩
    exact sound.store found (inside (sound.sized.found found).1) fits stored

section Neighbours

/-- Variables one after the other on a fresh heap, with nothing else. -/
def neighbours (declarations : List (String × CType × Option Value)) : Context :=
  declarations.foldl (fun context (name, type, init) => (Step.declare name type init).after context)
    (Context.start {} { Heap.empty with unit := 8, units := 8, unit_pos := by decide } 4 0)

/-- Single steps lead there. -/
theorem neighbours_reachable (declarations : List (String × CType × Option Value)) :
    (neighbours []).Reachable (neighbours declarations) := by
  -- The induction is on the declarations.
  have further (rest : List (String × CType × Option Value)) {context : Context}
      (reached : (neighbours []).Reachable context) :
      (neighbours []).Reachable (rest.foldl (fun context (name, type, init) =>
        (Step.declare name type init).after context) context) := by
    induction rest generalizing context with
    | nil => exact reached
    | cons declaration rest ih => exact ih (reached.step _)
  exact further declarations .start

/-- A number beside a structure is what it was after the structure has got a new member. -/
theorem Context.Reachable.stores_stay_inside_a_member :
    let context := neighbours [("n", .int, some (.int 7)),
      ("s", .struct "S" (.ofList [("a", .int), ("b", .int)]), none)]
    Heap.create 64 8 = .ok (neighbours []).heap ∧ (neighbours []).Reachable context ∧
      ∃ n result last, context.find? "n" = some n ∧
        (Expr.assign (.member (.var "s") "b") (.int 3)).eval (Function.invoke 4) context =
          .ok result last ∧ context.heap.Untouched last.heap n.block := by
  -- Two variables, of which the second one has the member that is assigned to.
  intro context
  have created : Heap.create 64 8 = .ok (neighbours []).heap := rfl
  have reachable : (neighbours []).Reachable context := neighbours_reachable _
  obtain ⟨-, -, assigned⟩ := stores_stay_inside created (by decide) reachable
  have found : context.find? "n" = some ⟨.int, 0x1000, 4, true⟩ := by decide +kernel
  have succeeds : ∃ result last, (Expr.assign (.member (.var "s") "b") (.int 3)).eval
      (Function.invoke 4) context = .ok result last := by
    have ended : (match (Expr.assign (.member (.var "s") "b") (.int 3)).eval
        (Function.invoke 4) context with
        | .ok _ _ => true
        | .error _ _ => false) = true := by
      decide +kernel
    split at ended
    · exact ⟨_, _, ‹_›⟩
    · cases ended
  obtain ⟨result, last, ran⟩ := succeeds
  obtain ⟨operand, before, place, object, evaluated, -, bound, -, apart⟩ :=
    assigned _ _ "s" 4 result last rfl ran
  -- The value is a number, which always fits.
  rw [Expr.eval] at evaluated
  cases evaluated
  have other : object = ⟨.struct "S" (.ofList [("a", .int), ("b", .int)]), 0x1008, 8, true⟩ :=
    Option.some.inj (bound.symm.trans (by decide +kernel))
  refine ⟨created, reachable, _, result, last, found, ran,
    (apart (Nat.le_refl _)).2 _ (by decide +kernel) ?_⟩
  rw [other]
  decide

/-- A structure that is assigned to one of the same name, but of another and smaller definition,
runs over what lies behind: the number there was seven, and is zero. -/
theorem Context.Reachable.larger_structure_runs_over :
    let context := neighbours [("x", .struct "S" (.ofList [("x", .int)]), none),
      ("n", .int, some (.int 7)),
      ("y", .struct "S" (.ofList [("a", .int), ("b", .int), ("c", .int)]), none)]
    Heap.create 64 8 = .ok (neighbours []).heap ∧ (neighbours []).Reachable context ∧
      ∃ x n result last, context.find? "x" = some x ∧ context.find? "n" = some n ∧
        n.block ∈ context.owned ∧ n.block ≠ x.block ∧
        (Expr.assign (.var "x") (.var "y")).eval (Function.invoke 4) context = .ok result last ∧
        (n.load context.heap).toOption = some (.int 7) ∧
        (n.load last.heap).toOption = some (.int 0) ∧
        ¬ context.heap.Untouched last.heap n.block := by
  -- The variables stand in memory in the order in which they are declared.
  intro context
  let x : Variable := ⟨.struct "S" (.ofList [("x", .int)]), 0x1000, 4, true⟩
  let n : Variable := ⟨.int, 0x1008, 4, true⟩
  have ended : (match (Expr.assign (.var "x") (.var "y")).eval (Function.invoke 4) context with
      | .ok _ last => decide ((n.load last.heap).toOption = some (.int 0) ∧ last.heap.byteAt 8 = 0)
      | .error _ _ => false) = true := by
    decide +kernel
  split at ended
  · rename_i result last ran
    have zero := of_decide_eq_true ended
    refine ⟨rfl, neighbours_reachable _, x, n, result, last, by decide +kernel, by decide +kernel,
      by decide +kernel, by decide, ran, by decide +kernel, zero.1, fun untouched => ?_⟩
    -- The first byte of the number has changed.
    have same := untouched 0 (by decide)
    have start : n.block.address.toNat - heapBase + 0 = 8 := by decide +kernel
    have seven : context.heap.byteAt 8 = 7 := by decide +kernel
    rw [start, zero.2, seven] at same
    exact absurd same (by decide)
  · cases ended

end Neighbours

end StepMachine
