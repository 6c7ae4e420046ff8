import StepMachine.Proofs.Context.Dynamic
import StepMachine.Proofs.Context.Stores
import StepMachine.Proofs.Heap.RoundTrip

/-! A declaration that fails leaves everything in use as it was. One that succeeds binds the name to
an object on units that were free, frees what the name was bound to in the same scope, and leaves
all other names alone. -/

namespace StepMachine

section Layout

mutual

/-- The objects without members that an object of a type is made of, at any depth, each with the
number of bytes in front of it. -/
def CType.leaves (front : Nat) : CType → List (Nat × CType)
  | .struct _ fields => fields.leaves front
  | type => [(front, type)]

/-- Those that the members of a structure are made of. -/
def Fields.leaves (front : Nat) : Fields → List (Nat × CType)
  | .none => []
  | .field _ type rest => type.leaves front ++ rest.leaves (front + type.size)

end

mutual

/-- What an object is made of lies within the object. -/
theorem CType.leaves_within {front : Nat} {leaf : Nat × CType} : (type : CType) →
    leaf ∈ type.leaves front → front ≤ leaf.1 ∧ leaf.1 + leaf.2.size ≤ front + type.size
  | .struct _ fields, member => by
    rw [CType.leaves] at member
    rw [CType.size]
    exact fields.leaves_within member
  | .void, member | .int, member | .char, member | .pointer _, member => by
    cases List.mem_singleton.mp member
    exact ⟨Nat.le_refl _, Nat.le_refl _⟩

/-- What members are made of lies within the structure. -/
theorem Fields.leaves_within {front : Nat} {leaf : Nat × CType} : (fields : Fields) →
    leaf ∈ fields.leaves front → front ≤ leaf.1 ∧ leaf.1 + leaf.2.size ≤ front + fields.size
  | .none, member => by cases member
  | .field _ type rest, member => by
    rw [Fields.leaves] at member
    rw [Fields.size]
    -- It belongs to the first member, or to one behind it.
    rcases List.mem_append.mp member with here | later
    · have inner := type.leaves_within here
      omega
    · have inner := rest.leaves_within later
      omega

end

end Layout

/-- Zero stands for itself in every format. -/
theorem Scalar.ofResidue_zero (scalar : Scalar) : scalar.ofResidue 0 = 0 := by
  have some : 0 < span256 scalar.size := by
    rw [Scalar.size]
    -- Every format is at least one byte wide.
    cases scalar.width <;> decide
  rw [Scalar.ofResidue, if_neg (by omega)]
  rfl

namespace Heap

variable {heap last : Heap} {blocks : List Block}

/-- Which units a block covers depends on how large they are. -/
theorem covers_congr (unit : last.unit = heap.unit) (index : Nat) (block : Block) :
    last.covers index block = heap.covers index block := by
  -- Both the first unit and the number of units are computed from that size.
  rw [Bool.eq_iff_iff, covers_iff, covers_iff, firstUnit, firstUnit, unitsFor, unitsFor, unit]

/-- What can be accessed in two heaps alike, and has the same bytes, is loaded alike. -/
theorem load_congr {address : Address} {type : CType}
    (same : last.Accessible address type.size ↔ heap.Accessible address type.size)
    (bytes : heap.Accessible address type.size → ∀ index, index < type.size →
      last.byteAt (address.toNat - heapBase + index) =
        heap.byteAt (address.toNat - heapBase + index)) :
    last.load address type = heap.load address type := by
  -- Either the type has a format and is read as a scalar, or it has none.
  cases formed : type.format? with
  | some format =>
    rw [CType.size_of_format formed] at same bytes
    rw [load_of_format last address formed, load_of_format heap address formed]
    -- A scalar is read from its bytes, if they can be accessed.
    by_cases accessible : heap.Accessible address format.size
    · rw [readScalar, readScalar, accessible.locate, (same.mpr accessible).locate]
      have number := numberAt_congr (bytes accessible)
      simp only [bind, Except.bind, number]
    · have neither := mt same.mp accessible
      rw [readScalar_inaccessible accessible, readScalar_inaccessible neither]
  | none =>
    cases type with
    | struct name fields =>
      -- A structure is not read, but has to be live.
      have live : last.isLive address fields.size = heap.isLive address fields.size := by
        rw [Bool.eq_iff_iff, isLive_iff, isLive_iff]
        exact same
      rw [load, load, live]
    | void => rfl
    | int | char | pointer => cases formed

/-- Zero bytes of a block that is held are loaded as zero or null. -/
theorem Holds.load_zero (holds : heap.Holds blocks) {block : Block} (member : block ∈ blocks)
    (zero : ∀ index, index < block.size →
      heap.byteAt (block.address.toNat - heapBase + index) = 0)
    {offset : Nat} {type : CType} (scalar : type.isScalar = true)
    (within : offset + type.size ≤ block.size) :
    heap.load (block.address + UInt64.ofNat offset) type = .ok (type.ofNumber 0) := by
  -- A scalar is read through its format, from as many bytes as that is wide.
  obtain ⟨format, formed⟩ := Option.isSome_iff_exists.mp scalar
  rw [CType.size_of_format formed] at within
  have some : 0 < format.size := by
    rw [Scalar.size]
    cases format.width <;> decide
  -- The part starts behind the first unit of the block.
  have start : heap.firstUnit block * heap.unit = block.address.toNat - heapBase := by
    rw [(holds.seated block member).address, Nat.add_sub_cancel_left]
  have number : heap.numberAt (heap.firstUnit block * heap.unit + offset) format.size = 0 := by
    apply numberAt_zero
    intro index inside
    rw [start, Nat.add_assoc]
    exact zero (offset + index) (by omega)
  have read : heap.readScalar format (block.address + UInt64.ofNat offset) = .ok 0 := by
    rw [readScalar, holds.locate_part member some within]
    simp only [bind, Except.bind, number, format.ofResidue_zero]
    rfl
  rw [load_of_format heap _ formed, read]

/-- Nothing in use tells two heaps apart: the same units of the same arena are live, as many bytes
are used, and each byte of a live unit is the same. -/
structure Alike (heap last : Heap) : Prop where
  unit : last.unit = heap.unit
  units : last.units = heap.units
  live : ∀ unit, last.unitLive unit = heap.unitLive unit
  usedBytes : last.usedBytes = heap.usedBytes
  bytes : ∀ position, heap.unitLive (position / heap.unit) = true →
    last.byteAt position = heap.byteAt position

namespace Alike

/-- The same ranges can be accessed. -/
theorem accessible_iff (alike : heap.Alike last) (address : Address) (length : Nat) :
    last.Accessible address length ↔ heap.Accessible address length := by
  constructor
  · -- The other way round the same units are live.
    intro accessible
    exact accessible.along alike.unit.symm alike.units.symm fun index => (alike.live index).symm
  · intro accessible
    exact accessible.along alike.unit alike.units alike.live

/-- Everything is loaded alike, at any address. -/
theorem load (alike : heap.Alike last) (address : Address) (type : CType) :
    last.load address type = heap.load address type := by
  -- A load looks at the accessible bytes only.
  apply load_congr (alike.accessible_iff address type.size)
  intro accessible index within
  exact alike.bytes _ (accessible.live index within)

end Alike

/-- A block that has come to be held takes units that were free, and makes just them live. -/
theorem Holds.added {block : Block} (before : heap.Holds blocks)
    (after : last.Holds (block :: blocks)) (unit : last.unit = heap.unit) (index : Nat) :
    (heap.covers index block = true → heap.unitLive index = false) ∧
      last.unitLive index = (heap.covers index block || heap.unitLive index) := by
  have covers : last.covers index = heap.covers index := funext (covers_congr unit index)
  -- By the ledgers, the unit belongs to one block at most, before and after.
  have old := before.ledger index
  have new := after.ledger index
  rw [List.countP_cons, covers, old] at new
  cases own : heap.covers index block <;> cases used : heap.unitLive index <;>
    cases now : last.unitLive index <;> simp [own, used, now] at new ⊢

/-- Changes within a block on units that were free leave each byte of a live unit. -/
theorem ChangedWithin.live_bytes {block : Block} {between : Heap}
    (changed : heap.ChangedWithin last block.address block.size)
    (holds : between.Holds (block :: blocks)) (unit : between.unit = heap.unit)
    (free : ∀ index, heap.covers index block = true → heap.unitLive index = false)
    {position : Nat} (live : heap.unitLive (position / heap.unit) = true) :
    last.byteAt position = heap.byteAt position := by
  -- A byte that differs would lie in the block, in a unit that was free.
  apply Decidable.byContradiction
  intro different
  have inside := changed position different
  have low := (holds.seated block (List.mem_cons_self ..)).address
  -- The byte that has changed lies in the block, and so in a unit that was free.
  have covered := holds.covers_byte (List.mem_cons_self ..)
    (show position - (block.address.toNat - heapBase) < block.size by omega)
  have here : block.address.toNat - heapBase + (position - (block.address.toNat - heapBase)) =
      position := by
    omega
  rw [here, unit, covers_congr unit] at covered
  rw [free _ covered] at live
  cases live

/-- What a name stood for is freed, and nothing else. -/
theorem Holds.unitLive_given_up (holds : heap.Holds blocks) {old : Option Variable}
    (held : ∀ object ∈ old, object.block ∈ blocks) (index : Nat) :
    (heap.releaseAll (old.toList.map (·.block))).unitLive index =
      (heap.unitLive index && !old.any (heap.covers index ·.block)) := by
  -- Either the name stood for nothing, or for one object.
  cases old with
  | none =>
    rw [Option.toList_none, List.map_nil, Heap.releaseAll, List.foldl_nil, Option.any_none,
      Bool.not_false, Bool.and_true]
  | some object =>
    rw [Option.toList_some, List.map_singleton, Heap.releaseAll, List.foldl_cons,
      List.foldl_nil, Custody.unitLive_release holds (held object rfl), Option.any_some]

/-- If a block has come to be held, and then what a name stood for is given up, just the units of
the one become live and just those of the other become free. -/
theorem Holds.exchanged {block : Block} (before : heap.Holds blocks)
    (after : last.Holds (block :: blocks)) (unit : last.unit = heap.unit) {old : Option Variable}
    (held : ∀ object ∈ old, object.block ∈ blocks) (index : Nat) :
    (last.releaseAll (old.toList.map (·.block))).unitLive index =
      (heap.covers index block ||
        (heap.unitLive index && !old.any (heap.covers index ·.block))) := by
  -- First the units of the block become live, then those of the other one become free.
  obtain ⟨fresh, live⟩ := before.added after unit index
  have still : ∀ object ∈ old, object.block ∈ block :: blocks :=
    fun object found => List.mem_cons_of_mem _ (held object found)
  rw [after.unitLive_given_up still, live]
  simp only [covers_congr unit]
  cases own : heap.covers index block with
  | false => rw [Bool.false_or, Bool.false_or]
  | true =>
    -- A unit of the new block was free, so that the name did not stand for it.
    have apart : old.any (heap.covers index ·.block) = false := by
      rw [Option.any_eq_false]
      intro object found
      cases covered : heap.covers index object.block with
      | false => rfl
      | true =>
        have used := before.live_of_covers (held object found) covered
        rw [fresh own] at used
        cases used
    rw [apart]
    rfl

end Heap

namespace Variable

variable {heap last : Heap} {blocks : List Block} {type : CType} {object : Variable}

/-- An object that cannot be made leaves the heap as it is: a block that is handed out can be
cleared. -/
theorem allocate_error (holds : heap.Holds blocks) {cause : RuntimeError}
    (failed : allocate type heap = .error cause last) : last = heap := by
  -- The request is refused, or it is granted and the block is cleared.
  rw [allocate_run] at failed
  split at failed
  · cases failed
    rfl
  · cases taken : Heap.allocate type.size heap with
    | error cause middle =>
      rw [taken] at failed
      cases failed
      exact Heap.allocate_error taken
    | ok block middle =>
      -- The block is live as a whole, so that this is where nothing fails any more.
      obtain ⟨_, cleared, -⟩ := (Heap.allocate_holds holds taken).clear (List.mem_cons_self ..)
      simp [taken, cleared] at failed

/-- A new object has zero bytes, whatever stood there. -/
theorem allocate_zero (holds : heap.Holds blocks)
    (allocated : allocate type heap = .ok object last) :
    ∀ index, index < object.block.size →
      last.byteAt (object.address.toNat - heapBase + index) = 0 := by
  -- What was handed out has been cleared.
  rw [allocate_run] at allocated
  split at allocated
  · cases allocated
  · cases taken : Heap.allocate type.size heap with
    | error cause middle => simp [taken] at allocated
    | ok block middle =>
      obtain ⟨_, cleared, zero, -⟩ :=
        (Heap.allocate_holds holds taken).clear (List.mem_cons_self ..)
      simp only [taken, cleared] at allocated
      cases allocated
      exact zero

/-- Without an initial value an object stays as it was handed out. -/
theorem create_none (type : CType) (heap : Heap) : create type none heap = allocate type heap := by
  -- Without a value nothing comes after the request.
  rw [create_run]
  cases allocate type heap <;> rfl

/-- An object that cannot be made with its initial value leaves all that is in use as it is. -/
theorem create_error (holds : heap.Holds blocks) {init : Option Value} {cause : RuntimeError}
    (failed : create type init heap = .error cause last) : heap.Alike last := by
  have kept := create_holds type init holds
  have arena := create_inside holds.bounded type init
  rw [failed] at kept arena
  -- The same blocks are held as before, so that the same units are live.
  obtain ⟨live, used⟩ := holds.unitLive_eq kept (.refl _) arena.unit
  refine ⟨arena.unit, arena.units, live, used, fun position alive => ?_⟩
  rw [create_run] at failed
  cases made : allocate type heap with
  | error reason middle =>
    rw [made] at failed
    cases failed
    rw [allocate_error holds made]
  | ok object middle =>
    cases init with
    | none => simp [made] at failed
    | some value =>
      cases stored : object.store value middle with
      | ok _ after => simp [made, stored] at failed
      | error reason after =>
        simp only [made, stored] at failed
        cases failed
        -- The store has done nothing, so that only the bytes of the new block were cleared.
        obtain ⟨rfl, -⟩ := Heap.store_eq_error_iff.mp stored
        have held := allocate_holds type holds
        have same := allocate_inside holds.bounded type
        rw [made] at held same
        obtain ⟨typed, sized, changed⟩ := allocate_changes made
        rw [← typed, ← sized] at changed
        have freed := changed.trans (.of_bytes (after.release_bytes object.block))
        exact freed.live_bytes held same.1.unit
          (fun index => (holds.added held same.1.unit index).1) alive

/-- An object of numbers, characters or pointers that was made with a value holds the value as it
was converted. -/
theorem create_load {value : Value} (scalar : type.isScalar = true)
    (created : create type (some value) heap = .ok object last) :
    ∃ kept, value.coerce type = .ok kept ∧ last.load object.address type = .ok kept := by
  rw [create_run] at created
  cases made : allocate type heap with
  | error reason middle => simp [made] at created
  | ok fresh middle =>
    cases stored : fresh.store value middle with
    | error reason after => simp [made, stored] at created
    | ok _ after =>
      simp only [made, stored] at created
      cases created
      -- What was stored is what is read back.
      rw [store, (allocate_changes made).1] at stored
      obtain ⟨kept, -, converted, loaded, -⟩ := Heap.load_of_store scalar stored
      exact ⟨kept, converted, loaded⟩

end Variable

namespace Frame

variable (frame : Frame) (scope : Scope)

/-- What the innermost scope of an activation binds is found there. -/
theorem find?_of_current {name : String} {object : Variable}
    (bound : frame.current.find? name = some object) : frame.find? name = some object := by
  -- The innermost scope is looked at first, be it a nested one or the body's own.
  cases nested : frame.nested <;> simp_all [current, find?]

/-- The innermost scope is the one that was put there. -/
theorem current_setCurrent : (frame.setCurrent scope).current = scope := by
  -- It is a nested one, or the body's own.
  cases nested : frame.nested <;> simp [current, setCurrent, nested]

/-- To put the innermost scope back restores the activation. -/
theorem setCurrent_restored : (frame.setCurrent scope).setCurrent frame.current = frame := by
  -- Nothing but that scope has changed.
  obtain ⟨function, root, nested, returned, buffer⟩ := frame
  cases nested <;> rfl

end Frame

/-- A declaration that succeeds has made the object, bound the name to it in the innermost scope,
and given up what the name was bound to there. -/
theorem Exec.declare_eq_ok {name : String} {type : CType} {init : Option Value} {address : Address}
    {context last : Context} (declared : declare name type init context = .ok address last) :
    ∃ object heap, Variable.create type init context.heap = .ok object heap ∧
      object.address = address ∧
      last = { context.setCurrentScope (context.currentScope.bind name object) with
        heap := heap.releaseAll ((context.currentScope.find? name).toList.map (·.block)) } := by
  -- The object is made first, and only that can fail.
  rw [declare_run] at declared
  cases made : Variable.create type init context.heap with
  | error cause heap => simp [made] at declared
  | ok object heap =>
    rw [made] at declared
    cases declared
    exact ⟨object, heap, rfl, rfl, rfl⟩

namespace Context

/-- The innermost scope is the first in which a name is looked for. -/
theorem find?_of_currentScope {context : Context} {name : String} {object : Variable}
    (bound : context.currentScope.find? name = some object) :
    context.find? name = some object := by
  -- Inside functions the activation looks into it first, and outside it is the global one.
  cases current : context.stack.current? with
  | none => simpa [currentScope, find?, current] using bound
  | some frame =>
    have found := frame.find?_of_current (by simpa [currentScope, current] using bound)
    simp [find?, current, found]

section Scopes

variable (context : Context) (scope : Scope) (heap : Heap)

/-- A scope that was put in the place of the innermost one is the innermost one. -/
theorem currentScope_setCurrentScope :
    currentScope { context.setCurrentScope scope with heap } = scope := by
  -- The scope is that of an activation, or the global one.
  cases frames : context.stack.frames with
  | nil => simp [currentScope, setCurrentScope, CallStack.current?, frames]
  | cons frame callers =>
    simp [currentScope, setCurrentScope, CallStack.current?, CallStack.setCurrent, frames,
      frame.current_setCurrent]

/-- Nothing but the innermost scope was replaced: to put it back restores all of the state but the
heap. -/
theorem setCurrentScope_restored :
    setCurrentScope { context.setCurrentScope scope with heap } context.currentScope =
      { context with heap } := by
  -- Nothing but that scope has changed, in the activation or among the globals.
  obtain ⟨program, old, ⟨frames, room⟩, globals⟩ := context
  cases frames with
  | nil => rfl
  | cons frame callers =>
    simp [currentScope, setCurrentScope, CallStack.current?, CallStack.setCurrent,
      frame.setCurrent_restored]

end Scopes

variable {context last : Context} {name : String} {type : CType} {init : Option Value}

/-- A name has been bound to a new object of a type. -/
structure Declared (context : Context) (name : String) (type : CType) (init : Option Value)
    (object : Variable) (last : Context) : Prop where
  found : last.find? name = some object
  typed : object.type = type
  size : object.block.size = type.size
  arena : context.heap.SameArena last.heap
  /-- The object lies on whole units inside the arena. -/
  seats : last.heap.Seats object.block
  fresh : ∀ unit, context.heap.covers unit object.block = true →
    context.heap.unitLive unit = false
  /-- Just the units of the object have become live, and just those of what the name stood for in
  the innermost scope have become free. -/
  live : ∀ unit, last.heap.unitLive unit = (context.heap.covers unit object.block ||
    (context.heap.unitLive unit &&
      !(context.currentScope.find? name).any (context.heap.covers unit ·.block)))
  others : ∀ other, other ≠ name →
    last.currentScope.find? other = context.currentScope.find? other
  /-- Apart from the innermost scope and the heap nothing has changed. -/
  elsewhere : last.setCurrentScope context.currentScope = { context with heap := last.heap }
  bytes : (∀ value ∈ init, value.Fits type) →
    ∀ position, context.heap.unitLive (position / context.heap.unit) = true →
      last.heap.byteAt position = context.heap.byteAt position
  zero : init = none → ∀ index, index < type.size →
    last.heap.byteAt (object.address.toNat - heapBase + index) = 0
  leaves : init = none → ∀ leaf ∈ type.leaves 0, leaf.2.isScalar = true →
    last.heap.load (object.address + UInt64.ofNat leaf.1) leaf.2 = .ok (leaf.2.ofNumber 0)
  loads : ∀ value ∈ init, type.isScalar = true →
    ∃ kept, value.coerce type = .ok kept ∧ last.heap.load object.address type = .ok kept

/-- A declaration that fails leaves the heap as far as it is in use, and all else. -/
theorem Owns.undeclared (owns : context.Owns) {reason : Unwind}
    (failed : Exec.declare name type init context = .error reason last) :
    (∃ cause, reason = .fault cause) ∧ last = { context with heap := last.heap } ∧
      context.heap.Alike last.heap := by
  -- Only the making of the object can fail, and then nothing else has happened.
  rw [Exec.declare_run] at failed
  cases made : Variable.create type init context.heap with
  | ok object heap => simp [made] at failed
  | error cause heap =>
    rw [made] at failed
    cases failed
    exact ⟨⟨cause, rfl⟩, rfl, Variable.create_error owns.holds made⟩

/-- A declaration that succeeds has bound the name to a new object. -/
theorem Owns.declared (owns : context.Owns) {address : Address}
    (declared : Exec.declare name type init context = .ok address last) :
    ∃ object, object.address = address ∧ context.Declared name type init object last := by
  have still : last.Owns := (Exec.declare_owns name type init).keeps_ok owns declared
  obtain ⟨object, heap, made, here, ended⟩ := Exec.declare_eq_ok declared
  have holds := Variable.create_holds type init owns.holds
  have arena := Variable.create_inside owns.holds.bounded type init
  rw [made] at holds arena
  obtain ⟨typed, sized, changed⟩ := Variable.create_changes made
  have size : object.block.size = type.size := by rw [sized, typed]
  have unit := arena.1.unit
  -- The scope binds the name to the object, and every other name as before.
  have bound (other : String) : last.currentScope.find? other =
      if other = name then some object else context.currentScope.find? other := by
    rw [ended, currentScope_setCurrentScope, Scope.find?_bind]
  have named : last.currentScope.find? name = some object := by rw [bound, if_pos rfl]
  have member : object.block ∈ last.owned :=
    last.currentScope_subset_owned (Scope.block_mem_of_find? named)
  -- To give up what the name stood for leaves the bytes.
  have same (position : Nat) : last.heap.byteAt position = heap.byteAt position := by
    rw [ended, Heap.byteAt_eq, Heap.byteAt_eq, heap.releaseAll_bytes]
  have added := owns.holds.added holds unit
  have held : ∀ old ∈ context.currentScope.find? name, old.block ∈ context.owned :=
    fun old found => context.currentScope_subset_owned (Scope.block_mem_of_find? found)
  have zero (none : init = none) (index : Nat) (inside : index < object.block.size) :
      last.heap.byteAt (object.address.toNat - heapBase + index) = 0 := by
    rw [none, Variable.create_none] at made
    rw [same]
    exact Variable.allocate_zero owns.holds made index inside
  refine ⟨object, here, ?_⟩
  constructor
  case found => exact find?_of_currentScope named
  case typed => exact typed
  case size => exact size
  case arena =>
    rw [ended]
    exact arena.1.trans (heap.releaseAll_sameArena _)
  case seats => exact still.holds.seated _ member
  case fresh => exact fun index => (added index).1
  case live =>
    intro index
    rw [ended]
    exact owns.holds.exchanged holds unit held index
  case others =>
    intro other different
    rw [bound, if_neg different]
  case elsewhere =>
    rw [ended]
    exact context.setCurrentScope_restored ..
  case bytes =>
    intro fits position live
    have within := changed fits
    rw [← size] at within
    rw [same]
    exact within.live_bytes holds unit (fun index => (added index).1) live
  case zero =>
    intro none index inside
    exact zero none index (by omega)
  case leaves =>
    intro none leaf inside scalar
    have within := type.leaves_within inside
    exact still.holds.load_zero member (zero none) scalar (by omega)
  case loads =>
    intro value given scalar
    rw [Option.mem_def.mp given] at made
    obtain ⟨kept, converted, loaded⟩ := Variable.create_load scalar made
    refine ⟨kept, converted, ?_⟩
    -- The object can be accessed before the old one is given up, and after that.
    have before := Heap.accessible_of_locate (holds.locate (List.mem_cons_self ..))
    have after := Heap.accessible_of_locate (still.holds.locate member)
    rw [size] at before after
    rw [← loaded]
    exact Heap.load_congr ⟨fun _ => before, fun _ => after⟩ fun _ index _ => same _

/--
Whatever state a program can come to, a declaration does all that it should or nothing.

If it fails, it is for a fault.
All names are bound as before, the same units are live, as many bytes are used, and each byte of a
live unit is what it was, so that every object of every type is loaded as before.
If it succeeds, the name stands for an object of the type at the address that is returned, on units
that were free.
What the name stood for in the innermost scope is freed, and nothing else; every other name of that
scope, and all scopes and activations around it, are as before.
Without an initial value each byte of the object is zero, whatever stood there, and so each number,
character and pointer in it, however deep, is loaded as zero or null; no byte that was in use has
changed.
With an initial value, a number, a character or a pointer is loaded as the value is converted to the
type.
All that is asked of the heap is that each of its bytes has an address of 64 bits.
-/
theorem Reachable.declare_all_or_nothing {size unit : Nat} {heap : Heap}
    (created : Heap.create size unit = .ok heap) (addressable : heapBase + size ≤ UInt64.size)
    {program : Program} {depthLimit grants : Nat} {context : Context}
    (reachable : (Context.start program heap depthLimit grants).Reachable context)
    (name : String) (type : CType) (init : Option Value) :
    (∀ reason last, Exec.declare name type init context = .error reason last →
      (∃ cause, reason = .fault cause) ∧ last = { context with heap := last.heap } ∧
        context.heap.Alike last.heap ∧
        ∀ address other, last.heap.load address other = context.heap.load address other) ∧
    ∀ address last, Exec.declare name type init context = .ok address last →
      ∃ object, object.address = address ∧ context.Declared name type init object last := by
  -- In every state that can be reached the books are right.
  have owns := (reachable.sound created addressable).owns
  refine ⟨fun reason last failed => ?_, fun address last declared => owns.declared declared⟩
  obtain ⟨fault, same, alike⟩ := owns.undeclared failed
  exact ⟨fault, same, alike, alike.load⟩

/-- A name that cannot be bound to a character keeps its number; a structure in the place of a
number that was given up has zero in its members, and what its name stood for is freed. -/
theorem Reachable.declare_all_or_nothing_over_old_bytes :
    let context := neighbours [("n", .int, some (.int 7)), ("s", .int, some (.int (-1))),
      ("s", .int, some (.int 3))]
    let nested := CType.struct "S" (.ofList [("c", .char), ("t", .struct "T" (.ofList
      [("n", .int)]))])
    Heap.create 64 8 = .ok (neighbours []).heap ∧ (neighbours []).Reachable context ∧
      (∃ reason last, Exec.declare "n" .char (some (.pointer 8)) context = .error reason last ∧
        last.find? "n" = context.find? "n" ∧
        (last.heap.load 0x1000 .int).toOption = some (.int 7)) ∧
      context.heap.byteAt 9 = 0xFF ∧
      ∃ address last, Exec.declare "s" nested none context = .ok address last ∧
        last.heap.load (address + UInt64.ofNat 1) .int = .ok (.int 0) ∧
        last.heap.byteAt 9 = 0 ∧ last.heap.unitLive 2 = false := by
  intro context nested
  have created : Heap.create 64 8 = .ok (neighbours []).heap := rfl
  have reachable : (neighbours []).Reachable context := neighbours_reachable _
  -- The states are small, and what they hold is found by running them.
  refine ⟨created, reachable, ?_, by decide +kernel, ?_⟩
  · -- A number cannot hold the pointer, so all is kept.
    have ⟨kept, _⟩ := declare_all_or_nothing created (by decide) reachable "n" .char
      (some (.pointer 8))
    have ended : (match Exec.declare "n" .char (some (.pointer 8)) context with
        | .ok _ _ => false
        | .error _ _ => true) = true := by
      decide +kernel
    split at ended
    · cases ended
    · rename_i reason last failed
      obtain ⟨-, same, -, loads⟩ := kept reason last failed
      refine ⟨reason, last, failed, ?_, ?_⟩
      · rw [same]
        rfl
      · rw [loads]
        decide +kernel
  · -- The structure takes a free unit, and the number gives its own back.
    have ⟨_, bound⟩ := declare_all_or_nothing created (by decide) reachable "s" nested none
    have ended : (match Exec.declare "s" nested none context with
        | .ok address _ => decide (address = 0x1008)
        | .error _ _ => false) = true := by
      decide +kernel
    split at ended
    · rename_i address last ran
      obtain ⟨object, here, declared⟩ := bound address last ran
      have start := of_decide_eq_true ended
      refine ⟨address, last, ran, ?_, ?_, ?_⟩
      · rw [← here]
        exact declared.leaves rfl (1, .int) (by decide) rfl
      · have zero := declared.zero rfl 1 (by decide)
        rw [here, start] at zero
        exact zero
      · -- The object takes one unit, which is not the one that its name stood for.
        have block : object.block = ⟨0x1008, 5, true⟩ := by
          rw [← start, ← here, show 5 = object.block.size from declared.size.symm,
            ← declared.seats.owning]
          rfl
        rw [declared.live, block]
        decide +kernel
    · cases ended

end Context

end StepMachine
