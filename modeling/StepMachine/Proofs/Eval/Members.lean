import StepMachine.Proofs.Context.Declaration

/-! Members of structures lie back to back, so that to assign to one of them leaves the others as
they are. -/

namespace StepMachine

/-- A member of a structure, with the number of bytes in front of it. -/
structure Slot where
  name : String
  offset : Nat
  type : CType

/-- Where the member ends, which is the first byte behind it. -/
def Slot.stop (slot : Slot) : Nat := slot.offset + slot.type.size

/-- Whether a byte of the structure belongs to the member. -/
def Slot.Covers (slot : Slot) (position : Nat) : Prop :=
  slot.offset ≤ position ∧ position < slot.stop

/-- The members in declaration order, each where those in front of it end. -/
def Fields.slots (front : Nat) : Fields → List Slot
  | .none => []
  | .field name type rest => ⟨name, front, type⟩ :: rest.slots (front + type.size)

/-- Slots that make up a range without gaps and without overlaps: the first one starts where the
range does, each other one starts where the one before it ends, and the last one ends where the
range does; and each byte of the range belongs to just one of them. -/
structure Tile (start stop : Nat) (slots : List Slot) : Prop where
  first : ∀ slot, slots.head? = some slot → slot.offset = start
  next : slots.IsChain fun one other => other.offset = one.stop
  last : ∀ slot, slots.getLast? = some slot → slot.stop = stop
  none : slots = [] → start = stop
  inside : ∀ slot ∈ slots, start ≤ slot.offset ∧ slot.stop ≤ stop
  once : ∀ position, start ≤ position → position < stop →
    ∃ index : Nat, (∃ slot : Slot, slots[index]? = some slot ∧ slot.Covers position) ∧
      ∀ (other : Nat) (slot : Slot), slots[other]? = some slot → slot.Covers position → other = index

namespace Tile

variable {start stop : Nat} {slots : List Slot}

/-- A range that is tiled ends no earlier than it starts. -/
theorem le (tile : Tile start stop slots) : start ≤ stop := by
  -- The first slot lies in it.
  cases slots with
  | nil => exact Nat.le_of_eq (tile.none rfl)
  | cons slot rest =>
    have bounds := tile.inside slot List.mem_cons_self
    unfold Slot.stop at bounds
    omega

/-- One more member in front goes with a range that starts where it ends. -/
theorem cons (slot : Slot) (tile : Tile slot.stop stop slots) :
    Tile slot.offset stop (slot :: slots) := by
  have reaches := tile.le
  have extent : slot.offset ≤ slot.stop := Nat.le_add_right ..
  constructor
  case first => simp
  case next =>
    cases slots with
    | nil => exact .singleton slot
    | cons second rest => exact .cons_cons (tile.first second rfl) tile.next
  case last =>
    cases slots with
    | nil => simpa using tile.none rfl
    | cons second rest => simpa using tile.last
  case none => nofun
  case inside =>
    intro other member
    rcases List.mem_cons.mp member with rfl | later
    · exact ⟨Nat.le_refl _, reaches⟩
    · have bounds := tile.inside other later
      omega
  case once =>
    intro position low high
    -- A byte of the first member is none of the others, which all lie behind it.
    have behind {other : Nat} {found : Slot} (there : slots[other]? = some found) :
        slot.stop ≤ found.offset := (tile.inside found (List.mem_of_getElem? there)).1
    by_cases here : position < slot.stop
    · refine ⟨0, ⟨slot, rfl, low, here⟩, fun other found there covers => ?_⟩
      cases other with
      | zero => rfl
      | succ other =>
        have later := behind there
        have covered := covers.1
        omega
    · -- A byte behind the first member belongs to the one of the others that covers it.
      obtain ⟨index, ⟨found, there, covers⟩, only⟩ := tile.once position (by omega) high
      refine ⟨index + 1, ⟨found, there, covers⟩, fun other again also covered => ?_⟩
      cases other with
      | zero =>
        cases also
        exact absurd covered.2 here
      | succ other => rw [only other again also covered]

end Tile

namespace Fields

/-- The members of a structure make up all of it. -/
theorem slots_tile (front : Nat) (fields : Fields) :
    Tile front (front + fields.size) (fields.slots front) := by
  -- The induction is on the members, and each goes in front of the tiling of the rest.
  fun_induction Fields.slots front fields with
  | case1 front => exact ⟨nofun, .nil, nofun, fun _ => rfl, nofun, fun position low high => by
      rw [Fields.size] at high
      omega⟩
  | case2 front name type rest ih =>
    rw [Fields.size, ← Nat.add_assoc]
    exact .cons ⟨name, front, type⟩ ih

/-- They are the members as declared, in the same order. -/
theorem slots_toList (front : Nat) (fields : Fields) :
    (fields.slots front).map (fun slot => (slot.name, slot.type)) = fields.toList := by
  -- Each slot keeps the name and the type of its member.
  fun_induction Fields.slots front fields with
  | case1 front => rfl
  | case2 front name type rest ih => rw [List.map_cons, ih, Fields.toList]

/-- A name stands for the first member that has it. -/
theorem find?_slots (front : Nat) (fields : Fields) (wanted : String) :
    (fields.find? wanted).map (fun (offset, type) => (front + offset, type)) =
      ((fields.slots front).find? (·.name = wanted)).map fun slot => (slot.offset, slot.type) := by
  -- The search goes along both lists, and offsets are counted from the front.
  fun_induction Fields.slots front fields with
  | case1 front => rfl
  | case2 front name type rest ih =>
    rw [Fields.find?, List.find?_cons]
    by_cases same : name = wanted
    · simp [same]
    · simp only [same, if_false, decide_false, ← ih, Option.map_map]
      congr 1
      funext found
      simp [Nat.add_assoc]

/-- Members of different names have no byte in common. -/
theorem find?_apart {fields : Fields} {one other : String} {first second : Nat}
    {type kind : CType} (differ : one ≠ other) (found : fields.find? one = some (first, type))
    (also : fields.find? other = some (second, kind)) :
    first + type.size ≤ second ∨ second + kind.size ≤ first := by
  -- Whichever of the two comes first, the other one is looked for behind it.
  fun_induction Fields.find? one fields generalizing first second type kind with
  | case1 => cases found
  | case2 front rest =>
    -- The one is the first member, and the other one is looked for behind it.
    cases found
    rw [Fields.find?, if_neg differ] at also
    obtain ⟨⟨offset, later⟩, -, same⟩ := Option.map_eq_some_iff.mp also
    cases same
    omega
  | case3 name front rest unlike ih =>
    obtain ⟨⟨offset, found⟩, later, same⟩ := Option.map_eq_some_iff.mp found
    cases same
    rw [Fields.find?] at also
    split at also
    · -- The other one is in front of all that is left.
      cases also
      omega
    · -- Both are behind the first member, by which both offsets are larger.
      obtain ⟨⟨behind, also⟩, there, same⟩ := Option.map_eq_some_iff.mp also
      cases same
      have apart := ih later there
      omega

end Fields

/-- Numbers, characters and pointers take up bytes. -/
theorem CType.size_pos {type : CType} (scalar : type.isScalar = true) : 0 < type.size := by
  -- Each of them takes up a byte at least.
  cases type with
  | int | char | pointer => simp [CType.size]
  | void | struct => cases scalar

namespace Heap

variable {heap last : Heap} {address : Address}

/-- A scalar is stored where its bytes are live. -/
theorem Accessible.store {type : CType} {value kept : Value} (scalar : type.isScalar = true)
    (accessible : heap.Accessible address type.size) (converted : value.coerce type = .ok kept) :
    ∃ last, Heap.store address type value heap = .ok () last := by
  -- What has a format is written in that format, and its bytes are live.
  obtain ⟨format, formed⟩ := Option.isSome_iff_exists.mp scalar
  rw [CType.size_of_format formed, ← encode_length format kept.number] at accessible
  obtain ⟨last, wrote, -⟩ := accessible.write
  refine ⟨last, ?_⟩
  rw [store_of_format address formed converted]
  simp only [liftMemory, writeScalar, wrote]

/-- What is not overwritten is loaded as before. -/
theorem Overwritten.load {bytes : List UInt8} (overwritten : heap.Overwritten address bytes last)
    {other : Address} {kind : CType}
    (same : ∀ index, index < kind.size →
      last.byteAt (other.toNat - heapBase + index) = heap.byteAt (other.toNat - heapBase + index)) :
    last.load other kind = heap.load other kind := by
  -- The same range is accessible, and its bytes are the same.
  refine load_congr ⟨fun accessible => ?_, fun accessible => accessible.overwritten overwritten⟩
    fun _ => same
  refine accessible.along overwritten.unit.symm overwritten.units.symm fun index => ?_
  rw [unitLive, unitLive, overwritten.live]

end Heap

namespace Expr

variable {invoke : Invoke} {object value : Expr} {context middle placed : Context}
  {operand : Value} {address : Address} {definition : StructDef} {name : String} {offset : Nat}
  {type : CType}

/-- A member is found at its offset from where its structure lies. -/
theorem place_member (found : definition.field? name = some (offset, type))
    (lies : object.eval invoke context = .ok (.struct address definition) placed) :
    (Expr.member object name).place invoke context =
      .ok ⟨address + UInt64.ofNat offset, type⟩ placed := by
  -- The structure is evaluated first, and the member is found in its definition.
  rw [Expr.place, bind_run, lies]
  show (liftM (Value.member (.struct address definition) name) : Exec Place) placed = _
  rw [Value.member, found]
  rfl

/-- To assign to a member of a structure is to store there and to read it back. -/
theorem eval_assign_member (found : definition.field? name = some (offset, type))
    (ran : value.eval invoke context = .ok operand middle)
    (lies : object.eval invoke middle = .ok (.struct address definition) placed) :
    (Expr.assign (.member object name) value).eval invoke context =
      match Heap.store (address + UInt64.ofNat offset) type operand placed.heap with
      | .ok _ heap => Exec.loadPlace ⟨address + UInt64.ofNat offset, type⟩ { placed with heap }
      | .error cause heap => .error (.fault cause) { placed with heap } := by
  -- The value comes before the place, and the member is read back from there.
  rw [eval_assign_eq, bind_run, ran]
  simp only [bind_run, place_member found lies, Exec.edit_run]
  cases Heap.store (address + UInt64.ofNat offset) type operand placed.heap <;> rfl

end Expr

/--
Structures are packed, and their members are independent of each other.

The members of a structure, of any types and nested to any depth, make up all of its bytes in the
order in which they are declared: the first one starts at the beginning, each other one where the
one before it ends, the last one ends with the structure, and each byte belongs to just one of them.
A name stands for the first member that has it, with its offset and its type.
Let a structure be live in an arena that has addresses, and let one of its members hold a number, a
character or a pointer.
To assign to that member fails with the cause for which the value has no form of its type, and then
nothing is stored; otherwise it yields the value as it is converted, the structure is still live,
and that value is what is read from the member of the same structure afterwards.
No byte of the structure outside the member has changed, no byte of a member of another name has,
and such a member is read as before.
-/
theorem struct_members_are_packed :
    (∀ definition : StructDef,
      Tile 0 definition.size (definition.fields.slots 0) ∧
      (definition.fields.slots 0).map (fun slot => (slot.name, slot.type)) =
        definition.fields.toList ∧
      ∀ name, definition.field? name =
        ((definition.fields.slots 0).find? (·.name = name)).map
          fun slot => (slot.offset, slot.type)) ∧
    ∀ (invoke : Invoke) (object value : Expr) (context middle placed : Context) (operand : Value)
      (address : Address) (definition : StructDef) (name : String) (offset : Nat) (type : CType),
      value.eval invoke context = .ok operand middle →
      object.eval invoke middle = .ok (.struct address definition) placed →
      placed.heap.isLive address definition.size = true →
      heapBase + placed.heap.size ≤ UInt64.size →
      definition.field? name = some (offset, type) → type.isScalar = true →
      (∀ cause, operand.coerce type = .error cause →
        (Expr.assign (.member object name) value).eval invoke context =
          .error (.fault cause) placed) ∧
      ∀ kept, operand.coerce type = .ok kept →
        ∃ heap, (Expr.assign (.member object name) value).eval invoke context =
            .ok kept { placed with heap } ∧
          heap.isLive address definition.size = true ∧
          (∀ again last,
            again.eval invoke { placed with heap } = .ok (.struct address definition) last →
            last.heap = heap →
            (Expr.member again name).eval invoke { placed with heap } = .ok kept last) ∧
          (∀ index, index < definition.size → ¬ (offset ≤ index ∧ index < offset + type.size) →
            heap.byteAt (address.toNat - heapBase + index) =
              placed.heap.byteAt (address.toNat - heapBase + index)) ∧
          ∀ other place kind, definition.field? other = some (place, kind) → other ≠ name →
            (∀ index, index < kind.size →
              heap.byteAt (address.toNat - heapBase + (place + index)) =
                placed.heap.byteAt (address.toNat - heapBase + (place + index))) ∧
            heap.load (address + UInt64.ofNat place) kind =
              placed.heap.load (address + UInt64.ofNat place) kind := by
  constructor
  · -- The layout of the members is a matter of the definition alone.
    intro definition
    refine ⟨?_, definition.fields.slots_toList 0, fun name => ?_⟩
    · have tile := definition.fields.slots_tile 0
      rwa [Nat.zero_add] at tile
    · rw [← Fields.find?_slots]
      simp [StructDef.field?]
  intro invoke object value context middle placed operand address definition name offset type
    ran lies live addressable found scalar
  have whole := Heap.isLive_iff.mp live
  have within : offset + type.size ≤ definition.size := Fields.find?_within found
  have some := CType.size_pos scalar
  have first := (whole.inside 0 whole.some).1
  have start := whole.toNat_add addressable (show offset < definition.size by omega)
  rw [Expr.eval_assign_member found ran lies]
  refine ⟨fun cause unconverted => ?_, fun kept converted => ?_⟩
  · -- A value that is not converted is refused before the heap is written.
    have refuses : placed.heap.Refuses (address + UInt64.ofNat offset) type operand cause :=
      .mismatch unconverted
    rw [refuses.store]
  · obtain ⟨heap, stored⟩ := (whole.part addressable some within).store scalar converted
    obtain ⟨loaded, bytes, same, read, length, overwritten⟩ := Heap.load_of_store scalar stored
    cases converted.symm.trans same
    -- Only the bytes of the member have been overwritten.
    have outside (index : Nat) (other : ¬ (offset ≤ index ∧ index < offset + type.size)) :
        heap.byteAt (address.toNat - heapBase + index) =
          placed.heap.byteAt (address.toNat - heapBase + index) :=
      overwritten.others _ (by rw [start, length]; omega)
    refine ⟨heap, ?_, Heap.isLive_iff.mpr (whole.overwritten overwritten),
      fun again last lies same => ?_, fun index _ => outside index,
      fun other place kind also differ => ?_⟩
    · rw [stored]
      exact (Exec.loadPlace_run _ _).trans (by rw [read])
    · rw [Expr.eval_lvalue invoke rfl, bind_run, Expr.place_member found lies]
      exact (Exec.loadPlace_run _ _).trans (by rw [same, read])
    · have apart := Fields.find?_apart differ also found
      have inside : place + kind.size ≤ definition.size := Fields.find?_within also
      have kept (index : Nat) (within : index < kind.size) := outside (place + index) (by omega)
      refine ⟨kept, overwritten.load fun index within => ?_⟩
      rw [whole.toNat_add addressable (show place < definition.size by omega),
        show address.toNat + place - heapBase + index =
          address.toNat - heapBase + (place + index) by omega]
      exact kept index within

/-- A structure with a character and a number in front of a second member of the first name. -/
def twoOfAName : StructDef := ⟨"S", .ofList [("a", .char), ("b", .int), ("a", .int)]⟩

/-- The name stands for the character, which is cut off, and the number behind it stays. -/
theorem struct_members_are_packed_in_twoOfAName :
    let context := neighbours [("s", twoOfAName.type, none)]
    twoOfAName.field? "a" = some (0, .char) ∧ twoOfAName.size = 9 ∧
    ∃ heap, (Expr.assign (.member (.var "s") "a") (.int 300)).eval (Function.invoke 4) context =
        .ok (.char 44) { context with heap } ∧
      (Expr.member (.var "s") "a").eval (Function.invoke 4) { context with heap } =
        .ok (.char 44) { context with heap } ∧
      heap.load 0x1001 .int = context.heap.load 0x1001 .int := by
  intro context
  obtain ⟨layout, assigned⟩ := struct_members_are_packed
  obtain ⟨-, -, names⟩ := layout twoOfAName
  have found : context.find? "s" = some ⟨twoOfAName.type, 0x1000, 9, true⟩ := by decide +kernel
  -- As long as it is live, the variable stands for the structure.
  have lies (heap : Heap) (live : heap.isLive 0x1000 twoOfAName.size = true) :
      (Expr.var "s").eval (Function.invoke 4) { context with heap } =
        .ok (.struct 0x1000 twoOfAName) { context with heap } := by
    have bound : Context.find? { context with heap } "s" = _ := found
    have loaded : heap.load 0x1000 twoOfAName.type = .ok (.struct 0x1000 twoOfAName) := if_pos live
    -- The name is found in the table of names, and a live structure is loaded as it is.
    rw [Expr.eval_lvalue _ rfl, Expr.place]
    simp only [Exec.lookup, bind_run, Exec.get_run, bound]
    exact (Exec.loadPlace_run ⟨0x1000, twoOfAName.type⟩ _).trans (by rw [loaded])
  have live : context.heap.isLive 0x1000 twoOfAName.size = true := by decide +kernel
  obtain ⟨-, succeeds⟩ := assigned (Function.invoke 4) (.var "s") (.int 300) context context context
    (.int 300) 0x1000 twoOfAName "a" 0 .char (by rw [Expr.eval]; rfl) (lies context.heap live) live
    (by decide +kernel) (names "a") rfl
  -- What is assigned is cut off to a character.
  obtain ⟨heap, ran, still, reads, -, others⟩ := succeeds (.char 44) rfl
  refine ⟨names "a", rfl, heap, ran, reads _ _ (lies heap still) rfl, ?_⟩
  exact (others "b" 1 .int (names "b") (by decide)).2

end StepMachine
