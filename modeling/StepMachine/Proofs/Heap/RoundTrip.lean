import StepMachine.Proofs.Eval.Places
import StepMachine.Proofs.Heap.Liveness

/-! A value that is stored is read back as its type has it, and a store that fails leaves the heap
as it is. -/

namespace StepMachine

namespace CType

/-- The format of the integer that an object of the type is stored as: a number, a character or an
address. -/
def format? : CType → Option Scalar
  | int => some .int
  | char => some .char
  | pointer _ => some .pointer
  | void | struct _ _ => none

/-- Numbers, characters and pointers are scalars. -/
def isScalar (type : CType) : Bool := type.format?.isSome

/-- The value of a scalar type that an integer stands for. -/
def ofNumber : CType → Int → Value
  | int, number => .int (Int32.ofInt number)
  | char, number => .char (Int8.ofInt number)
  | pointer _, number => .pointer (UInt64.ofInt number)
  | void, _ | struct _ _, _ => .void

/-- A scalar takes as many bytes as its format. -/
theorem size_of_format {type : CType} {format : Scalar} (formed : type.format? = some format) :
    type.size = format.size := by
  -- There are three formats, each of the size of its type.
  cases type with
  | int | char | pointer =>
    cases formed
    rfl
  | void | struct => cases formed

end CType

/-- The integer that a scalar is stored as. -/
def Value.number : Value → Int
  | int n => n.toInt
  | char c => c.toInt
  | pointer address => address.toNat
  | void | struct _ _ => 0

/-- An address comes back from its residue. -/
theorem Scalar.pointer_ofResidue (address : Address) :
    pointer.ofResidue (residue (span256 pointer.size) address.toNat % span256 pointer.size) =
      address.toNat := by
  -- Eight bytes have room for every address.
  have small : address.toNat < span256 pointer.size := address.toNat_lt
  have same : residue (span256 pointer.size) address.toNat =
      address.toNat % span256 pointer.size := rfl
  rw [same, Nat.mod_mod, Nat.mod_eq_of_lt small]
  rfl

/-- An address comes back from the integer that it is. -/
theorem Address.ofInt_toNat (address : Address) : UInt64.ofInt (address.toNat : Int) = address := by
  -- A number of sixty-four bits is its own remainder.
  have small := address.toNat_lt
  have same : ((address.toNat : Int) % 2 ^ 64).toNat = address.toNat := by omega
  rw [UInt64.ofInt, same, UInt64.ofNat_toNat]

namespace Value

/-- What is converted to a scalar type has the form of that type. -/
theorem form_of_coerce {value kept : Value} {type : CType} {format : Scalar}
    (formed : type.format? = some format) (converted : value.coerce type = .ok kept) :
    (type = .int ∧ format = .int ∧ ∃ n, kept = .int n) ∨
      (type = .char ∧ format = .char ∧ ∃ c, kept = .char c) ∨
      ∃ target address, type = .pointer target ∧ format = .pointer ∧ kept = .pointer address := by
  have same (wanted : Scalar) (here : type.format? = some wanted) : format = wanted :=
    Option.some.inj (formed.symm.trans here)
  -- Each scalar type accepts the values of its own and converts some of the others.
  cases type with
  | int =>
    refine .inl ⟨rfl, same .int rfl, ?_⟩
    cases value <;> cases converted <;> simp
  | char =>
    refine .inr (.inl ⟨rfl, same .char rfl, ?_⟩)
    cases value <;> cases converted <;> simp
  | pointer target =>
    refine .inr (.inr ⟨target, ?_⟩)
    cases value with
    | int n =>
      -- Of the integers only zero is a pointer.
      unfold coerce at converted
      dsimp only at converted
      split at converted <;> cases converted
      exact ⟨_, rfl, same .pointer rfl, rfl⟩
    | pointer address =>
      cases converted
      exact ⟨_, rfl, same .pointer rfl, rfl⟩
    | void | char | struct => cases converted
  | void | struct => cases formed

/-- A structure is converted to itself, if at all. -/
theorem coerce_struct {source : Address} {definition : StructDef} {type : CType} {kept : Value}
    (converted : (struct source definition).coerce type = .ok kept) :
    kept = .struct source definition := by
  -- Only the type of a structure accepts one.
  cases type with
  | struct name fields =>
    unfold coerce at converted
    dsimp only at converted
    split at converted <;> cases converted
    rfl
  | void | int | char | pointer => cases converted

/-- What is converted to any other type is nothing at all or a structure. -/
theorem form_of_coerce_unformed {value kept : Value} {type : CType} (unformed : type.format? = none)
    (converted : value.coerce type = .ok kept) :
    kept = .void ∨ ∃ source definition, kept = .struct source definition := by
  -- Nothing is stored for the first, and a structure is copied for the second.
  cases type with
  | void =>
    left
    cases value <;> cases converted
    rfl
  | struct name fields =>
    right
    cases value with
    | struct source definition => exact ⟨source, definition, coerce_struct converted⟩
    | void | int | char | pointer => cases converted
  | int | char | pointer => cases unformed

/-- What a value is converted to comes back from the integer that it is stored as. -/
theorem ofNumber_of_coerce {value kept : Value} {type : CType} {format : Scalar}
    (formed : type.format? = some format) (converted : value.coerce type = .ok kept) :
    type.ofNumber (format.ofResidue
      (residue (span256 format.size) kept.number % span256 format.size)) = kept := by
  -- Each of the three forms comes back from its own residue.
  rcases form_of_coerce formed converted with
    ⟨rfl, rfl, n, rfl⟩ | ⟨rfl, rfl, c, rfl⟩ | ⟨target, address, rfl, rfl, rfl⟩
  · rw [number, Scalar.int_ofResidue, CType.ofNumber, Int32.ofInt_toInt]
  · rw [number, Scalar.char_ofResidue, CType.ofNumber, Int8.ofInt_toInt]
  · rw [number, Scalar.pointer_ofResidue, CType.ofNumber, Address.ofInt_toNat]

end Value

namespace Heap

variable {heap last : Heap} {address : Address}

/-- What can be accessed depends on the shape of the arena, and on which units are live. -/
theorem Accessible.along {length : Nat} (accessible : heap.Accessible address length)
    (unit : last.unit = heap.unit) (units : last.units = heap.units)
    (live : ∀ index, last.unitLive index = heap.unitLive index) :
    last.Accessible address length := by
  have size : last.size = heap.size := by rw [Heap.size, Heap.size, unit, units]
  -- Of these three, none is about the bytes.
  constructor
  case some => exact accessible.some
  case inside =>
    intro index within
    rw [size]
    exact accessible.inside index within
  case live =>
    intro index within
    rw [live, unit]
    exact accessible.live index within

/-- Overwriting leaves a range accessible. -/
theorem Accessible.overwritten {length : Nat} (accessible : heap.Accessible address length)
    {start : Address} {bytes : List UInt8} (same : heap.Overwritten start bytes last) :
    last.Accessible address length := by
  -- Overwriting changes neither the arena nor what is live.
  apply accessible.along same.unit same.units
  intro index
  rw [unitLive, unitLive, same.live]

/-- A write that succeeds went to an accessible range, which it has overwritten. -/
theorem write_eq_ok {bytes : List UInt8} (wrote : write address bytes heap = .ok () last) :
    heap.Accessible address bytes.length ∧ heap.Overwritten address bytes last := by
  -- If the range were not accessible, the write would have failed.
  by_cases accessible : heap.Accessible address bytes.length
  · obtain ⟨next, written, overwritten⟩ := accessible.write
    rw [written] at wrote
    cases wrote
    exact ⟨accessible, overwritten⟩
  · rw [write_inaccessible accessible] at wrote
    cases wrote

/-- An integer takes as many bytes as its format has. -/
theorem encode_length (scalar : Scalar) (number : Int) :
    (scalar.encode number).length = scalar.size := toDigits256_length ..

/-- An integer is not written where its bytes are not live. -/
theorem writeScalar_inaccessible {scalar : Scalar}
    (inaccessible : ¬ heap.Accessible address scalar.size) (number : Int) :
    writeScalar scalar address number heap =
      .error (.invalidAccess address scalar.size) heap := by
  -- An integer is written as its digits, and these are as many as its format has bytes.
  rw [← encode_length scalar number] at inaccessible ⊢
  exact write_inaccessible inaccessible

/-- An integer that has been written is read as what its digits make up. -/
theorem Overwritten.readScalar {scalar : Scalar} {number : Int}
    (overwritten : heap.Overwritten address (scalar.encode number) last)
    (accessible : heap.Accessible address scalar.size) :
    last.readScalar scalar address =
      .ok (scalar.ofResidue (residue (span256 scalar.size) number % span256 scalar.size)) := by
  have located := (accessible.overwritten overwritten).locate
  -- The bytes that stand there are the digits of the number.
  have digits : last.numberAt (address.toNat - heapBase) scalar.size =
      ofDigits256 (scalar.encode number) := by
    rw [← encode_length scalar number]
    exact numberAt_eq overwritten.shows
  rw [Heap.readScalar, located, ← ofDigits256_toDigits256]
  exact congrArg (fun number => Except.ok (scalar.ofResidue number)) digits

/-- A scalar is loaded from the integer that its bytes stand for. -/
theorem load_of_format (heap : Heap) (address : Address) {type : CType} {format : Scalar}
    (formed : type.format? = some format) :
    heap.load address type = match heap.readScalar format address with
      | .ok number => .ok (type.ofNumber number)
      | .error cause => .error (.memory cause) := by
  -- The three scalar types read an integer each and make their value of it.
  cases type with
  | int | char | pointer =>
    cases formed
    rw [Heap.load]
    cases heap.readScalar _ address <;> rfl
  | void | struct => cases formed

/-- A scalar is stored as the integer that it is, in the format of its type. -/
theorem store_of_format (address : Address) {type : CType} {format : Scalar} {value kept : Value}
    (formed : type.format? = some format) (converted : value.coerce type = .ok kept) :
    store address type value = liftMemory (writeScalar format address kept.number) := by
  -- The value is converted first, and then it has one of three forms.
  rw [store, converted]
  rcases Value.form_of_coerce formed converted with
    ⟨rfl, rfl, n, rfl⟩ | ⟨rfl, rfl, c, rfl⟩ | ⟨target, source, rfl, rfl, rfl⟩
  all_goals rfl

/-- A scalar that has been stored is loaded again as it was converted, and only its own bytes have
been overwritten. -/
theorem load_of_store {type : CType} {value : Value} (scalar : type.isScalar = true)
    (stored : store address type value heap = .ok () last) :
    ∃ kept bytes, value.coerce type = .ok kept ∧ last.load address type = .ok kept ∧
      bytes.length = type.size ∧ heap.Overwritten address bytes last := by
  obtain ⟨format, formed⟩ := Option.isSome_iff_exists.mp scalar
  cases converted : value.coerce type with
  | error cause =>
    -- A value without a form of the type is not stored.
    rw [store, converted] at stored
    cases stored
  | ok kept =>
    rw [store_of_format address formed converted] at stored
    obtain ⟨accessible, overwritten⟩ := write_eq_ok (Edit.ok_of_liftMemory stored)
    rw [encode_length] at accessible
    refine ⟨kept, _, rfl, ?_, ?_, overwritten⟩
    case refine_2 => rw [encode_length, CType.size_of_format formed]
    -- The integer that was written stands for the value as it was converted.
    rw [load_of_format last address formed, overwritten.readScalar accessible]
    exact congrArg Except.ok (Value.ofNumber_of_coerce formed converted)

/-- Bytes that are copied over a range stand there, as they stood before, and only there has
anything changed. -/
theorem copy_eq_ok {source : Address} {length : Nat}
    (copied : copy address source length heap = .ok () last) :
    ∃ bytes, bytes.length = length ∧ heap.Shows source bytes ∧
      heap.Overwritten address bytes last := by
  rcases Nat.eq_zero_or_pos length with rfl | some
  · -- To copy nothing changes nothing.
    cases copied
    exact ⟨[], rfl, nofun, ⟨nofun, fun _ _ => rfl, rfl, rfl, rfl, rfl⟩⟩
  · by_cases readable : heap.Accessible source length
    · by_cases writable : heap.Accessible address length
      · obtain ⟨bytes, next, ran, size, shows, overwritten⟩ := readable.copy writable
        rw [ran] at copied
        cases copied
        exact ⟨bytes, size, shows, overwritten⟩
      · rw [readable.copy_unwritable writable] at copied
        cases copied
    · rw [copy_unreadable some readable] at copied
      cases copied

/-- A structure that has been stored is where it was stored what it was before where it came from,
as its own definition measures it. -/
theorem store_struct {type : CType} {source : Address} {definition : StructDef}
    (stored : store address type (.struct source definition) heap = .ok () last) :
    ∃ bytes, bytes.length = definition.size ∧ heap.Shows source bytes ∧
      heap.Overwritten address bytes last := by
  -- What is stored is the structure itself, copied from where it came from.
  cases converted : (Value.struct source definition).coerce type with
  | error cause =>
    rw [store, converted] at stored
    cases stored
  | ok kept =>
    rw [store, converted, Value.coerce_struct converted] at stored
    exact copy_eq_ok (Edit.ok_of_liftMemory stored)

/-- The causes for which a store is refused: the value has no form of the type, the type has no
objects, or a range that has to be accessed is not live. -/
inductive Refuses (heap : Heap) (address : Address) (type : CType) (value : Value) :
    RuntimeError → Prop where
  | mismatch {cause : RuntimeError} (unconverted : value.coerce type = .error cause) :
    Refuses heap address type value cause
  | void (converted : value.coerce type = .ok .void) :
    Refuses heap address type value (notStorable .void)
  | scalar {kept : Value} (scalar : type.isScalar = true) (converted : value.coerce type = .ok kept)
    (dead : ¬ heap.Accessible address type.size) :
    Refuses heap address type value (.memory (.invalidAccess address type.size))
  /-- Of the two ranges of a structure, that which is copied from is looked at first. -/
  | source {source : Address} {definition : StructDef} (some : 0 < definition.size)
    (converted : value.coerce type = .ok (.struct source definition))
    (dead : ¬ heap.Accessible source definition.size) :
    Refuses heap address type value (.memory (.invalidAccess source definition.size))
  | target {source : Address} {definition : StructDef}
    (converted : value.coerce type = .ok (.struct source definition))
    (live : heap.Accessible source definition.size)
    (dead : ¬ heap.Accessible address definition.size) :
    Refuses heap address type value (.memory (.invalidAccess address definition.size))

/-- A store for which there is a cause to refuse it is refused for that, and the heap stays. -/
theorem Refuses.store {type : CType} {value : Value} {cause : RuntimeError}
    (refuses : heap.Refuses address type value cause) :
    Heap.store address type value heap = .error cause heap := by
  -- Each cause is met by the store in the order in which it looks at them.
  cases refuses with
  | mismatch unconverted =>
    rw [Heap.store, unconverted]
    rfl
  | void converted =>
    rw [Heap.store, converted]
    rfl
  | scalar scalar converted dead =>
    -- A scalar takes as many bytes as its format, and these are told.
    obtain ⟨format, formed⟩ := Option.isSome_iff_exists.mp scalar
    rw [store_of_format address formed converted]
    rw [CType.size_of_format formed] at dead ⊢
    simp only [liftMemory, writeScalar_inaccessible dead]
  | source some converted dead =>
    rw [Heap.store, converted]
    simp only [liftMemory, copy_unreadable some dead]
  | target converted live dead =>
    -- The structure could be read, so that it is the place which is not live.
    rw [Heap.store, converted]
    simp only [liftMemory, live.copy_unwritable dead]

/-- Where there is no such cause, a store succeeds. -/
theorem exists_store {type : CType} {value : Value}
    (accepted : ∀ cause, ¬ heap.Refuses address type value cause) :
    ∃ last, store address type value heap = .ok () last := by
  -- The conversion decides whether there is something to be stored, and what.
  cases converted : value.coerce type with
  | error cause => exact absurd (.mismatch converted) (accepted cause)
  | ok kept =>
    cases formed : type.format? with
    | some format =>
      have scalar : type.isScalar = true := by
        rw [CType.isScalar, formed]
        rfl
      have live : heap.Accessible address type.size :=
        Classical.byContradiction fun dead => accepted _ (.scalar scalar converted dead)
      rw [CType.size_of_format formed, ← encode_length format kept.number] at live
      obtain ⟨last, wrote, -⟩ := live.write
      refine ⟨last, ?_⟩
      rw [store_of_format address formed converted]
      simp only [liftMemory, writeScalar, wrote]
    | none =>
      rcases Value.form_of_coerce_unformed formed converted with rfl | ⟨source, definition, rfl⟩
      · exact absurd (.void converted) (accepted _)
      · rw [store, converted]
        rcases Nat.eq_zero_or_pos definition.size with none | some
        · -- Without bytes nothing is copied, and no address is looked at.
          exact ⟨heap, by simp [liftMemory, copy, none]⟩
        · have readable : heap.Accessible source definition.size :=
            Classical.byContradiction fun dead => accepted _ (.source some converted dead)
          have writable : heap.Accessible address definition.size :=
            Classical.byContradiction fun dead => accepted _ (.target converted readable dead)
          obtain ⟨bytes, last, copied, -⟩ := readable.copy writable
          exact ⟨last, by simp only [liftMemory, copied]⟩

/-- A store fails for one of the causes to refuse it, and then leaves the heap as it is. -/
theorem store_eq_error_iff {type : CType} {value : Value} {cause : RuntimeError} :
    store address type value heap = .error cause last ↔
      last = heap ∧ heap.Refuses address type value cause := by
  constructor
  · intro failed
    -- Either there is a cause, and then it is this one, or the store would have succeeded.
    by_cases refused : ∃ reason, heap.Refuses address type value reason
    · obtain ⟨reason, refuses⟩ := refused
      rw [refuses.store] at failed
      cases failed
      exact ⟨rfl, refuses⟩
    · obtain ⟨next, stored⟩ := exists_store (not_exists.mp refused)
      rw [stored] at failed
      cases failed
  · rintro ⟨rfl, refuses⟩
    exact refuses.store

end Heap

/-- An assignment that yields a value has evaluated the right side, found the place, stored there
and read back what it yields. -/
theorem Expr.eval_assign_eq_ok {invoke : Invoke} {target value : Expr} {context last : Context}
    {result : Value}
    (evaluated : (Expr.assign target value).eval invoke context = .ok result last) :
    ∃ operand middle place placed, value.eval invoke context = .ok operand middle ∧
      target.place invoke middle = .ok place placed ∧
      Heap.store place.address place.type operand placed.heap = .ok () last.heap ∧
      last.heap.load place.address place.type = .ok result := by
  -- The steps of an assignment are taken apart one after the other.
  rw [eval_assign_eq] at evaluated
  obtain ⟨operand, middle, ran, rest⟩ := exists_of_bind_ok evaluated
  obtain ⟨place, placed, found, rest⟩ := exists_of_bind_ok rest
  obtain ⟨_, after, edited, loaded⟩ := exists_of_bind_ok rest
  obtain ⟨read, rfl⟩ := Exec.loadPlace_eq_ok loaded
  refine ⟨operand, middle, place, placed, ran, found, ?_, read⟩
  -- To store is an edit of the heap.
  rw [Exec.edit_run] at edited
  cases stored : Heap.store place.address place.type operand placed.heap with
  | ok _ heap =>
    rw [stored] at edited
    cases edited
    rfl
  | error cause heap =>
    rw [stored] at edited
    cases edited

/--
What is stored is read back, on every heap, at every address, for every type and every value.

A store fails just if the value has no form of the type, if there are no objects of the type, or if
the range to be written, or that of the structure to be copied, is not live; it then leaves the heap
as it is, and tells that cause.
A store of a type of numbers, characters or pointers that succeeds makes the object hold the value
as it was converted to the type: that is what is loaded from there, and only the bytes of the object
may have changed.
After a store of a structure that succeeds, the bytes where it was stored are those that stood
before where it came from, as many as its own definition has, also if the two ranges overlap; all
others are as they were.
So an assignment to a number, a character or a pointer that yields a value yields the value of its
right side, as it is converted to the type of the place.
-/
theorem Heap.store_then_load (heap : Heap) (address : Address) (type : CType) (value : Value) :
    (∀ cause last, store address type value heap = .error cause last ↔
      last = heap ∧ heap.Refuses address type value cause) ∧
    (∀ last, store address type value heap = .ok () last →
      (type.isScalar = true → ∃ kept bytes, value.coerce type = .ok kept ∧
        last.load address type = .ok kept ∧ bytes.length = type.size ∧
        heap.Overwritten address bytes last) ∧
      ∀ source definition, value = .struct source definition →
        ∃ bytes, bytes.length = definition.size ∧ heap.Shows source bytes ∧
          heap.Overwritten address bytes last) ∧
    ∀ invoke context (target right : Expr) result last,
      (Expr.assign target right).eval invoke context = .ok result last →
      ∃ operand middle place placed, right.eval invoke context = .ok operand middle ∧
        target.place invoke middle = .ok place placed ∧
        (place.type.isScalar = true → operand.coerce place.type = .ok result) := by
  refine ⟨fun cause last => store_eq_error_iff, fun last stored => ⟨fun scalar => ?_, ?_⟩,
    fun invoke context target right result last evaluated => ?_⟩
  · -- What has been stored as a scalar is loaded.
    exact load_of_store scalar stored
  · -- A structure is copied.
    rintro source definition rfl
    exact store_struct stored
  · obtain ⟨operand, middle, place, placed, ran, found, stored, loaded⟩ :=
      Expr.eval_assign_eq_ok evaluated
    refine ⟨operand, middle, place, placed, ran, found, fun scalar => ?_⟩
    -- What was read back is what has been stored.
    obtain ⟨kept, -, converted, read, -⟩ := load_of_store scalar stored
    rw [loaded] at read
    rw [converted, Except.ok.inj read]

end StepMachine
