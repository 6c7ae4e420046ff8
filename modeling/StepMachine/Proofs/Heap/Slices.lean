import StepMachine.Proofs.Heap.FirstFit
import StepMachine.Proofs.Heap.Scalars
import StepMachine.Proofs.Wary.Objects

/-! Parts that are cut from a block, and from one another: whatever is done through any of them
stays within the bytes that were asked for, and giving one up frees nothing. -/

namespace StepMachine

namespace Block

/-- Cuts a part from a block, a part from that part, and so on. -/
def cut (block : Block) : List (Nat × Nat) → Except MemoryError Block
  | [] => .ok block
  | (offset, length) :: cuts => do (← block.slice offset length).cut cuts

/-- Cuts of which each stays within what the one before it has left, by plain numbers. -/
def Nested : (size : Nat) → List (Nat × Nat) → Prop
  | _, [] => True
  | size, (offset, length) :: cuts => offset + length ≤ size ∧ Nested length cuts

/-- A block that starts `start` bytes into another one, and ends no later. -/
structure Spans (owner : Block) (start : Nat) (handle : Block) : Prop where
  address : handle.address = owner.address + UInt64.ofNat start
  inside : start + handle.size ≤ owner.size

variable {block owner handle : Block}

/-- A part within the size has the address that lies as far on. -/
theorem part_within {offset length : Nat} (within : offset + length ≤ block.size) :
    block.part offset length = .ok (block.address + UInt64.ofNat offset) := if_pos within

/-- Any other part is refused, and told as it was asked for. -/
theorem part_beyond {offset length : Nat} (beyond : ¬ offset + length ≤ block.size) :
    block.part offset length =
      .error (.invalidAccess (block.address + UInt64.ofNat offset) length) :=
  if_neg beyond

/-- A part is cut just if it stays within the size, and owns nothing. -/
theorem slice_eq_ok_iff {offset length : Nat} :
    block.slice offset length = .ok handle ↔
      offset + length ≤ block.size ∧
        handle = ⟨block.address + UInt64.ofNat offset, length, false⟩ := by
  rw [slice]
  -- Only the check of the bounds can stand in the way of a cut.
  by_cases within : offset + length ≤ block.size
  · -- Within the bounds the cut is made, and owns nothing.
    rw [part_within within]
    constructor
    · intro cut
      cases cut
      exact ⟨within, rfl⟩
    · rintro ⟨-, rfl⟩
      rfl
  · -- Beyond them it is refused.
    rw [part_beyond within]
    constructor
    · intro cut
      cases cut
    · intro fits
      exact absurd fits.1 within

/-- Distances are added up along a chain of addresses. -/
theorem address_add (address : Address) (first second : Nat) :
    address + UInt64.ofNat first + UInt64.ofNat second =
      address + UInt64.ofNat (first + second) := by
  rw [UInt64.ofNat_add, UInt64.add_assoc]

/-- A part of a part is a part of the whole. -/
theorem slice_slice {first length offset count : Nat} :
    (owner.slice first length >>= (·.slice offset count)) = .ok handle ↔
      (first + length ≤ owner.size ∧ offset + count ≤ length) ∧
        owner.slice (first + offset) count = .ok handle := by
  by_cases within : first + length ≤ owner.size
  · rw [slice_eq_ok_iff.mpr ⟨within, rfl⟩]
    show Block.slice ⟨_, length, false⟩ offset count = _ ↔ _
    rw [slice_eq_ok_iff, slice_eq_ok_iff, address_add]
    -- What lies in the part lies in the whole as well.
    constructor
    · rintro ⟨inner, rfl⟩
      have inner : offset + count ≤ length := inner
      exact ⟨⟨within, inner⟩, by omega, rfl⟩
    · rintro ⟨⟨-, inner⟩, -, rfl⟩
      exact ⟨inner, rfl⟩
  · rw [slice, part_beyond within]
    -- A part that was refused is not cut any further, and does not lie in the whole either.
    constructor
    · intro cut
      cases cut
    · intro fits
      exact absurd fits.1.1 within

/-- The first cut of a chain is made, and the others are made from what it has left. -/
theorem cut_cons_eq_ok_iff {offset length : Nat} {cuts : List (Nat × Nat)} :
    block.cut ((offset, length) :: cuts) = .ok handle ↔
      ∃ part, block.slice offset length = .ok part ∧ part.cut cuts = .ok handle := by
  rw [cut]
  -- Once it is known whether the first cut can be made, both sides say the same.
  cases block.slice offset length with
  -- Without the first cut there is nothing to go on with.
  | error cause =>
    constructor
    · intro made
      cases made
    · rintro ⟨part, sliced, -⟩
      cases sliced
  | ok part =>
    constructor
    · intro made
      exact ⟨part, rfl, made⟩
    · rintro ⟨_, same, made⟩
      cases same
      exact made

/-- A chain can be cut just if each cut stays within what the one before it has left. -/
theorem exists_cut_iff {cuts : List (Nat × Nat)} :
    (∃ handle, block.cut cuts = .ok handle) ↔ Nested block.size cuts := by
  -- Each cut shrinks the size that the ones after it have to stay within.
  induction cuts generalizing block with
  | nil => exact ⟨fun _ => trivial, fun _ => ⟨block, rfl⟩⟩
  | cons first cuts ih =>
    obtain ⟨offset, length⟩ := first
    simp only [cut_cons_eq_ok_iff, slice_eq_ok_iff]
    -- The first cut hands on a part of the length that was asked for, and no other.
    constructor
    · rintro ⟨handle, part, ⟨within, rfl⟩, made⟩
      exact ⟨within, ih.mp ⟨handle, made⟩⟩
    · rintro ⟨within, nested⟩
      obtain ⟨handle, made⟩ := (@ih ⟨block.address + UInt64.ofNat offset, length, false⟩).mpr nested
      exact ⟨handle, _, ⟨within, rfl⟩, made⟩

/-- A chain of at least one cut leaves what a single cut leaves, as far on as all of them
together. -/
theorem slice_of_cut {cuts : List (Nat × Nat)} (some : cuts ≠ [])
    (made : owner.cut cuts = .ok handle) :
    owner.slice (cuts.map Prod.fst).sum handle.size = .ok handle := by
  -- The cuts after the first are a chain on what it has left, so they come down to one cut of that.
  induction cuts generalizing owner with
  | nil => exact absurd rfl some
  | cons first cuts ih =>
    obtain ⟨offset, length⟩ := first
    obtain ⟨part, sliced, rest⟩ := cut_cons_eq_ok_iff.mp made
    cases cuts with
    -- A chain of one cut is that cut.
    | nil =>
      cases rest
      have size : handle.size = length := by rw [(slice_eq_ok_iff.mp sliced).2]
      simpa [size] using sliced
    | cons second cuts =>
      -- The later cuts make a single cut of the first part.
      have inner := ih nofun rest
      have both : (owner.slice offset length >>=
          (·.slice ((second :: cuts).map Prod.fst).sum handle.size)) = .ok handle := by
        rw [sliced]
        exact inner
      simpa using (slice_slice.mp both).2

/-- What a chain of cuts leaves lies in the owner. -/
theorem spans_of_cut {cuts : List (Nat × Nat)} (made : owner.cut cuts = .ok handle) :
    owner.Spans (cuts.map Prod.fst).sum handle := by
  -- The empty chain leaves the owner itself, and any other comes down to a single cut of it.
  cases cuts with
  | nil =>
    cases made
    exact ⟨by simp, by simp⟩
  | cons first cuts =>
    have single := slice_of_cut (List.cons_ne_nil first cuts) made
    obtain ⟨within, same⟩ := slice_eq_ok_iff.mp single
    exact ⟨by rw [same], within⟩

/-- Bytes within what a chain of cuts has left lie in the owner, if the owner has addresses: no
address among them wraps around. -/
theorem Spans.toNat_address {start : Nat} (spans : owner.Spans start handle)
    (addressed : owner.address.toNat + owner.size ≤ UInt64.size) {offset length : Nat}
    (some : 0 < length) (within : offset + length ≤ handle.size) :
    (handle.address + UInt64.ofNat offset).toNat = owner.address.toNat + (start + offset) := by
  -- Nothing wraps around: the byte lies in front of the end of the owner.
  have inside := spans.inside
  rw [spans.address, address_add]
  exact Address.toNat_offset (by omega)

end Block

/-- What can be done with a part of a block. -/
inductive Access where
  | read (offset length : Nat)
  | write (offset : Nat) (bytes : List UInt8)
  | readScalar (scalar : Scalar) (offset : Nat)
  | writeScalar (scalar : Scalar) (offset : Nat) (number : Int)

namespace Access

/-- What an access that succeeds tells. -/
inductive Answer where
  | bytes (bytes : List UInt8)
  | number (number : Int)
  | done
  deriving DecidableEq

/-- Where the part starts. -/
def offset : Access → Nat
  | read offset _ | write offset _ | readScalar _ offset | writeScalar _ offset _ => offset

/-- How many bytes the part has. -/
def length : Access → Nat
  | read _ length => length
  | write _ bytes => bytes.length
  | readScalar scalar _ | writeScalar scalar _ _ => scalar.size

/-- Looks at a heap, and leaves it as it is. -/
def look (view : Heap → Except MemoryError Answer) : Edit MemoryError Answer := fun heap =>
  match view heap with
  | .ok answer => .ok answer heap
  | .error cause => .error cause heap

/-- The access through a block. -/
def perform (block : Block) : Access → Edit MemoryError Answer
  | read offset length => look fun heap => (block.read heap offset length).map .bytes
  | write offset bytes => do
    block.write offset bytes
    return .done
  | readScalar scalar offset => look fun heap => (block.readScalar heap scalar offset).map .number
  | writeScalar scalar offset number => do
    block.writeScalar scalar offset number
    return .done

/-- The access at an address of the heap. -/
def performAt (address : Address) : Access → Edit MemoryError Answer
  | read _ length => look fun heap => (heap.read address length).map .bytes
  | write _ bytes => do
    Heap.write address bytes
    return .done
  | readScalar scalar _ => look fun heap => (heap.readScalar scalar address).map .number
  | writeScalar scalar _ number => do
    Heap.writeScalar scalar address number
    return .done

variable {access : Access} {block : Block} {heap last other : Heap} {address : Address}

/-- An access through a block is checked against its size, and then made at an address. -/
theorem perform_eq (access : Access) (block : Block) :
    access.perform block = match block.part access.offset access.length with
      | .error cause => throw cause
      | .ok address => access.performAt address := by
  -- Every kind of access asks for its part first, and then goes on at the address it was given.
  cases access with
  | read offset length =>
    simp only [perform, Access.offset, Access.length, Block.read]
    cases block.part offset length <;> rfl
  | write offset bytes =>
    simp only [perform, Access.offset, Access.length, Block.write]
    cases block.part offset bytes.length <;> rfl
  | readScalar scalar offset =>
    simp only [perform, Access.offset, Access.length, Block.readScalar]
    cases block.part offset scalar.size <;> rfl
  | writeScalar scalar offset number =>
    simp only [perform, Access.offset, Access.length, Block.writeScalar]
    cases block.part offset scalar.size <;> rfl

/-- Within the block, the heap is accessed as it is at that address. -/
theorem perform_within (within : access.offset + access.length ≤ block.size) :
    access.perform block = access.performAt (block.address + UInt64.ofNat access.offset) := by
  rw [perform_eq, block.part_within within]

/-- Beyond the block it is not accessed at all, whatever is live there. -/
theorem perform_beyond (beyond : ¬ access.offset + access.length ≤ block.size) (heap : Heap) :
    access.perform block heap = .error
      (.invalidAccess (block.address + UInt64.ofNat access.offset) access.length) heap := by
  rw [perform_eq, block.part_beyond beyond]
  rfl

/-- What is not live is not accessed. -/
theorem performAt_inaccessible (inaccessible : ¬ heap.Accessible address access.length) :
    access.performAt address heap = .error (.invalidAccess address access.length) heap := by
  -- All four kinds come down to the check of the heap, which has the same answer for each.
  cases access with
  | read offset length =>
    rw [Access.length] at inaccessible
    simp only [performAt, look, Heap.read_inaccessible inaccessible]
    rfl
  | write offset bytes =>
    simp only [performAt, bind, EStateM.bind, Heap.write_inaccessible inaccessible]
    rfl
  | readScalar scalar offset =>
    simp only [performAt, look, Heap.readScalar_inaccessible inaccessible]
    rfl
  | writeScalar scalar offset number =>
    simp only [performAt, bind, EStateM.bind, Heap.writeScalar_inaccessible inaccessible]
    rfl

/-- What is live is read, or is overwritten with the bytes that were given. -/
theorem performAt_accessible (accessible : heap.Accessible address access.length) :
    ∃ answer, access.performAt address heap = .ok answer heap ∨
      ∃ bytes last, bytes.length = access.length ∧
        Heap.write address bytes heap = .ok () last ∧
        access.performAt address heap = .ok answer last := by
  -- What looks leaves the heap alone; what changes it writes bytes, be they the encoding of a
  -- number.
  cases access with
  | read offset length =>
    rw [Access.length] at accessible
    obtain ⟨bytes, read, -⟩ := accessible.read
    refine ⟨.bytes bytes, .inl ?_⟩
    simp only [performAt, look, read]
    rfl
  | write offset bytes =>
    obtain ⟨last, wrote, -⟩ := Heap.Accessible.write accessible
    refine ⟨.done, .inr ⟨bytes, last, rfl, wrote, ?_⟩⟩
    simp only [performAt, bind, EStateM.bind, wrote]
    rfl
  | readScalar scalar offset =>
    obtain ⟨bytes, read, -⟩ := Heap.Accessible.readScalar accessible
    refine ⟨.number (scalar.decode bytes), .inl ?_⟩
    simp only [performAt, look, read]
    rfl
  | writeScalar scalar offset number =>
    have length := Heap.encode_length scalar number
    obtain ⟨last, wrote, -⟩ := @Heap.Accessible.write _ _ (scalar.encode number)
      (by rw [length]; exact accessible)
    refine ⟨.done, .inr ⟨scalar.encode number, last, length, wrote, ?_⟩⟩
    simp only [performAt, bind, EStateM.bind, Heap.writeScalar, wrote]
    rfl

/-- An access that succeeds at an address changes no byte elsewhere, and nothing but bytes. -/
theorem performAt_changes {answer : Answer}
    (performed : access.performAt address heap = .ok answer last) :
    heap.Rewritten last ∧ heap.ChangedWithin last address access.length := by
  -- What could not be accessed changes nothing, as it fails.
  by_cases accessible : heap.Accessible address access.length
  · -- What only looks leaves the heap, and what writes stays in its range.
    obtain ⟨told, looked | ⟨bytes, next, length, wrote, written⟩⟩ := performAt_accessible accessible
    · rw [looked] at performed
      cases performed
      exact ⟨.refl _, .of_bytes rfl⟩
    · rw [written] at performed
      cases performed
      have rewritten := Heap.write_rewrites address bytes heap
      rw [Edit.after, wrote] at rewritten
      rw [← length]
      exact ⟨rewritten, Heap.write_changes wrote⟩
  · rw [performAt_inaccessible accessible] at performed
    cases performed

end Access

namespace Heap

/-- Two heaps of one shape, with the same units live and the same bytes in a block. -/
structure AgreesOn (heap : Heap) (block : Block) (other : Heap) : Prop where
  unit : other.unit = heap.unit
  units : other.units = heap.units
  live : ∀ index, other.unitLive index = heap.unitLive index
  bytes : heap.Untouched other block

/-- Two results that tell the same, and leave heaps that agree on a block. -/
inductive Matches (block : Block) :
    EStateM.Result MemoryError Heap α → EStateM.Result MemoryError Heap α → Prop where
  | ok (answer : α) {last other : Heap} (agrees : last.AgreesOn block other) :
    Matches block (.ok answer last) (.ok answer other)
  | error (cause : MemoryError) {last other : Heap} (agrees : last.AgreesOn block other) :
    Matches block (.error cause last) (.error cause other)

/-- The same bytes are listed alike. -/
theorem bytesAt_congr {heap last : Heap} {position count : Nat} {behind : List UInt8}
    (same : ∀ index < count, last.byteAt (position + index) = heap.byteAt (position + index)) :
    last.bytesAt position count behind = heap.bytesAt position count behind := by
  -- The first byte goes in front of what was listed, so the list behind it varies.
  induction count generalizing behind with
  | zero => rfl
  | succ count ih =>
    rw [bytesAt, bytesAt, same count (by omega)]
    exact ih fun index inside => same index (by omega)

namespace AgreesOn

variable {heap other last next : Heap} {block : Block} {address : Address}

/-- The same ranges can be accessed. -/
theorem accessible_iff (agrees : heap.AgreesOn block other) {length : Nat} :
    other.Accessible address length ↔ heap.Accessible address length := by
  -- Liveness is the same in both directions.
  constructor
  · intro accessible
    exact accessible.along agrees.unit.symm agrees.units.symm fun index => (agrees.live index).symm
  · intro accessible
    exact accessible.along agrees.unit agrees.units agrees.live

/-- What is read within the block is the same. -/
theorem read_eq (agrees : heap.AgreesOn block other) (low : heapBase ≤ block.address.toNat)
    {length : Nat} (lower : block.address.toNat ≤ address.toNat)
    (upper : address.toNat + length ≤ block.address.toNat + block.size) :
    other.read address length = heap.read address length := by
  -- What cannot be accessed on the one is refused on the other in the same words.
  by_cases accessible : heap.Accessible address length
  · rw [Heap.read, Heap.read, accessible.locate, (agrees.accessible_iff.mpr accessible).locate]
    refine congrArg Except.ok (bytesAt_congr fun index inside => ?_)
    -- Counted from the start of the block, the byte lies as much further on as the range does.
    have same := agrees.bytes (address.toNat - block.address.toNat + index) (by omega)
    rwa [show block.address.toNat - heapBase + (address.toNat - block.address.toNat + index) =
      address.toNat - heapBase + index by omega] at same
  · rw [read_inaccessible accessible, read_inaccessible (mt agrees.accessible_iff.mp accessible)]

/-- The same bytes over the same range leave the heaps in agreement. -/
theorem overwritten (agrees : heap.AgreesOn block other) (low : heapBase ≤ address.toNat)
    {bytes : List UInt8} (one : heap.Overwritten address bytes last)
    (two : other.Overwritten address bytes next) : last.AgreesOn block next := by
  refine ⟨?_, ?_, fun index => ?_, fun index inside => ?_⟩
  · rw [one.unit, two.unit, agrees.unit]
  · rw [one.units, two.units, agrees.units]
  · rw [unitLive, unitLive, one.live, two.live]
    exact agrees.live index
  -- A byte of the block was either written on both, or on neither.
  · generalize place : block.address.toNat - heapBase + index = position
    by_cases written : address.toNat ≤ heapBase + position ∧
        heapBase + position < address.toNat + bytes.length
    · -- Here both show the byte that was written.
      obtain ⟨distance, rfl⟩ : ∃ distance, position = address.toNat - heapBase + distance :=
        Nat.exists_eq_add_of_le (by omega)
      rw [one.shows distance (by omega), two.shows distance (by omega)]
    · rw [one.others position written, two.others position written, ← place]
      exact agrees.bytes index inside

/-- A write has the same result on both. -/
theorem write_matches (agrees : heap.AgreesOn block other) (address : Address)
    (bytes : List UInt8) :
    Matches block (write address bytes heap) (write address bytes other) := by
  -- Whether the range is live is the same for both.
  by_cases accessible : heap.Accessible address bytes.length
  · -- Both accept the bytes, and then hold the same in the block.
    obtain ⟨last, wrote, one⟩ := accessible.write
    obtain ⟨next, written, two⟩ := (agrees.accessible_iff.mpr accessible).write
    have low := (accessible.inside 0 accessible.some).1
    rw [wrote, written]
    exact .ok () (agrees.overwritten low one two)
  · -- Both refuse them with the same cause.
    rw [write_inaccessible accessible,
      write_inaccessible (mt agrees.accessible_iff.mp accessible)]
    exact .error _ agrees

end AgreesOn

/-- Changes that tell nothing match if what they leave does. -/
theorem Matches.done {block : Block} {change : Edit MemoryError Unit} {heap other : Heap}
    (same : Matches block (change heap) (change other)) :
    Matches block ((do change; return Access.Answer.done : Edit MemoryError _) heap)
      ((do change; return Access.Answer.done : Edit MemoryError _) other) := by
  -- Telling that it is done takes the place of an answer that tells nothing.
  simp only [bind, EStateM.bind]
  generalize change heap = one at same ⊢
  generalize change other = two at same ⊢
  cases same with
  | ok _ agrees => exact .ok _ agrees
  | error cause agrees => exact .error cause agrees

end Heap

namespace Access

variable {access : Access} {owner handle : Block} {heap other : Heap} {address : Address}

/-- An access within a block has the same result on heaps that agree on the block. -/
theorem performAt_matches (agrees : heap.AgreesOn owner other)
    (low : heapBase ≤ owner.address.toNat) (lower : owner.address.toNat ≤ address.toNat)
    (upper : address.toNat + access.length ≤ owner.address.toNat + owner.size) :
    Heap.Matches owner (access.performAt address heap) (access.performAt address other) := by
  -- What looks sees bytes of the block only; what changes writes the same bytes on both.
  cases access with
  -- A read tells the bytes, and a number is told by its bytes.
  | read offset length =>
    rw [Access.length] at upper
    simp only [performAt, look, agrees.read_eq low lower upper]
    cases heap.read address length with
    | ok bytes => exact .ok _ agrees
    | error cause => exact .error cause agrees
  | write offset bytes => exact (agrees.write_matches address bytes).done
  | readScalar scalar offset =>
    rw [Access.length] at upper
    simp only [performAt, look, Heap.readScalar_eq_read, agrees.read_eq low lower upper]
    cases heap.read address scalar.size with
    | ok bytes => exact .ok _ agrees
    | error cause => exact .error cause agrees
  | writeScalar scalar offset number => exact (agrees.write_matches address _).done

/-- Through a block nothing is accessed that is not live. -/
theorem perform_inaccessible (inaccessible :
    ¬ heap.Accessible (handle.address + UInt64.ofNat access.offset) access.length) :
    access.perform handle heap = .error
      (.invalidAccess (handle.address + UInt64.ofNat access.offset) access.length) heap := by
  -- The access fails on the size, or else on the heap.
  by_cases within : access.offset + access.length ≤ handle.size
  · rw [perform_within within, performAt_inaccessible inaccessible]
  · exact perform_beyond within heap

/-- What is live within a block is accessed. -/
theorem exists_perform (within : access.offset + access.length ≤ handle.size)
    (accessible :
      heap.Accessible (handle.address + UInt64.ofNat access.offset) access.length) :
    ∃ answer last, access.perform handle heap = .ok answer last := by
  rw [perform_within within]
  obtain ⟨answer, looked | ⟨_, last, _, _, written⟩⟩ := performAt_accessible accessible
  · exact ⟨answer, heap, looked⟩
  · exact ⟨answer, last, written⟩

/-- An access that fails leaves the heap as it is. -/
theorem perform_error {cause : MemoryError} {last : Heap}
    (failed : access.perform handle heap = .error cause last) : last = heap := by
  -- Of the three ways an access can go, two are refused before anything is written.
  by_cases within : access.offset + access.length ≤ handle.size
  · by_cases accessible :
      heap.Accessible (handle.address + UInt64.ofNat access.offset) access.length
    · -- An access to live bytes succeeds.
      obtain ⟨answer, next, performed⟩ := exists_perform within accessible
      rw [performed] at failed
      cases failed
    · rw [perform_inaccessible accessible] at failed
      cases failed
      rfl
  · rw [perform_beyond within] at failed
    cases failed
    rfl

end Access

namespace Block

/-- Everything that is done through a handle stays within its own bytes and those of the owner. -/
structure Confines (owner handle : Block) : Prop where
  /-- Past its own bytes nothing is accessed, whatever is live there. -/
  beyond : ∀ (access : Access) heap, handle.size < access.offset + access.length →
    access.perform handle heap = .error
      (.invalidAccess (handle.address + UInt64.ofNat access.offset) access.length) heap
  /-- Nor is anything accessed that is not live, be it that the owner was given up. -/
  dead : ∀ (access : Access) (heap : Heap),
    ¬ heap.Accessible (handle.address + UInt64.ofNat access.offset) access.length →
    access.perform handle heap = .error
      (.invalidAccess (handle.address + UInt64.ofNat access.offset) access.length) heap
  /-- Everything else is. -/
  live : ∀ (access : Access) (heap : Heap), access.offset + access.length ≤ handle.size →
    heap.Accessible (handle.address + UInt64.ofNat access.offset) access.length →
    ∃ answer last, access.perform handle heap = .ok answer last
  /-- Where the owner is live, so is every part of the handle that is not empty. -/
  owned : ∀ (heap : Heap) offset length, heap.Accessible owner.address owner.size → 0 < length →
    offset + length ≤ handle.size → heap.Accessible (handle.address + UInt64.ofNat offset) length
  /-- Nothing changes but bytes of the owner. -/
  changes : ∀ (access : Access) heap answer last, access.perform handle heap = .ok answer last →
    heap.Rewritten last ∧ heap.ChangedWithin last owner.address owner.size
  /-- Nothing is told but of bytes of the owner: where only others differ, the same is told, and the
  same is left there. -/
  unaware : ∀ (access : Access) (heap other : Heap), heap.AgreesOn owner other →
    Heap.Matches owner (access.perform handle heap) (access.perform handle other)
  /-- To fill the handle from elsewhere changes no others, and nothing if it fails. -/
  fills : ∀ source length heap, match handle.fillFrom source length heap with
    | .ok _ last => length ≤ handle.size ∧ heap.Rewritten last ∧
        heap.ChangedWithin last owner.address owner.size
    | .error _ last => last = heap

namespace Spans

variable {owner handle : Block} {start : Nat} {heap last : Heap}

/-- Where the owner is live, so is every part of the handle that is not empty. -/
theorem accessible (spans : owner.Spans start handle)
    (addressed : owner.address.toNat + owner.size ≤ UInt64.size)
    (accessible : heap.Accessible owner.address owner.size) {offset length : Nat}
    (some : 0 < length) (within : offset + length ≤ handle.size) :
    heap.Accessible (handle.address + UInt64.ofNat offset) length := by
  have inside := spans.inside
  have place := spans.toNat_address addressed some within
  -- The owner is not empty, as it is accessible, so its first address says that it is in the arena.
  have low := (accessible.inside 0 accessible.some).1
  -- The part lies in the owner, all of whose bytes are in the arena and live.
  refine ⟨some, fun index within => ?_, fun index within => ?_⟩
  · have bounds := accessible.inside (start + offset + index) (by omega)
    rw [place]
    omega
  · have live := accessible.live (start + offset + index) (by omega)
    rwa [place, show owner.address.toNat + (start + offset) - heapBase + index =
      owner.address.toNat - heapBase + (start + offset + index) by omega]

/-- An access through the handle that succeeds changes nothing but bytes of the owner. -/
theorem changes (spans : owner.Spans start handle)
    (addressed : owner.address.toNat + owner.size ≤ UInt64.size) {access : Access}
    {answer : Access.Answer} (performed : access.perform handle heap = .ok answer last) :
    access.offset + access.length ≤ handle.size ∧ heap.Rewritten last ∧
      heap.ChangedWithin last owner.address owner.size := by
  -- Past the end of the handle there is no access.
  by_cases within : access.offset + access.length ≤ handle.size
  · rw [Access.perform_within within] at performed
    obtain ⟨rewritten, changed⟩ := Access.performAt_changes performed
    refine ⟨within, rewritten, fun position different => ?_⟩
    -- Since a byte has changed, there is one in the part, which lies in the owner.
    have bounds := changed position different
    have inside := spans.inside
    rw [spans.toNat_address addressed (by omega) within] at bounds
    omega
  · rw [Access.perform_beyond within] at performed
    cases performed

/-- Bytes outside of the owner have no part in what an access through the handle does. -/
theorem unaware (spans : owner.Spans start handle) (low : heapBase ≤ owner.address.toNat)
    (addressed : owner.address.toNat + owner.size ≤ UInt64.size) (access : Access) {other : Heap}
    (agrees : heap.AgreesOn owner other) :
    Heap.Matches owner (access.perform handle heap) (access.perform handle other) := by
  by_cases within : access.offset + access.length ≤ handle.size
  · -- An empty part is refused on both, since no part of no bytes is accessible.
    rcases Nat.eq_zero_or_pos access.length with none | some
    · -- An empty part is nowhere accessible.
      rw [Access.perform_inaccessible fun accessible => by have := accessible.some; omega,
        Access.perform_inaccessible fun accessible => by have := accessible.some; omega]
      exact .error _ agrees
    · have inside := spans.inside
      have place := spans.toNat_address addressed some within
      rw [Access.perform_within within]
      exact Access.performAt_matches agrees low (by omega) (by omega)
  · rw [Access.perform_beyond within, Access.perform_beyond within]
    exact .error _ agrees

/-- To fill the handle from elsewhere changes nothing but bytes of the owner, and nothing if it
fails. -/
theorem fills (spans : owner.Spans start handle)
    (addressed : owner.address.toNat + owner.size ≤ UInt64.size) (source : Address) (length : Nat)
    (heap : Heap) : match handle.fillFrom source length heap with
      | .ok _ last => length ≤ handle.size ∧ heap.Rewritten last ∧
          heap.ChangedWithin last owner.address owner.size
      | .error _ last => last = heap := by
  unfold fillFrom
  -- Nothing is written if the source cannot be read.
  cases read : heap.read source length with
  | error cause => rfl
  | ok bytes =>
    -- The bytes that were read are written to the start of the handle.
    have size := Heap.read_length read
    dsimp only
    cases wrote : handle.write 0 bytes heap with
    | ok answer last =>
      have performed : (Access.write 0 bytes).perform handle heap = .ok .done last := by
        simp only [Access.perform, bind, EStateM.bind, wrote]
        rfl
      have changes := spans.changes addressed performed
      simp only [Access.offset, Access.length, Nat.zero_add, size] at changes
      exact changes
    | error cause last =>
      have failed : (Access.write 0 bytes).perform handle heap = .error cause last := by
        simp only [Access.perform, bind, EStateM.bind, wrote]
      exact Access.perform_error failed

/-- A block that lies in an owner is confined to it. -/
theorem confines (spans : owner.Spans start handle) (low : heapBase ≤ owner.address.toNat)
    (addressed : owner.address.toNat + owner.size ≤ UInt64.size) : owner.Confines handle where
  beyond access heap past := Access.perform_beyond (by omega) heap
  dead access heap inaccessible := Access.perform_inaccessible inaccessible
  live access heap within accessible := Access.exists_perform within accessible
  owned heap offset length accessible some within :=
    spans.accessible addressed accessible some within
  changes access heap answer last performed := (spans.changes addressed performed).2
  unaware access heap other agrees := spans.unaware low addressed access agrees
  fills source length heap := spans.fills addressed source length heap

end Spans

end Block

/--
Whatever is cut from a block that was handed out, in however many steps, is confined to the bytes
that were asked for.

A part of a part can be cut just if the first lies within the size and the second within the first,
by plain numbers; and then it is the part of the whole that lies as far on as both together.
A chain of cuts can be made just if each stays within what the one before it has left, and leaves
what one cut leaves.
Through the block and through everything that is cut from it, nothing is accessed past its own
bytes, though it may be live, nothing that is not live, and everything else; an access that fails
leaves the heap as it is and tells what was asked for.
One that succeeds changes no byte but those that were asked for when the block was handed out, even
where its last unit goes on, and no other byte has a part in what it tells.
Giving up what was cut changes nothing, whatever the heap has become by then.
All that is asked of the heap is that each of its bytes has an address of 64 bits, as in every arena
that a host can make.
-/
theorem Heap.parts_stay_within_owner {size unit wanted : Nat} {fresh heap next : Heap}
    {owner : Block} (created : create size unit = .ok fresh)
    (fits : heapBase + size ≤ UInt64.size) (reached : fresh.Reached heap)
    (allocated : allocate wanted heap = .ok owner next) :
    owner.size = wanted ∧
    (∀ first length offset count handle,
      (owner.slice first length >>= (·.slice offset count)) = .ok handle ↔
        (first + length ≤ wanted ∧ offset + count ≤ length) ∧
          owner.slice (first + offset) count = .ok handle) ∧
    ∀ cuts : List (Nat × Nat),
      ((∃ handle, owner.cut cuts = .ok handle) ↔ Block.Nested wanted cuts) ∧
      ∀ handle, owner.cut cuts = .ok handle →
        owner.Confines handle ∧
        (cuts ≠ [] → owner.slice (cuts.map Prod.fst).sum handle.size = .ok handle ∧
          ∀ later : Heap, later.release handle = later) := by
  obtain ⟨blocks, holds⟩ := reached.holds created fits
  have size_eq : owner.size = wanted := by
    -- A block that was handed out has the size that was asked for.
    obtain ⟨first, -, -, -, rfl, -⟩ := allocate_ok holds.bounded allocated
    rfl
  -- The block lies in an arena that has addresses.
  have held := allocate_holds holds allocated
  have seats := held.seated owner (List.mem_cons_self ..)
  have addressed : owner.address.toNat + owner.size ≤ UInt64.size :=
    Nat.le_trans seats.within held.addressable
  have low : heapBase ≤ owner.address.toNat := by
    rw [seats.address]
    exact Nat.le_add_right ..
  refine ⟨size_eq, fun first length offset count handle => ?_, fun cuts => ⟨?_, ?_⟩⟩
  · rw [← size_eq]
    exact Block.slice_slice
  · -- Whether a chain can be made is a question of numbers alone.
    rw [← size_eq]
    exact Block.exists_cut_iff
  · -- Where it can be made, what it leaves spans bytes of the owner and owns nothing to give up.
    intro handle made
    refine ⟨(Block.spans_of_cut made).confines low addressed, fun some => ?_⟩
    have single := Block.slice_of_cut some made
    refine ⟨single, fun later => Custody.release_idle ?_⟩
    rw [(Block.slice_eq_ok_iff.mp single).2]

/-- Of twenty bytes, which end inside a unit, eight are left by two cuts: the byte right behind them
is live, and so are those that fill up the last unit, but neither is accessed. Nor does a cut go
around the end of all addresses. -/
theorem Heap.parts_stay_within_owner_of_twenty :
    ∃ fresh owner next handle, create 64 8 = .ok fresh ∧ allocate 20 fresh = .ok owner next ∧
      owner.cut [(4, 12), (2, 8)] = .ok handle ∧ owner.slice 6 8 = .ok handle ∧
      next.isLive (handle.address + 8) 1 = true ∧
      (Access.read 8 1).perform handle next =
        .error (.invalidAccess (handle.address + 8) 1) next ∧
      next.isLive (owner.address + 20) 4 = true ∧
      (Access.writeScalar .int 20 7).perform owner next =
        .error (.invalidAccess (owner.address + 20) 4) next ∧
      (∃ answer last, (Access.writeScalar .int 4 7).perform handle next = .ok answer last) ∧
      (¬ ∃ part, owner.cut [(2 ^ 64 - 1, 2)] = .ok part) ∧
      (next.release owner).release handle = next.release owner := by
  have created : create 64 8 = .ok _ := rfl
  -- The claims about the chain are read off for the two cuts, and off the empty chain for the
  -- block.
  obtain ⟨-, -, confined⟩ := @parts_stay_within_owner 64 8 20 _ _ _ ⟨0x1000, 20, true⟩ created
    (by decide) (.host []) rfl
  have made : Block.cut ⟨0x1000, 20, true⟩ [(4, 12), (2, 8)] = .ok ⟨0x1006, 8, false⟩ := rfl
  obtain ⟨inner, once⟩ := (confined [(4, 12), (2, 8)]).2 _ made
  obtain ⟨whole, -⟩ := (confined []).2 _ rfl
  obtain ⟨same, idle⟩ := once (by decide)
  refine ⟨_, ⟨0x1000, 20, true⟩, _, _, created, rfl, made, same, by decide +kernel, ?_,
    by decide +kernel, ?_, ?_, ?_, idle _⟩
  · exact inner.beyond (.read 8 1) _ (by decide)
  · exact whole.beyond (.writeScalar .int 20 7) _ (by decide)
  · exact inner.live (.writeScalar .int 4 7) _ (by decide) (isLive_iff.mp (by decide +kernel))
  · rw [(confined [(2 ^ 64 - 1, 2)]).1]
    exact fun nested => absurd nested.1 (by decide)

end StepMachine
