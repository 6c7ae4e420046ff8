import StepMachine.Proofs.Eval.Formatting
import StepMachine.Proofs.Exec.Effect
import StepMachine.Proofs.Heap.Custody
import StepMachine.Proofs.Heap.Scalars

/-! Reading a text from memory, byte after byte without a bound of its own: the reading always comes
to an end, at the first zero byte or at the first byte that is not live. -/

namespace StepMachine

namespace Heap

/-- Whether a place, given as a plain number, lies in the arena and in a live unit. -/
def LiveAt (heap : Heap) (place : Nat) : Prop :=
  heapBase ≤ place ∧ place < heapBase + heap.size ∧
    heap.unitLive ((place - heapBase) / heap.unit) = true

/-- Whether a place is live is found by two comparisons and a look at its unit. -/
instance (heap : Heap) (place : Nat) : Decidable (heap.LiveAt place) :=
  inferInstanceAs (Decidable (_ ∧ _ ∧ _))

/-- The byte at a place. -/
def byteOf (heap : Heap) (place : Nat) : UInt8 := heap.byteAt (place - heapBase)

/-- From a place on, `count` bytes are live and none of them is zero. -/
def Filled (heap : Heap) (place count : Nat) : Prop :=
  ∀ index < count, heap.LiveAt (place + index) ∧ heap.byteOf (place + index) ≠ 0

/-- Each of finitely many places is looked at. -/
instance (heap : Heap) (place count : Nat) : Decidable (heap.Filled place count) :=
  inferInstanceAs (Decidable (∀ index < count, _ ∧ _))

/-- The `count` bytes from a place on. -/
def bytesFrom (heap : Heap) (place count : Nat) : List UInt8 :=
  (List.range count).map fun index => heap.byteOf (place + index)

/-- From a place on, `count` live bytes other than zero and a live zero byte behind them. -/
structure TextAt (heap : Heap) (place count : Nat) : Prop where
  filled : heap.Filled place count
  live : heap.LiveAt (place + count)
  ended : heap.byteOf (place + count) = 0

/-- From a place on, `count` live bytes other than zero and one behind them that is not live. -/
structure BreaksOff (heap : Heap) (place count : Nat) : Prop where
  filled : heap.Filled place count
  dead : ¬ heap.LiveAt (place + count)

/-- Reads the byte that stands at an offset from an address. -/
def view (heap : Heap) (address : Address) (offset : Nat) : Except MemoryError Int := do
  heap.readScalar .byte (← address.shift offset 1)

/-- What the reading of a text comes to from an offset on: the bytes in front of the first zero
byte, or a failure. Each round reads one byte, and nothing bounds their number. -/
inductive Scans (heap : Heap) (address : Address) :
    Nat → Except MemoryError (List UInt8) → Prop where
  | fails {offset : Nat} {cause : MemoryError} (read : heap.view address offset = .error cause) :
    Scans heap address offset (.error cause)
  | ends {offset : Nat} (read : heap.view address offset = .ok 0) :
    Scans heap address offset (.ok [])
  | goesOn {offset : Nat} {byte : UInt8} {outcome : Except MemoryError (List UInt8)}
    (read : heap.view address offset = .ok byte.toNat) (more : byte ≠ 0)
    (rest : Scans heap address (offset + 1) outcome) :
    Scans heap address offset (outcome.map (byte :: ·))

section Places

variable {heap : Heap} {place count : Nat}

/-- A range can be accessed just if each of its places is live, and it is not empty. -/
theorem accessible_iff_liveAt {address : Address} :
    heap.Accessible address count ↔
      0 < count ∧ ∀ index < count, heap.LiveAt (address.toNat + index) := by
  constructor
  · intro accessible
    -- In both directions, places are counted from the start of the arena or from null.
    refine ⟨accessible.some, fun index inside => ?_⟩
    have low := (accessible.inside 0 accessible.some).1
    have bounds := accessible.inside index inside
    have live := accessible.live index inside
    refine ⟨bounds.1, bounds.2, ?_⟩
    rwa [show address.toNat + index - heapBase = address.toNat - heapBase + index by omega]
  · rintro ⟨some, live⟩
    refine ⟨some, fun index inside => ⟨(live index inside).1, (live index inside).2.1⟩,
      fun index inside => ?_⟩
    have low := (live 0 some).1
    have here := (live index inside).2.2
    rwa [show address.toNat + index - heapBase = address.toNat - heapBase + index by omega] at here

/-- What is filled from the next place on is filled from one byte earlier, if that byte is live and
not zero. -/
theorem Filled.cons (live : heap.LiveAt place) (other : heap.byteOf place ≠ 0)
    (filled : heap.Filled (place + 1) count) : heap.Filled place (count + 1) := by
  intro index inside
  -- The first place is the one in front, and the others are counted from the next.
  cases index with
  | zero => exact ⟨live, other⟩
  | succ index =>
    have behind := filled index (by omega)
    rwa [show place + (index + 1) = place + 1 + index by omega]

/-- A text is one with one more such byte in front of it. -/
theorem TextAt.cons (live : heap.LiveAt place) (other : heap.byteOf place ≠ 0)
    (text : heap.TextAt (place + 1) count) : heap.TextAt place (count + 1) := by
  -- The zero byte stands where it stood.
  have further : place + (count + 1) = place + 1 + count := by omega
  refine ⟨text.filled.cons live other, ?_, ?_⟩
  · rw [further]
    exact text.live
  · rw [further]
    exact text.ended

/-- What breaks off still does with one more such byte in front of it. -/
theorem BreaksOff.cons (live : heap.LiveAt place) (other : heap.byteOf place ≠ 0)
    (breaks : heap.BreaksOff (place + 1) count) : heap.BreaksOff place (count + 1) := by
  refine ⟨breaks.filled.cons live other, ?_⟩
  rw [show place + (count + 1) = place + 1 + count by omega]
  exact breaks.dead

/-- The bytes from a place on are the one there and those from the next one on. -/
theorem bytesFrom_succ (heap : Heap) (place count : Nat) :
    heap.bytesFrom place (count + 1) = heap.byteOf place :: heap.bytesFrom (place + 1) count := by
  -- Counted from the next place, every index is one lower.
  unfold bytesFrom
  rw [List.range_succ_eq_map, List.map_cons, List.map_map, Nat.add_zero]
  refine List.cons_eq_cons.mpr ⟨rfl, List.map_congr_left fun index _ => ?_⟩
  rw [Function.comp_apply, show place + index.succ = place + 1 + index by omega]

/-- Bytes that are filled end no later than where one is not live or zero. -/
theorem Filled.le {other : Nat} (filled : heap.Filled place count)
    (stops : heap.LiveAt (place + other) → heap.byteOf (place + other) = 0) : count ≤ other := by
  -- Otherwise the place that stops would be one of those that are filled.
  by_contra later
  have here := filled other (by omega)
  exact here.2 (stops here.1)

/-- There is one text at most at a place. -/
theorem TextAt.unique {other : Nat} (one : heap.TextAt place count)
    (two : heap.TextAt place other) : count = other :=
  Nat.le_antisymm (one.filled.le fun _ => two.ended) (two.filled.le fun _ => one.ended)

/-- What breaks off is not ended by a zero byte. -/
theorem TextAt.not_breaksOff {other : Nat} (text : heap.TextAt place count) :
    ¬ heap.BreaksOff place other := by
  -- Neither of the two ends in front of the other, so both end at one place.
  intro breaks
  have fits := text.filled.le fun live => absurd live breaks.dead
  have reaches := breaks.filled.le fun _ => text.ended
  rw [Nat.le_antisymm fits reaches] at text
  exact breaks.dead text.live

/-- There is one place at most where what stands at a place breaks off. -/
theorem BreaksOff.unique {other : Nat} (one : heap.BreaksOff place count)
    (two : heap.BreaksOff place other) : count = other :=
  Nat.le_antisymm (one.filled.le fun live => absurd live two.dead)
    (two.filled.le fun live => absurd live one.dead)

/-- A text goes on to the left over live bytes that are not zero, whoever holds them. -/
theorem TextAt.append {more : Nat} (filled : heap.Filled place count)
    (text : heap.TextAt (place + count) more) : heap.TextAt place (count + more) := by
  refine ⟨fun index inside => ?_, ?_, ?_⟩
  · -- Up to the front bytes there is none that ends it, and behind them stands the text.
    by_cases front : index < count
    · exact filled index front
    · have behind := text.filled (index - count) (by omega)
      rwa [show place + count + (index - count) = place + index by omega] at behind
  · rw [← Nat.add_assoc]
    exact text.live
  · rw [← Nat.add_assoc]
    exact text.ended

end Places

section Rounds

variable {heap : Heap} {address : Address} {offset : Nat}

/-- A round reads at its address. -/
theorem view_eq (fits : address.toNat + offset < UInt64.size) :
    heap.view address offset = heap.readScalar .byte (address + UInt64.ofNat offset) := by
  rw [view, Address.shift, if_pos fits]
  rfl

/-- In an arena with room behind it, a live place and the next one have addresses. -/
theorem LiveAt.addressed (room : heapBase + heap.size < UInt64.size) {place : Nat}
    (live : heap.LiveAt place) : place + 1 < UInt64.size := by
  -- The room behind the arena takes the next place.
  have inside := live.2.1
  omega

/-- A round reads the byte at its place, if that is live. -/
theorem LiveAt.view (room : heapBase + heap.size < UInt64.size)
    (live : heap.LiveAt (address.toNat + offset)) :
    heap.view address offset = .ok (heap.byteOf (address.toNat + offset)).toNat := by
  -- A live place has an address, at which the byte is read.
  have fits : address.toNat + offset < UInt64.size := Nat.lt_of_succ_lt (live.addressed room)
  have start := Address.toNat_offset fits
  have accessible : heap.Accessible (address + UInt64.ofNat offset) 1 := by
    rw [accessible_iff_liveAt]
    refine ⟨Nat.one_pos, fun index inside => ?_⟩
    rwa [start, show index = 0 by omega]
  rw [view_eq fits, accessible.readByte, start]
  rfl

/-- Otherwise it fails with that place. -/
theorem view_dead (fits : address.toNat + offset < UInt64.size)
    (dead : ¬ heap.LiveAt (address.toNat + offset)) :
    heap.view address offset = .error (.invalidAccess (address + UInt64.ofNat offset) 1) := by
  -- The range of one byte is the place itself.
  have inaccessible : ¬ heap.Accessible (address + UInt64.ofNat offset) Scalar.byte.size := by
    intro accessible
    have live := (accessible_iff_liveAt.mp accessible).2 0 Nat.one_pos
    rw [Address.toNat_offset fits] at live
    exact dead live
  rw [view_eq fits]
  exact readScalar_inaccessible inaccessible

/-- The rounds come to one outcome at most. -/
theorem Scans.unique {one other : Except MemoryError (List UInt8)}
    (scans : heap.Scans address offset one) (again : heap.Scans address offset other) :
    one = other := by
  -- Both start with the same round, which leaves no choice.
  induction scans generalizing other with
  -- Either no byte could be read, or it was zero, or it was another one, on both sides.
  | fails read =>
    cases again with
    | fails same => rw [read] at same; cases same; rfl
    | ends same => rw [read] at same; cases same
    | goesOn same _ _ => rw [read] at same; cases same
  | ends read =>
    cases again with
    | fails same => rw [read] at same; cases same
    | ends _ => rfl
    | @goesOn _ byte _ same more _ =>
      rw [read] at same
      have zero : byte.toNat = 0 := by exact_mod_cast (Except.ok.inj same).symm
      exact absurd (UInt8.toNat_inj.mp zero) more
  | @goesOn _ byte _ read more _ ih =>
    cases again with
    | fails same => rw [read] at same; cases same
    | ends same =>
      rw [read] at same
      have zero : byte.toNat = 0 := by exact_mod_cast Except.ok.inj same
      exact absurd (UInt8.toNat_inj.mp zero) more
    | @goesOn _ second _ same _ rest =>
      rw [read] at same
      have equal : byte.toNat = second.toNat := by exact_mod_cast Except.ok.inj same
      rw [UInt8.toNat_inj.mp equal, ih rest]

/-- A read of one byte by its place. -/
theorem read_one (address : Address) : heap.read address 1 =
    if heap.LiveAt address.toNat then .ok [heap.byteOf address.toNat]
    else .error (.invalidAccess address 1) := by
  -- A range of one byte has no place but its first.
  have same : heap.Accessible address 1 ↔ heap.LiveAt address.toNat := by
    rw [accessible_iff_liveAt]
    refine ⟨fun live => live.2 0 Nat.one_pos, fun live => ⟨Nat.one_pos, fun index inside => ?_⟩⟩
    rwa [show index = 0 by omega]
  by_cases live : heap.LiveAt address.toNat
  · rw [if_pos live, Heap.read, (same.mpr live).locate]
    show Except.ok (heap.bytesAt (address.toNat - heapBase) 1 []) = _
    simp [bytesAt, byteOf]
  · rw [if_neg live, read_inaccessible (same.not.mpr live)]

/-- One round of the machine. -/
theorem bytesToZero_succ (left : Nat) (address : Address) :
    heap.bytesToZero (left + 1) address =
      if heap.LiveAt address.toNat then
        if heap.byteOf address.toNat = 0 then .ok []
        else (heap.bytesToZero left (address + 1)).map (heap.byteOf address.toNat :: ·)
      else .error (.invalidAccess address 1) := by
  -- The read decides, then the byte, and then the bytes behind it.
  rw [bytesToZero, read_one]
  by_cases live : heap.LiveAt address.toNat
  · simp only [if_pos live, bind, Except.bind]
    split
    · rfl
    · cases heap.bytesToZero left (address + 1) <;> rfl
  · simp only [if_neg live, bind, Except.bind]

/-- The machine takes as many rounds as the arena can need, so that its bound is never what ends
them. -/
theorem scans_bytesToZero (room : heapBase + heap.size < UInt64.size) (address : Address)
    {left offset : Nat} (fits : address.toNat + offset < UInt64.size)
    (enough : heap.LiveAt (address.toNat + offset) →
      heapBase + heap.size ≤ address.toNat + offset + left) :
    heap.Scans address offset (heap.bytesToZero left (address + UInt64.ofNat offset)) := by
  -- Each round leaves one place less between itself and the end of the arena.
  induction left generalizing offset with
  -- No place is left, so that this one lies behind the arena.
  | zero =>
    have dead : ¬ heap.LiveAt (address.toNat + offset) := by
      intro live
      have far := enough live
      have inside := live.2.1
      omega
    rw [bytesToZero]
    exact .fails (view_dead fits dead)
  | succ left ih =>
    rw [bytesToZero_succ, Address.toNat_offset fits]
    by_cases live : heap.LiveAt (address.toNat + offset)
    · have read := live.view room
      have next := live.addressed room
      have far := enough live
      rw [if_pos live]
      -- A zero byte ends the round, and any other leads to the next place.
      by_cases zero : heap.byteOf (address.toNat + offset) = 0
      · rw [if_pos zero]
        rw [zero] at read
        exact .ends read
      · rw [if_neg zero]
        have further : address + UInt64.ofNat offset + 1 = address + UInt64.ofNat (offset + 1) := by
          rw [UInt64.ofNat_add, ← UInt64.add_assoc]
          rfl
        rw [further]
        exact .goesOn read zero (ih (by omega) fun _ => by omega)
    · rw [if_neg live]
      exact .fails (view_dead fits live)

/-- The rounds stop at the first byte that is zero, or that is not live, and tell which. -/
theorem Scans.stops (room : heapBase + heap.size < UInt64.size)
    {outcome : Except MemoryError (List UInt8)} (scans : heap.Scans address offset outcome)
    (fits : address.toNat + offset < UInt64.size) :
    ∃ count, (heap.TextAt (address.toNat + offset) count ∧
        outcome = .ok (heap.bytesFrom (address.toNat + offset) count)) ∨
      (heap.BreaksOff (address.toNat + offset) count ∧
        outcome = .error (.invalidAccess (address + UInt64.ofNat (offset + count)) 1)) := by
  -- The induction is on the rounds, each of which has read its byte or failed.
  induction scans with
  -- A round that fails has met a dead place.
  | @fails offset cause read =>
    by_cases live : heap.LiveAt (address.toNat + offset)
    · rw [live.view room] at read
      cases read
    · rw [view_dead fits live] at read
      exact ⟨0, .inr ⟨⟨nofun, live⟩, by rw [← Except.error.inj read, Nat.add_zero]⟩⟩
  -- One that ends has met a zero byte.
  | @ends offset read =>
    by_cases live : heap.LiveAt (address.toNat + offset)
    · rw [live.view room] at read
      have zero : (heap.byteOf (address.toNat + offset)).toNat = 0 := by
        exact_mod_cast Except.ok.inj read
      exact ⟨0, .inl ⟨⟨nofun, live, UInt8.toNat_inj.mp zero⟩, rfl⟩⟩
    · rw [view_dead fits live] at read
      cases read
  | @goesOn offset byte outcome read more _ ih =>
    by_cases live : heap.LiveAt (address.toNat + offset)
    · rw [live.view room] at read
      have same : (heap.byteOf (address.toNat + offset)).toNat = byte.toNat := by
        exact_mod_cast Except.ok.inj read
      have same := UInt8.toNat_inj.mp same
      have other : heap.byteOf (address.toNat + offset) ≠ 0 := by rwa [same]
      have next := live.addressed room
      -- What the rest comes to begins one place further.
      obtain ⟨count, ⟨text, rfl⟩ | ⟨breaks, rfl⟩⟩ := ih (by omega)
      · refine ⟨count + 1, .inl ⟨text.cons live other, ?_⟩⟩
        rw [bytesFrom_succ, same, ← Nat.add_assoc]
        rfl
      · refine ⟨count + 1, .inr ⟨breaks.cons live other, ?_⟩⟩
        rw [show offset + (count + 1) = offset + 1 + count by omega]
        rfl
    · rw [view_dead fits live] at read
      cases read

end Rounds

section Texts

variable {heap : Heap}

/-- The rounds come to an end, and the machine to the same one. -/
theorem scans_readText (room : heapBase + heap.size < UInt64.size) (address : Address) :
    ∃ outcome, heap.Scans address 0 outcome ∧
      heap.readText address = outcome.map Utf8.decode := by
  -- The bound of the machine is larger than the arena, wherever the rounds start.
  have scans : heap.Scans address 0
      (heap.bytesToZero (heap.size + 1) (address + UInt64.ofNat 0)) := by
    refine scans_bytesToZero room address address.toNat_lt fun live => ?_
    have low := live.1
    omega
  rw [show UInt64.ofNat 0 = 0 from rfl, UInt64.add_zero] at scans
  refine ⟨_, scans, ?_⟩
  rw [readText]
  cases heap.bytesToZero (heap.size + 1) address <;> rfl

/-- Either a text stands at an address and is read, or what stands there breaks off and is
refused. -/
theorem readText_cases (room : heapBase + heap.size < UInt64.size) (address : Address) :
    ∃ count, (heap.TextAt address.toNat count ∧
        heap.readText address = .ok (Utf8.decode (heap.bytesFrom address.toNat count))) ∨
      (heap.BreaksOff address.toNat count ∧
        heap.readText address = .error (.invalidAccess (address + UInt64.ofNat count) 1)) := by
  -- The unbounded rounds stop, and the machine comes to the same outcome.
  obtain ⟨outcome, scans, read⟩ := scans_readText room address
  obtain ⟨count, ⟨text, rfl⟩ | ⟨breaks, rfl⟩⟩ := scans.stops room address.toNat_lt
  · exact ⟨count, .inl ⟨text, read⟩⟩
  · rw [Nat.zero_add] at read
    exact ⟨count, .inr ⟨breaks, read⟩⟩

/-- A text that stands at an address is read. -/
theorem TextAt.readText (room : heapBase + heap.size < UInt64.size) {address : Address}
    {count : Nat} (text : heap.TextAt address.toNat count) :
    heap.readText address = .ok (Utf8.decode (heap.bytesFrom address.toNat count)) := by
  obtain ⟨other, ⟨found, read⟩ | ⟨breaks, -⟩⟩ := readText_cases room address
  · rw [read, text.unique found]
  · exact absurd breaks text.not_breaksOff

/-- What breaks off is refused with the place where it does. -/
theorem BreaksOff.readText (room : heapBase + heap.size < UInt64.size) {address : Address}
    {count : Nat} (breaks : heap.BreaksOff address.toNat count) :
    heap.readText address = .error (.invalidAccess (address + UInt64.ofNat count) 1) := by
  obtain ⟨other, ⟨text, -⟩ | ⟨found, read⟩⟩ := readText_cases room address
  · -- Where it breaks off no text can end.
    exact absurd breaks text.not_breaksOff
  · rw [read, breaks.unique found]

/-- The place where something breaks off has an address. -/
theorem BreaksOff.toNat_offset (room : heapBase + heap.size < UInt64.size) {address : Address}
    {count : Nat} (breaks : heap.BreaksOff address.toNat count) :
    (address + UInt64.ofNat count).toNat = address.toNat + count := by
  apply Address.toNat_offset
  cases count with
  | zero => exact address.toNat_lt
  | succ count =>
    -- The byte in front is live, and there is room behind every live byte.
    exact (breaks.filled count (Nat.lt_succ_self _)).1.addressed room

/-- All bytes in the units of a block that is held are live, also those behind its size. -/
theorem Holds.liveAt {blocks : List Block} (holds : heap.Holds blocks) {block : Block}
    (member : block ∈ blocks) {index : Nat}
    (inside : index < heap.unitsFor block.size * heap.unit) :
    heap.LiveAt (block.address.toNat + index) := by
  -- The block starts on a whole unit, and its units lie behind each other.
  have seats := holds.seated block member
  have whole := Nat.mul_le_mul_right heap.unit seats.inside
  rw [Nat.add_mul] at whole
  have offset : block.address.toNat + index - heapBase =
      index + heap.firstUnit block * heap.unit := by
    rw [seats.address]
    omega
  refine ⟨?_, ?_, holds.live_of_covers member ?_⟩
  · rw [seats.address]
    omega
  · rw [seats.address, Heap.size]
    omega
  · -- The byte lies as many units behind the first one as fit in front of it.
    have units : index / heap.unit < heap.unitsFor block.size :=
      (Nat.div_lt_iff_lt_mul heap.unit_pos).mpr inside
    rw [offset, Nat.add_mul_div_right _ _ heap.unit_pos, covers_iff, Nat.add_comm]
    exact ⟨Nat.le_add_right .., Nat.add_lt_add_left units _⟩

end Texts

/--
A text is read exactly, and the reading always ends, on every heap and from every address.

The reading takes one byte after the other, each of them live by itself, for as many rounds as it
needs; the rounds come to one outcome, and the machine to the same.
It yields a text just if some number of live bytes other than zero stands there with a live zero
byte behind them, and the text decodes just these bytes.
Otherwise it fails with the first place from there on that is not live, asked for as one byte; all
bytes in front of it are live and not zero.
Only liveness counts, not who holds what: a block without a zero byte, up to the end of its last
unit, is read together with what stands right behind it.
And a program that reads a text is in the same state as before.
All that is asked of the heap is that its bytes and what lies right behind them have addresses of 64
bits, as in every arena that a host can make.
-/
theorem texts_are_read_exactly {heap : Heap} (room : heapBase + heap.size < UInt64.size)
    (address : Address) :
    (∃ outcome, heap.Scans address 0 outcome ∧
      (∀ other, heap.Scans address 0 other → other = outcome) ∧
      heap.readText address = outcome.map Utf8.decode) ∧
    ((∃ text, heap.readText address = .ok text) ↔ ∃ count, heap.TextAt address.toNat count) ∧
    (∀ count, heap.TextAt address.toNat count →
      heap.readText address = .ok (Utf8.decode (heap.bytesFrom address.toNat count))) ∧
    ((¬ ∃ count, heap.TextAt address.toNat count) →
      ∃ count, heap.BreaksOff address.toNat count ∧
        (address + UInt64.ofNat count).toNat = address.toNat + count ∧
        heap.readText address = .error (.invalidAccess (address + UInt64.ofNat count) 1)) ∧
    (∀ blocks block extent, heap.Holds blocks → block ∈ blocks →
      extent = heap.unitsFor block.size * heap.unit →
      (∀ index < extent, heap.byteOf (block.address.toNat + index) ≠ 0) →
      ∀ count, heap.TextAt (block.address.toNat + extent) count →
        heap.readText block.address =
          .ok (Utf8.decode (heap.bytesFrom block.address.toNat (extent + count)))) ∧
    ∀ context : Context, context.heap = heap →
      (Builtin.textAt (.pointer address)).after context = context := by
  refine ⟨?_, ⟨?_, ?_⟩, fun count text => text.readText room, fun missing => ?_,
    fun blocks block extent holds member all filled count text => ?_, fun context same => ?_⟩
  · -- The rounds of the machine are the unbounded ones, and these come to one outcome.
    obtain ⟨outcome, scans, read⟩ := scans_readText room address
    exact ⟨outcome, scans, fun other again => again.unique scans, read⟩
  · -- What has been read was a text.
    rintro ⟨text, read⟩
    obtain ⟨count, ⟨found, -⟩ | ⟨-, refused⟩⟩ := readText_cases room address
    · exact ⟨count, found⟩
    · rw [read] at refused
      cases refused
  · -- A text that stands there is read.
    rintro ⟨count, text⟩
    exact ⟨_, text.readText room⟩
  · -- Where no text stands, something breaks off.
    obtain ⟨count, ⟨found, -⟩ | ⟨breaks, refused⟩⟩ := readText_cases room address
    · exact absurd ⟨count, found⟩ missing
    · exact ⟨count, breaks, breaks.toNat_offset room, refused⟩
  · -- The bytes of the block are live, so that the text behind it starts with them.
    have front : heap.Filled block.address.toNat extent := fun index inside =>
      ⟨holds.liveAt member (all ▸ inside), filled index inside⟩
    exact (TextAt.append front text).readText room
  · -- The reading looks at the heap and leaves the state alone.
    rw [Exec.after, Builtin.textAt_run]
    cases Builtin.textOf context.heap (.pointer address) <;> rfl

/-- Two blocks lie side by side: from the first one a text is read over its spare byte and on into
the second one, and from within the second one nothing ends the reading in front of the free
unit. -/
theorem texts_are_read_exactly_across_blocks :
    ∃ fresh, create 32 4 = .ok fresh ∧
      let custody := Custody.run { heap := fresh } [.allocate 3, .allocate 4,
        .write 0x1000 [0x61, 0x62, 0x63, 0x64], .write 0x1004 [0x65, 0, 0x66, 0x67]]
      custody.blocks.map (fun block => (block.address, block.size)) = [(0x1000, 3), (0x1004, 4)] ∧
      custody.heap.readText 0x1000 = .ok "abcde" ∧
      custody.heap.readText 0x1006 = .error (.invalidAccess 0x1008 1) := by
  have created : create 32 4 = .ok _ := rfl
  refine ⟨_, created, ?_⟩
  intro custody
  have room : heapBase + custody.heap.size < UInt64.size := by decide +kernel
  refine ⟨by decide +kernel, ?_, ?_⟩
  · have text : custody.heap.TextAt (0x1000 : Address).toNat 5 :=
      ⟨by decide +kernel, by decide +kernel, by decide +kernel⟩
    rw [(texts_are_read_exactly room 0x1000).2.2.1 5 text]
    decide +kernel
  · -- No text stands there: of the three places up to the free unit none holds a zero byte.
    have breaks : custody.heap.BreaksOff (0x1006 : Address).toNat 2 :=
      ⟨by decide +kernel, by decide +kernel⟩
    have missing : ¬ ∃ count, custody.heap.TextAt (0x1006 : Address).toNat count := fun ⟨_, text⟩ =>
      text.not_breaksOff breaks
    obtain ⟨count, found, -, refused⟩ := (texts_are_read_exactly room 0x1006).2.2.2.1 missing
    rw [refused, found.unique breaks]
    rfl

end Heap

end StepMachine
