import StepMachine.Heap.Packed
import StepMachine.Proofs.Heap.Growth

/-! Books that are kept in words of 64 bits answer as those that keep a mark for each unit. -/

namespace StepMachine

namespace Bitmap

/-- A bit's place in its word is a proper distance to shift by. -/
theorem shift_eq {bit : Nat} (within : bit < 64) :
    ((UInt64.ofNat bit).toBitVec % 64).toNat = bit := by
  simp
  omega

/-- The mask of a bit has that bit only. -/
theorem mask_bit {bit other : Nat} (within : bit < 64) (inside : other < 64) :
    ((1 : UInt64) <<< UInt64.ofNat bit).toBitVec.getLsbD other = decide (other = bit) := by
  rw [UInt64.toBitVec_shiftLeft, BitVec.shiftLeft_eq', shift_eq within]
  -- Shifting the lowest bit puts it in its place, and zeros everywhere else.
  simp only [BitVec.getLsbD_shiftLeft, inside, UInt64.toBitVec_one, BitVec.getLsbD_one,
    decide_true, Bool.true_and, ← decide_not, ← Bool.decide_and, decide_eq_decide]
  omega

/-- To shift a word and take its lowest bit is to take the bit. -/
theorem word_bit (word : UInt64) {bit : Nat} (within : bit < 64) :
    (word >>> UInt64.ofNat bit) &&& 1 = 1 ↔ word.toBitVec.getLsbD bit = true := by
  -- Shifted and cut down to one bit, a word is the bit that came to the lowest place.
  rw [← UInt64.toBitVec_inj, UInt64.toBitVec_and, UInt64.toBitVec_shiftRight,
    BitVec.ushiftRight_eq', shift_eq within, UInt64.toBitVec_one,
    BitVec.and_one_eq_setWidth_ofBool_getLsbD, BitVec.getLsbD_ushiftRight, Nat.add_zero]
  cases word.toBitVec.getLsbD bit <;> decide

/-- A unit is handed out just if its bit is set in its word. -/
theorem isLive_eq (bitmap : Bitmap) (unit : Nat) :
    bitmap.isLive unit = (bitmap.words.getD (unit / 64) 0).toBitVec.getLsbD (unit % 64) := by
  rw [Bool.eq_iff_iff, isLive, decide_eq_true_iff]
  -- The place of the unit in its word is below the width of a word.
  exact word_bit _ (Nat.mod_lt unit (by decide))

/-- Marking a unit leaves as many words. -/
theorem markUnit_size (live : Bool) (bitmap : Bitmap) (unit : Nat) :
    (bitmap.markUnit live unit).words.size = bitmap.words.size := Array.size_modify

/-- Marking a unit changes its own bit only, if there is a word for it. -/
theorem isLive_markUnit {bitmap : Bitmap} {unit : Nat} (there : unit / 64 < bitmap.words.size)
    (live : Bool) (other : Nat) :
    (bitmap.markUnit live unit).isLive other =
      if other = unit then live else bitmap.isLive other := by
  -- Both sides look up a word, and the marked word is another just in its own place.
  rw [isLive_eq, isLive_eq, markUnit]
  simp only [Array.getD_eq_getD_getElem?, Array.getElem?_modify]
  by_cases same : unit / 64 = other / 64
  · -- In the word of the unit, the mask tells its bit from the others.
    have place : other % 64 = unit % 64 ↔ other = unit := by omega
    have mask := mask_bit (Nat.mod_lt unit (by decide)) (Nat.mod_lt other (by decide))
    rw [if_pos same, ← same, Array.getElem?_eq_getElem there]
    simp only [Option.map_some, Option.getD_some]
    cases live with
    | true =>
      rw [if_pos rfl, UInt64.toBitVec_or, BitVec.getLsbD_or, mask]
      by_cases unit : other = unit <;> simp [place, unit]
    | false =>
      rw [if_neg Bool.false_ne_true, UInt64.toBitVec_and, UInt64.toBitVec_not, BitVec.getLsbD_and,
        BitVec.getLsbD_not, mask]
      by_cases unit : other = unit <;> simp [place, unit, Nat.mod_lt]
  · -- The other words stay as they are.
    have apart : other ≠ unit := fun equal => same (by rw [equal])
    rw [if_neg same, if_neg apart]

/-- Marking units leaves as many words. -/
theorem mark_size (bitmap : Bitmap) (first count : Nat) (live : Bool) :
    (bitmap.mark first count live).words.size = bitmap.words.size := by
  unfold mark
  -- The units are marked one after the other.
  induction count generalizing bitmap first with
  | zero => rfl
  | succ count ih => rw [List.range'_succ, List.foldl_cons, ih, markUnit_size]

/-- Marking a run of units changes their bits only, if there are words for them. -/
theorem isLive_mark {bitmap : Bitmap} {first count : Nat}
    (there : first + count ≤ 64 * bitmap.words.size) (live : Bool) (other : Nat) :
    (bitmap.mark first count live).isLive other =
      if first ≤ other ∧ other < first + count then live else bitmap.isLive other := by
  unfold mark
  induction count generalizing bitmap first with
  | zero => rw [if_neg (by omega)]; rfl
  | succ count ih =>
    -- The first unit is marked before the rest of the run.
    rw [List.range'_succ, List.foldl_cons, ih (by rw [markUnit_size]; omega),
      isLive_markUnit (by omega), run_succ]

/-- In a clear bitmap every unit is free. -/
theorem isLive_clear (units unit : Nat) : (clear units).isLive unit = false := by
  rw [isLive_eq, clear]
  -- All words are zero, those that are there and those that are not.
  by_cases there : unit / 64 < (units + 63) / 64 <;> simp [there]

end Bitmap

/-- The test for live units goes through them one by one. -/
theorem allLive_eq_all (live : Array Bool) (first count : Nat) :
    allLive live first count = (List.range' first count).all (live.getD · false) := by
  -- The test and the range go through the same units in the same order.
  induction count generalizing first with
  | zero => rfl
  | succ count ih => rw [allLive, ih, List.range'_succ, List.all_cons]

namespace Heap

/-- A unit that was never handed out is free. -/
theorem unitLive_of_le {heap : Heap} {unit : Nat} (behind : heap.live.size ≤ unit) :
    heap.unitLive unit = false := by
  -- The array of marks ends in front of such a unit.
  have none : heap.live[unit]? = none := Array.getElem?_eq_none_iff.mpr behind
  simp [unitLive, Array.getD_eq_getD_getElem?, none]

/-- Looking through all units of the arena finds the run that is found without a look at those that
were never handed out. The `length` units from `start` up to `next` are free and too few. -/
theorem findFreeRun_eq {heap : Heap} (bounded : heap.Bounded) {needed left next start length : Nat}
    (ahead : next + left = heap.units) (behind : start + length = next) (few : length < needed) :
    findFreeRun heap.unitLive needed left next start length =
      findRun heap.live heap.units needed (heap.live.size - next) next start := by
  have bounded : heap.live.size ≤ heap.units := bounded
  induction left generalizing next start length with
  | zero =>
    -- The whole arena was looked through, and the run that is left is too short.
    have none : heap.live.size - next = 0 := by omega
    rw [none, findRun, findFreeRun, if_neg (by omega)]
  | succ left ih =>
    rw [findFreeRun]
    by_cases reached : next < heap.live.size
    · -- Both searches look at this unit.
      have turns : heap.live.size - next = heap.live.size - (next + 1) + 1 := by omega
      rw [turns, findRun]
      unfold unitLive
      by_cases live : heap.live.getD next false = true
      · rw [if_pos live, if_pos live]
        exact ih (by omega) (by omega) (by omega)
      · rw [if_neg live, if_neg live]
        by_cases enough : length + 1 = needed
        · rw [if_pos enough, if_pos (by omega : next + 1 = start + needed)]
        · rw [if_neg enough, if_neg (by omega : ¬ next + 1 = start + needed)]
          exact ih (by omega) (by omega) (by omega)
    · -- The units from here on were never handed out, and count as they are needed.
      have none : heap.live.size - next = 0 := by omega
      have later : heap.live.size - (next + 1) = 0 := by omega
      have free := unitLive_of_le (Nat.le_of_not_lt reached)
      rw [none, findRun, free, if_neg Bool.false_ne_true]
      by_cases enough : length + 1 = needed
      · rw [if_pos enough, if_pos (by omega : start + needed ≤ heap.units)]
      · have rest := @ih (next + 1) start (length + 1) (by omega) (by omega) (by omega)
        rw [later, findRun] at rest
        rw [if_neg enough, rest]

/-- Where two arenas have the same units free, the same run is found. -/
theorem findFreeRun_congr {one other : Nat → Bool} {units : Nat}
    (same : ∀ unit < units, one unit = other unit) {needed left next start length : Nat}
    (ahead : next + left = units) :
    findFreeRun one needed left next start length =
      findFreeRun other needed left next start length := by
  induction left generalizing next start length with
  | zero => rfl
  | succ left ih =>
    -- The two look at the same unit, and go on in the same way.
    rw [findFreeRun, findFreeRun, same next (by omega), ih (by omega), ih (by omega)]

end Heap

namespace PackedHeap

/-- The two kinds of books say the same of every unit of the arena. -/
structure Packs (packed : PackedHeap) (heap : Heap) : Prop where
  size : packed.size = heap.size
  unit : packed.unit = heap.unit
  units : packed.units = heap.units
  used : packed.used = heap.used
  /-- There is a bit for each unit. -/
  words : heap.units ≤ 64 * packed.bitmap.words.size
  bits : ∀ unit < heap.units, packed.bitmap.isLive unit = heap.unitLive unit
  bounded : heap.Bounded

variable {packed : PackedHeap} {heap : Heap}

/-- How two outcomes agree: with the same answer, or for the same reason. -/
inductive Agree {α ε : Type} : EStateM.Result ε PackedHeap α → EStateM.Result ε Heap α → Prop where
  | ok (answer : α) {packed : PackedHeap} {heap : Heap} (packs : packed.Packs heap) :
    Agree (.ok answer packed) (.ok answer heap)
  | error (cause : ε) {packed : PackedHeap} {heap : Heap} (packs : packed.Packs heap) :
    Agree (.error cause packed) (.error cause heap)

/-- An arena is made with either kind of books, or refused for the same reason with both. -/
theorem create_agrees (size unit : Nat) :
    (∃ packed heap, create size unit = .ok packed ∧ Heap.create size unit = .ok heap ∧
      packed.Packs heap) ∨
    create size unit = .error (.invalidGeometry size unit) ∧
      Heap.create size unit = .error (.invalidGeometry size unit) := by
  unfold create Heap.create
  by_cases fits : 0 < unit ∧ 0 < size ∧ size % unit = 0
  · rw [dif_pos fits, if_neg (by omega)]
    refine .inl ⟨_, _, rfl, rfl, ?_, rfl, rfl, rfl, ?_, fun index _ => ?_, Nat.zero_le _⟩
    · -- The size is a multiple of the unit, so no byte is lost.
      exact (Nat.div_mul_cancel (Nat.dvd_of_mod_eq_zero fits.2.2)).symm
    · simp only [Bitmap.clear, Array.size_replicate]
      omega
    · rw [Bitmap.isLive_clear]
      rfl
  · rw [dif_neg fits, if_pos (by omega)]
    exact .inr ⟨rfl, rfl⟩

namespace Packs

/-- Sizes are rounded up to the same number of units. -/
theorem unitsFor (packs : packed.Packs heap) (size : Nat) :
    packed.unitsFor size = heap.unitsFor size := by
  -- The size of a unit is all that rounding looks at.
  rw [PackedHeap.unitsFor, Heap.unitsFor, packs.unit]

/-- Marking a run of units keeps the books alike. -/
theorem mark (packs : packed.Packs heap) {first count : Nat} (inside : first + count ≤ heap.units)
    (live : Bool) {after : Array Bool} (bounded : after.size ≤ heap.units)
    (marked : ∀ unit, after.getD unit false =
      if first ≤ unit ∧ unit < first + count then live else heap.unitLive unit) (used : Nat) :
    Packs { packed with bitmap := packed.bitmap.mark first count live, used }
      { heap with live := after, used } where
  size := packs.size
  unit := packs.unit
  units := packs.units
  used := rfl
  words := (Bitmap.mark_size ..).symm ▸ packs.words
  bits unit there := by
    have words := packs.words
    rw [Bitmap.isLive_mark (by omega), packs.bits unit there]
    exact (marked unit).symm
  bounded := bounded

/-- The same run is found. -/
theorem findFreeRun_eq (packs : packed.Packs heap) {needed : Nat} (asked : 0 < needed) :
    findFreeRun packed.bitmap.isLive needed packed.units 0 0 0 =
      findRun heap.live heap.units needed heap.live.size 0 0 := by
  -- The two look at the same units, and one of them stops where nothing was handed out yet.
  rw [packs.units, Heap.findFreeRun_congr packs.bits (Nat.zero_add heap.units),
    Heap.findFreeRun_eq packs.bounded (Nat.zero_add heap.units) rfl asked, Nat.sub_zero]

/-- A request for a block has the same answer, and leaves the books alike. -/
theorem allocate (packs : packed.Packs heap) (size : Nat) :
    Agree (PackedHeap.allocate size packed) (Heap.allocate size heap) := by
  unfold PackedHeap.allocate Heap.allocate Heap.fit
  by_cases empty : size = 0
  · rw [if_pos empty, if_pos empty]
    exact .error _ packs
  · have needed := heap.unitsFor_pos (Nat.pos_of_ne_zero empty)
    have available : (packed.units - packed.used) * packed.unit =
        (heap.units - heap.used) * heap.unit := by
      rw [packs.units, packs.used, packs.unit]
    rw [if_neg empty, if_neg empty]
    dsimp only
    rw [packs.unitsFor, packs.findFreeRun_eq needed, available]
    cases found : findRun heap.live heap.units (heap.unitsFor size) heap.live.size 0 0 with
    | none =>
      -- A request for more than the arena is refused in the same words.
      by_cases more : packed.units < heap.unitsFor size
      · rw [if_pos more]
        exact .error _ packs
      · rw [if_neg more]
        exact .error _ packs
    | some first =>
      obtain ⟨inside, -⟩ := findRun_free packs.bounded (Nat.zero_add _)
        (fun unit _ upper => absurd upper (Nat.not_lt_zero unit)) found
      have units := packs.units
      rw [if_neg (by omega), ← packs.unit, packs.used]
      exact .ok _ (packs.mark inside true (takeUnits_size_le inside packs.bounded)
        (fun unit => takeUnits_getD ..) _)

/-- Giving up a block leaves the books alike. -/
theorem release (packs : packed.Packs heap) {block : Block} (owning : block.owning = true) :
    (packed.release block.address block.size).Packs (heap.release block) := by
  -- The block has the same first unit and the same number of units in both arenas.
  unfold PackedHeap.release Heap.release
  have start : (block.address.toNat - heapBase) / packed.unit =
      (block.address.toNat - heapBase) / heap.unit := by
    rw [packs.unit]
  dsimp only
  rw [packs.unitsFor, packs.used, start]
  generalize (block.address.toNat - heapBase) / heap.unit = first
  have units := packs.units
  by_cases low : block.address.toNat < heapBase
  · rw [if_pos low, if_neg (by omega)]
    exact packs
  · by_cases far : packed.units < first + heap.unitsFor block.size
    · rw [if_neg low, if_pos far, if_neg (by omega)]
      exact packs
    · have inside : first + heap.unitsFor block.size ≤ heap.units := by omega
      rw [if_neg low, if_neg far, if_pos ⟨owning, Nat.le_of_not_lt low, inside⟩]
      -- As many bits are set in the run as units of it are live.
      have counted : (List.range' first (heap.unitsFor block.size)).countP packed.bitmap.isLive =
          countLive heap.live first (heap.unitsFor block.size) 0 := by
        rw [countLive_eq_countP, Nat.zero_add]
        refine List.countP_congr fun unit member => ?_
        rw [List.mem_range'_1] at member
        rw [packs.bits unit (by omega)]
        rfl
      rw [counted]
      exact packs.mark inside false ((freeUnits_size ..).symm ▸ packs.bounded)
        (fun unit => freeUnits_getD ..) _

/-- The same ranges can be accessed. -/
theorem locate (packs : packed.Packs heap) (address : Address) (length : Nat) :
    packed.locate address length = heap.locate address length := by
  unfold PackedHeap.locate Heap.locate
  dsimp only
  rw [packs.unit, packs.size]
  generalize address.toNat - heapBase = offset
  by_cases low : address.toNat < heapBase
  · rw [if_pos low, if_pos (.inl low)]
  · by_cases outside : length = 0 ∨ heap.size < offset + length
    · rw [if_neg low, if_pos outside, if_pos (.inr outside)]
    · have proper : ¬(address.toNat < heapBase ∨ length = 0 ∨ heap.size < offset + length) :=
        fun either => Or.elim either low outside
      rw [if_neg low, if_neg outside, if_neg proper]
      have last : (offset + length - 1) / heap.unit < heap.units := by
        rw [Nat.div_lt_iff_lt_mul heap.unit_pos]
        exact Nat.lt_of_lt_of_le (by omega) (Nat.le_of_not_lt fun less => outside (.inr less))
      -- The units that the range touches belong to the arena.
      have same (first : Nat) :
          (List.range' first ((offset + length - 1) / heap.unit + 1 - first)).all
            packed.bitmap.isLive =
          allLive heap.live first ((offset + length - 1) / heap.unit + 1 - first) := by
        rw [allLive_eq_all, Bool.eq_iff_iff, List.all_eq_true, List.all_eq_true]
        refine forall₂_congr fun unit member => ?_
        rw [List.mem_range'_1] at member
        rw [packs.bits unit (by omega)]
        rfl
      rw [same]

/-- A request has the same answer, and leaves the books alike. -/
theorem serve (packs : packed.Packs heap) (request : BookRequest) :
    (packed.serve request).1 = (heap.serve request).1 ∧
      (packed.serve request).2.Packs (heap.serve request).2 := by
  -- One case for each kind of request.
  cases request with
  | allocate size =>
    unfold PackedHeap.serve Heap.serve
    dsimp only
    generalize PackedHeap.allocate size packed = one, Heap.allocate size heap = other,
      packs.allocate size = agree
    cases agree with
    | ok answer packs => exact ⟨rfl, packs⟩
    | error cause packs => exact ⟨rfl, packs⟩
  | release block =>
    refine ⟨rfl, ?_⟩
    show (if block.owning then packed.release block.address block.size else packed).Packs
      (heap.release block)
    by_cases owning : block.owning = true
    · rw [if_pos owning]
      exact packs.release owning
    · -- A block that owns nothing is left alone by both.
      rw [if_neg owning, show heap.release block = heap from if_neg fun all => owning all.1]
      exact packs
  | locate address length =>
    exact ⟨congrArg BookAnswer.located (packs.locate address length), packs⟩

/-- Requests have the same answers, one after the other, and leave the books alike. -/
theorem serveAll (packs : packed.Packs heap) (requests : List BookRequest) :
    (packed.serveAll requests).1 = (heap.serveAll requests).1 ∧
      (packed.serveAll requests).2.Packs (heap.serveAll requests).2 := by
  -- The answer of a request is put in front of those of the later ones, and the books go on alike.
  induction requests generalizing packed heap with
  | nil => exact ⟨rfl, packs⟩
  | cons request requests ih =>
    obtain ⟨answer, after⟩ := packs.serve request
    obtain ⟨answers, last⟩ := ih after
    exact ⟨List.cons_eq_cons.mpr ⟨answer, answers⟩, last⟩

end Packs

/-- Whatever is asked of a fresh arena, in whatever order, its books have the same answers in words
of 64 bits as with a mark for each unit. -/
theorem serveAll_fresh {size unit : Nat} {packed : PackedHeap} {heap : Heap}
    (packs : create size unit = .ok packed) (marks : Heap.create size unit = .ok heap)
    (requests : List BookRequest) :
    (packed.serveAll requests).1 = (heap.serveAll requests).1 := by
  -- Both arenas were made, and made alike.
  obtain ⟨_, _, made, made', alike⟩ | ⟨refused, -⟩ := create_agrees size unit
  · cases packs.symm.trans made
    cases marks.symm.trans made'
    exact (alike.serveAll requests).1
  · cases packs.symm.trans refused

end PackedHeap

end StepMachine
