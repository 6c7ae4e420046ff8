import StepMachine.Proofs.Heap.Ledger
import StepMachine.Proofs.Outcome
import StepMachine.Stack.Variable

/-! What making objects and storing values does to the heap. -/

namespace StepMachine

namespace Edit

/-- An edit is lifted by telling its failures in another form. -/
theorem lift_eq (edit : Edit MemoryError α) :
    (liftM edit : Edit RuntimeError α) = liftMemory edit := rfl

/-- The cause of a failure does not matter to the heap. -/
theorem after_liftMemory (edit : Edit MemoryError α) (heap : Heap) :
    after (liftMemory edit) heap = after edit heap := by
  -- Only the cause is told in another form.
  unfold after liftMemory
  cases edit heap <;> rfl

end Edit

/-- Storing a value changes nothing but bytes. -/
theorem Heap.store_rewrites (address : Address) (type : CType) (value : Value) (heap : Heap) :
    heap.Rewritten (Edit.after (store address type value) heap) := by
  unfold store
  -- A value that does not fit its type is refused before anything is written.
  cases value.coerce type with
  | error cause => exact .refl heap
  | ok value =>
    cases value with
    | int n =>
      simp only [Edit.after_liftMemory]
      exact write_rewrites address _ heap
    | char c =>
      simp only [Edit.after_liftMemory]
      exact write_rewrites address _ heap
    | pointer target =>
      simp only [Edit.after_liftMemory]
      exact write_rewrites address _ heap
    -- A structure is copied from where it lies; any other value is written as bytes.
    | struct source definition =>
      simp only [Edit.after_liftMemory]
      exact copy_rewrites address source definition.size heap
    | void => exact .refl heap

namespace Variable

/-- An object takes a block, which is cleared. -/
theorem allocate_run (type : CType) (heap : Heap) :
    allocate type heap =
      if type.size = 0 then .error (notStorable type) heap
      else match Heap.allocate type.size heap with
        | .error cause last => .error (.memory cause) last
        | .ok block middle => match block.clear middle with
          | .error cause last => .error (.memory cause) last
          | .ok _ last => .ok ⟨type, block⟩ last := by
  unfold allocate
  by_cases empty : type.size = 0
  · rw [if_pos empty, if_pos empty]
    rfl
  · rw [if_neg empty, if_neg empty]
    -- A block is asked for, and then cleared.
    simp only [Edit.lift_eq, bind_run, liftMemory]
    cases Heap.allocate type.size heap with
    | error cause last => rfl
    | ok block middle =>
      simp only
      cases block.clear middle <;> rfl

/-- An object with an initial value gives its block back if the value does not fit. -/
theorem create_run (type : CType) (init : Option Value) (heap : Heap) :
    create type init heap = match allocate type heap with
      | .error cause last => .error cause last
      | .ok object middle => match init with
        | none => .ok object middle
        | some value => match object.store value middle with
          | .ok _ last => .ok object last
          | .error cause last => .error cause (last.release object.block) := by
  unfold create
  rw [bind_run]
  cases allocate type heap with
  | error cause last => rfl
  | ok object middle =>
    -- Only an initial value can fail after the object is there.
    cases init with
    | none => rfl
    | some value =>
      -- The handler gives the block back and lets the failure go on.
      simp only [bind_run, tryCatch_run]
      cases object.store value middle <;> rfl

/-- A new object is held with what was held before; a failed request changes nothing of that. -/
theorem allocate_holds (type : CType) {heap : Heap} {blocks : List Block}
    (holds : heap.Holds blocks) :
    match allocate type heap with
    | .ok object last => last.Holds (object.block :: blocks)
    | .error _ last => last.Holds blocks := by
  -- A type without a size is refused before memory is asked for.
  rw [allocate_run]
  by_cases empty : type.size = 0
  · rw [if_pos empty]
    exact holds
  · rw [if_neg empty]
    cases allocated : Heap.allocate type.size heap with
    | error cause last =>
      -- A refused request leaves the heap as it was.
      rw [Heap.allocate_error allocated]
      exact holds
    | ok block middle =>
      have held := Heap.allocate_holds holds allocated
      -- The block is live as a whole, so that it can be cleared.
      have located := held.locate (List.mem_cons_self ..)
      have cleared := Heap.clear_rewrites block.address block.size middle
      unfold Edit.after Heap.clear at cleared
      simp only [Block.clear, Heap.clear, located] at cleared ⊢
      exact cleared.holds held

/-- The same for an object with an initial value. -/
theorem create_holds (type : CType) (init : Option Value) {heap : Heap} {blocks : List Block}
    (holds : heap.Holds blocks) :
    match create type init heap with
    | .ok object last => last.Holds (object.block :: blocks)
    | .error _ last => last.Holds blocks := by
  have allocated := allocate_holds type holds
  -- The object is made first.
  rw [create_run]
  cases made : allocate type heap with
  | error cause last =>
    rw [made] at allocated
    exact allocated
  | ok object middle =>
    rw [made] at allocated
    -- Storing the initial value writes bytes, whether it succeeds or fails.
    cases init with
    | none => exact allocated
    | some value =>
      have stored := Heap.store_rewrites object.address object.type value middle
      unfold Edit.after at stored
      simp only [store]
      cases result : Heap.store object.address object.type value middle with
      | ok _ last =>
        rw [result] at stored
        exact stored.holds allocated
      | error cause last =>
        rw [result] at stored
        -- A failure gives the block back, and what was held before is left.
        exact (stored.holds allocated).release

end Variable

end StepMachine
