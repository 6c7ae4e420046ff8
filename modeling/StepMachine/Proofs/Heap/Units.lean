import StepMachine.Heap.Basic

/-! Which units are live after some are handed out or freed, and what a search for free ones
finds. -/

namespace StepMachine

/-- Handing out a unit makes it live and no other. -/
theorem takeUnit_getD (live : Array Bool) (index unit : Nat) :
    (takeUnit live index).getD unit false =
      if unit = index then true else live.getD unit false := by
  unfold takeUnit
  by_cases inside : index < live.size
  · -- The unit has its place in the array already, and only that place changes.
    rw [if_pos inside]
    by_cases same : unit = index
    · subst same
      simp [inside]
    · have other : index ≠ unit := fun equal => same equal.symm
      simp [same, other]
  · -- The array grows up to the unit, with units in between that are free.
    rw [if_neg inside]
    -- The new unit stands just behind what was filled up.
    have size : (live ++ Array.replicate (index - live.size) false).size = index := by
      simp
      omega
    simp only [Array.getD_eq_getD_getElem?, Array.getElem?_push, size]
    by_cases same : unit = index
    · simp [same]
    · rw [if_neg same, if_neg same, Array.getElem?_append]
      by_cases before : unit < live.size
      · rw [if_pos before]
      · rw [if_neg before]
        -- Behind the old array a unit is free, whether it was filled up or not.
        have behind : live[unit]? = none := by simpa using before
        rw [behind]
        by_cases between : unit - live.size < index - live.size
        · simp [between]
        · simp [between]

/-- Handing out a unit makes the array no longer than it has to be. -/
theorem takeUnit_size (live : Array Bool) (index : Nat) :
    (takeUnit live index).size = max live.size (index + 1) := by
  unfold takeUnit
  by_cases inside : index < live.size
  · rw [if_pos inside, Array.size_setIfInBounds]
    omega
  · -- The array grows just as far as the unit.
    rw [if_neg inside]
    simp
    omega

/-- A unit lies in a run just if it is the first one or lies in the rest. -/
theorem run_succ (first count unit : Nat) (inside outside : Bool) :
    (if first + 1 ≤ unit ∧ unit < first + 1 + count then inside
      else if unit = first then inside else outside) =
    if first ≤ unit ∧ unit < first + (count + 1) then inside else outside := by
  by_cases same : unit = first
  · -- The first unit is not in the rest, and is in the run.
    rw [if_neg (by omega), if_pos same, if_pos (by omega)]
  · -- For any other unit the two ranges say the same.
    rw [if_neg same]
    by_cases later : first + 1 ≤ unit ∧ unit < first + 1 + count
    · rw [if_pos later, if_pos (by omega)]
    · rw [if_neg later, if_neg (by omega)]

/-- Handing out a run of units makes those live and no others. -/
theorem takeUnits_getD (first count unit : Nat) (live : Array Bool) :
    (takeUnits first count live).getD unit false =
      if first ≤ unit ∧ unit < first + count then true else live.getD unit false := by
  -- The first unit is handed out before the rest, so the array changes along with the induction.
  induction count generalizing first live with
  | zero => rw [takeUnits, if_neg (by omega)]
  | succ count ih => rw [takeUnits, ih, takeUnit_getD, run_succ]

/-- Handing out units within an arena keeps the array within it. -/
theorem takeUnits_size_le {first count units : Nat} {live : Array Bool}
    (inside : first + count ≤ units) (fits : live.size ≤ units) :
    (takeUnits first count live).size ≤ units := by
  -- Each unit lies in the arena, so growing up to it stays within.
  induction count generalizing first live with
  | zero => exact fits
  | succ count ih =>
    rw [takeUnits]
    refine ih (by omega) ?_
    rw [takeUnit_size]
    omega

/-- Freeing a run of units frees those and no others. -/
theorem freeUnits_getD (first count unit : Nat) (live : Array Bool) :
    (freeUnits first count live).getD unit false =
      if first ≤ unit ∧ unit < first + count then false else live.getD unit false := by
  induction count generalizing first live with
  | zero => rw [freeUnits, if_neg (by omega)]
  | succ count ih =>
    -- A unit that the array does not reach is free before and after.
    have here : (live.setIfInBounds first false).getD unit false =
        if unit = first then false else live.getD unit false := by
      simp only [Array.getD_eq_getD_getElem?, Array.getElem?_setIfInBounds]
      by_cases same : unit = first
      · subst same
        by_cases inside : unit < live.size
        · simp [inside]
        · simp [inside]
      · have other : first ≠ unit := fun equal => same equal.symm
        rw [if_neg other, if_neg same]
    -- The rest of the run is freed in the array in which the first unit is free.
    rw [freeUnits, ih, here, run_succ]

/-- Freeing units leaves the array as long as it is. -/
theorem freeUnits_size (first count : Nat) (live : Array Bool) :
    (freeUnits first count live).size = live.size := by
  induction count generalizing first live with
  | zero => rfl
  | succ count ih => rw [freeUnits, ih, Array.size_setIfInBounds]

/-- Of units that are all live, all are counted. -/
theorem countLive_all {live : Array Bool} {first count : Nat} (found : Nat)
    (all : ∀ unit, first ≤ unit → unit < first + count → live.getD unit false = true) :
    countLive live first count found = found + count := by
  induction count generalizing first found with
  | zero => rfl
  | succ count ih =>
    -- The first unit counts, and the rest are live as well.
    have head := all first (Nat.le_refl _) (by omega)
    rw [countLive, head, if_pos rfl, ih (found + 1) fun unit lower upper =>
      all unit (by omega) (by omega)]
    omega

/-- Counting live units goes through them one by one. -/
theorem countLive_eq_countP (live : Array Bool) (first count found : Nat) :
    countLive live first count found =
      found + (List.range' first count).countP (live.getD · false) := by
  induction count generalizing first found with
  | zero => rfl
  | succ count ih =>
    rw [countLive, ih, List.range'_succ, List.countP_cons]
    -- The first unit is added to what was found, or to the rest.
    split <;> omega

/-- What freeing a run counts is what the number of live units goes down by. -/
theorem countLive_freeUnits {first count units : Nat} (inside : first + count ≤ units)
    (live : Array Bool) :
    countLive (freeUnits first count live) 0 units 0 + countLive live first count 0 =
      countLive live 0 units 0 := by
  -- In front of the run and behind it nothing changes, and in the run nothing is left.
  obtain ⟨behind, rfl⟩ := Nat.exists_eq_add_of_le inside
  have split : List.range' 0 (first + count + behind) =
      List.range' 0 first ++ List.range' first count ++ List.range' (first + count) behind := by
    rw [← List.range'_append_1, ← List.range'_append_1, Nat.zero_add, Nat.zero_add]
  have outside (start length : Nat) (apart : start + length ≤ first ∨ first + count ≤ start) :
      (List.range' start length).countP ((freeUnits first count live).getD · false) =
        (List.range' start length).countP (live.getD · false) := by
    apply List.countP_congr
    intro unit member
    rw [List.mem_range'_1] at member
    rw [freeUnits_getD, if_neg (by omega)]
  have within :
      (List.range' first count).countP ((freeUnits first count live).getD · false) = 0 := by
    rw [List.countP_eq_zero]
    intro unit member
    rw [List.mem_range'_1] at member
    rw [freeUnits_getD, if_pos member]
    exact Bool.false_ne_true
  simp only [countLive_eq_countP, split, List.countP_append, Nat.zero_add]
  rw [outside 0 first (by omega), outside (first + count) behind (by omega), within]
  omega

/-- Of the units of an arena, as many lie in a run inside it as the run has. -/
theorem countP_run {first count units : Nat} (inside : first + count ≤ units) :
    (List.range' 0 units).countP (fun unit => first ≤ unit ∧ unit < first + count) = count := by
  -- Up to some unit, those of the run lie behind its start and in front of its end.
  have upTo (last : Nat) :
      (List.range' 0 last).countP (fun unit => first ≤ unit ∧ unit < first + count) =
        min last (first + count) - min last first := by
    induction last with
    | zero => simp
    | succ last ih =>
      rw [List.range'_concat, List.countP_append, ih]
      simp only [Nat.one_mul, Nat.zero_add, List.countP_singleton, decide_eq_true_eq]
      split <;> omega
  rw [upTo]
  omega

/-- Units that are all live pass the test for it. -/
theorem allLive_of_all {live : Array Bool} {first count : Nat}
    (all : ∀ unit, first ≤ unit → unit < first + count → live.getD unit false = true) :
    allLive live first count = true := by
  induction count generalizing first with
  | zero => rfl
  | succ count ih =>
    -- The test looks at the first unit and goes on with the rest.
    rw [allLive, all first (Nat.le_refl _) (by omega), Bool.true_and]
    exact ih fun unit lower upper => all unit (by omega) (by omega)

/-- Units that pass the test for it are all live. -/
theorem live_of_allLive {live : Array Bool} {first count unit : Nat}
    (all : allLive live first count = true) (lower : first ≤ unit) (upper : unit < first + count) :
    live.getD unit false = true := by
  induction count generalizing first with
  | zero => omega
  | succ count ih =>
    -- The unit is the one that is looked at first, or one of the rest.
    rw [allLive, Bool.and_eq_true] at all
    by_cases same : unit = first
    · rw [same]
      exact all.1
    · exact ih all.2 (by omega) (by omega)

/-- A run that is found in an arena is the one that is found in a longer one. -/
theorem findRun_longer {live : Array Bool} {units needed left next start found : Nat}
    (search : findRun live units needed left next start = some found) (more : Nat) :
    findRun live (units + more) needed left next start = some found := by
  -- The length of the arena plays a part only behind the last unit that was ever handed out.
  induction left generalizing next start with
  | zero =>
    rw [findRun] at search ⊢
    split at search
    · rename_i room
      cases search
      rw [if_pos (by omega)]
    · cases search
  | succ left ih =>
    rw [findRun] at search ⊢
    split at search
    · rename_i live
      rw [if_pos live]
      exact ih search
    · rename_i dead
      rw [if_neg dead]
      split at search
      · rename_i enough
        rw [if_pos enough]
        exact search
      · rename_i short
        rw [if_neg short]
        exact ih search

/-- A run that the search finds lies in the arena and is free. The search knows the units from
`start` on to be free up to `next`, and there are `left` of them to look at. -/
theorem findRun_free {live : Array Bool} {units needed left next start found : Nat}
    (fits : live.size ≤ units) (ahead : next + left = live.size)
    (free : ∀ unit, start ≤ unit → unit < next → live.getD unit false = false)
    (search : findRun live units needed left next start = some found) :
    found + needed ≤ units ∧
      ∀ unit, found ≤ unit → unit < found + needed → live.getD unit false = false := by
  -- The search goes one unit on at a time; what it knows is free up to where it stands.
  induction left generalizing next start with
  | zero =>
    -- Nothing behind the array is live.
    rw [findRun] at search
    split at search
    · rename_i room
      cases search
      refine ⟨room, fun unit lower upper => ?_⟩
      -- Up to the end of the array the search has looked, and behind it there is nothing.
      by_cases before : unit < next
      · exact free unit lower before
      · have behind : live[unit]? = none := by
          rw [Array.getElem?_eq_none_iff]
          omega
        simp [Array.getD_eq_getD_getElem?, behind]
    · cases search
  | succ left ih =>
    rw [findRun] at search
    split at search
    · -- A live unit: the run can only start behind it.
      exact ih (by omega) (fun unit lower upper => by omega) search
    · rename_i dead
      have dead : live.getD next false = false := by simpa using dead
      -- A free unit lengthens the run that is being looked at.
      have further : ∀ unit, start ≤ unit → unit < next + 1 → live.getD unit false = false := by
        intro unit lower upper
        by_cases same : unit = next
        · rw [same]
          exact dead
        · exact free unit lower (by omega)
      split at search
      · -- The run is long enough and ends here.
        rename_i enough
        cases search
        exact ⟨by omega, fun unit lower upper => further unit lower (by omega)⟩
      · exact ih (by omega) further search

end StepMachine
