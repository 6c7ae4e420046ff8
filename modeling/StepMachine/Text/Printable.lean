import StepMachine.Text.Invisible
import StepMachine.Text.Mark

/-! Which characters have a shape of their own on a page. -/

namespace StepMachine

/-- Whether a number lies in one of some ranges with both ends included. -/
def inRanges (number : Nat) (ranges : List (Nat × Nat)) : Bool :=
  ranges.any fun (low, high) => low ≤ number && number ≤ high

/-- Whether a character can stand on a page by itself and be seen. -/
def isPrintable (c : Char) : Bool :=
  -- Plain letters, digits and signs need no look at the tables.
  if 0x20 ≤ c.toNat ∧ c.toNat < 0x7F then true
  else !inRanges c.toNat Invisible.ranges && !inRanges c.toNat Mark.ranges

end StepMachine
