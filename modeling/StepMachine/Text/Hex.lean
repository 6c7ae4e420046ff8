/-! Hexadecimal numerals. -/

namespace StepMachine

/-- A number in base sixteen with lower-case digits and none to spare. -/
def hex (number : Nat) : String := String.ofList (Nat.toDigits 16 number)

end StepMachine
