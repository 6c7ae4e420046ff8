import StepMachine.Text.Hex
import StepMachine.Text.Printable

/-! Text in quotes, as it appears inside error messages. -/

namespace StepMachine

namespace Quoted

/-- One character between quotes. -/
def escape (c : Char) : String :=
  if c = '"' then "\\\""
  else if c = '\\' then "\\\\"
  else if c = '\n' then "\\n"
  else if c = '\t' then "\\t"
  else if c = '\r' then "\\r"
  else if c = '\x00' then "\\0"
  else if isPrintable c then c.toString
  else "\\u\x7b" ++ hex c.toNat ++ "\x7d"

end Quoted

/-- A text between quotes, with quotes, backslashes and what cannot be shown escaped. -/
def quoted (text : String) : String :=
  "\"" ++ String.join (text.toList.map Quoted.escape) ++ "\""

end StepMachine
