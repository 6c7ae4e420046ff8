import StepMachine.Expression
import StepMachine.Text.Quoted
import StepMachine.Value

/-! Types, operators and values spelled out in full for error messages. -/

namespace StepMachine

/-- One member of a structure, given the text of its type. -/
def memberText (name type : String) : String :=
  "Field \x7b name: " ++ quoted name ++ ", field_type: " ++ type ++ " \x7d"

mutual

/-- A type with all its members. -/
def CType.inspect : CType → String
  | .void => "Void"
  | .int => "Int"
  | .char => "Char"
  | .pointer target => "Pointer(" ++ target.inspect ++ ")"
  | .struct name fields =>
    "Struct(StructDef \x7b name: " ++ quoted name ++ ", fields: [" ++ fields.inspect ++ "] \x7d)"

/-- Members in order, with commas between. -/
def Fields.inspect : Fields → String
  | .none => ""
  | .field name type .none => memberText name type.inspect
  | .field name type rest => memberText name type.inspect ++ ", " ++ rest.inspect

end

/-- A structure with all its members. -/
def StructDef.inspect (definition : StructDef) : String :=
  "StructDef \x7b name: " ++ quoted definition.name ++
    ", fields: [" ++ definition.fields.inspect ++ "] \x7d"

/-- An operator by its name. -/
def ArithmeticOp.inspect : ArithmeticOp → String
  | .add => "Add"
  | .sub => "Sub"
  | .mul => "Mul"
  | .div => "Div"
  | .mod => "Mod"

/-- A value with its kind; a structure with its address and definition. -/
def Value.inspect : Value → String
  | .void => "Void"
  | .int n => s!"Int({n.toInt})"
  | .char c => s!"Char({c.toInt})"
  | .pointer address => s!"Pointer({address.toNat})"
  | .struct address definition =>
    s!"Struct \x7b address: {address.toNat}, def: " ++ definition.inspect ++ " \x7d"

end StepMachine
