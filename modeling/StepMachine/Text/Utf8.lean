/-! Text as bytes, and bytes of any kind read back as text. -/

namespace StepMachine

/-- The UTF-8 bytes of a text. -/
def utf8Bytes (text : String) : List UInt8 := text.toUTF8.data.toList

namespace Utf8

/-- A character of which some bytes are still to come. -/
structure Pending where
  /-- How many bytes are missing. -/
  missing : Nat
  /-- The bounds within which the next byte must lie. -/
  low : UInt8
  high : UInt8
  /-- The bits read so far. -/
  bits : Nat

/-- What a byte opens when no character is under way: the bounds on the second byte rule out
overlong forms, surrogates and numbers past the last code point. -/
def Pending.ofLead? (byte : UInt8) : Option Pending :=
  if 0xC2 ≤ byte ∧ byte ≤ 0xDF then some ⟨1, 0x80, 0xBF, byte.toNat - 0xC0⟩
  else if byte = 0xE0 then some ⟨2, 0xA0, 0xBF, 0⟩
  else if byte = 0xED then some ⟨2, 0x80, 0x9F, 13⟩
  else if 0xE1 ≤ byte ∧ byte ≤ 0xEF then some ⟨2, 0x80, 0xBF, byte.toNat - 0xE0⟩
  else if byte = 0xF0 then some ⟨3, 0x90, 0xBF, 0⟩
  else if 0xF1 ≤ byte ∧ byte ≤ 0xF3 then some ⟨3, 0x80, 0xBF, byte.toNat - 0xF0⟩
  else if byte = 0xF4 then some ⟨3, 0x80, 0x8F, 4⟩
  else none

/-- Stands in for bytes that are no character. -/
def replacement : Char := Char.ofNat 0xFFFD

/-- Reads one byte when no character is under way. -/
def start (byte : UInt8) : List Char × Option Pending :=
  if byte < 0x80 then ([Char.ofNat byte.toNat], none)
  else match Pending.ofLead? byte with
    | some pending => ([], some pending)
    | none => ([replacement], none)

/-- Reads one byte: the characters it completes, and the one that it leaves under way. -/
def feed (byte : UInt8) : Option Pending → List Char × Option Pending
  | none => start byte
  | some pending =>
    if pending.low ≤ byte ∧ byte ≤ pending.high then
      let bits := pending.bits * 64 + (byte.toNat - 0x80)
      match pending.missing with
      | 0 | 1 => ([Char.ofNat bits], none)
      | missing + 1 => ([], some ⟨missing, 0x80, 0xBF, bits⟩)
    else
      -- The byte breaks the character off and is then read afresh.
      let (characters, next) := start byte
      (replacement :: characters, next)

/-- Reads all bytes; a character that the end breaks off is replaced too. -/
def decodeFrom (pending : Option Pending) : List UInt8 → List Char
  | [] => if pending.isSome then [replacement] else []
  | byte :: rest =>
    let (characters, next) := feed byte pending
    characters ++ decodeFrom next rest

/-- The text of a byte sequence, each longest broken piece of a character read as one
replacement character. -/
def decode (bytes : List UInt8) : String := String.ofList (decodeFrom none bytes)

end Utf8

end StepMachine
