import StepMachine.Location

/-! Captured output. -/

namespace StepMachine

/-- Text printed in one go, or in several by the same statement. -/
structure Chunk where
  text : String
  location : Option Location
  deriving DecidableEq, Inhabited

/-- All that was printed, latest chunk first. -/
structure Terminal where
  latest : List Chunk := []
  deriving DecidableEq, Inhabited

/-- Cuts a text at line breaks, given the characters of the current line, latest first. -/
def splitLines (line : List Char) : List Char → List String
  | [] => [String.ofList line.reverse]
  | c :: rest =>
    if c = '\n' then String.ofList line.reverse :: splitLines [] rest
    else splitLines (c :: line) rest

namespace Terminal

/-- Prints a text; it joins the latest chunk if that came from the same location. -/
def print (terminal : Terminal) (text : String) (location : Option Location) : Terminal :=
  match terminal.latest with
  | chunk :: earlier =>
    if chunk.location = location then ⟨{ chunk with text := chunk.text ++ text } :: earlier⟩
    else ⟨⟨text, location⟩ :: chunk :: earlier⟩
  | [] => ⟨[⟨text, location⟩]⟩

/-- The chunks in the order they were printed. -/
def chunks (terminal : Terminal) : List Chunk := terminal.latest.reverse

/-- Everything printed, as one text. -/
def contents (terminal : Terminal) : String := String.join (terminal.chunks.map (·.text))

/-- The printed lines; a final line break opens no further line. -/
def lines (terminal : Terminal) : List String :=
  let pieces := splitLines [] terminal.contents.toList
  if pieces.getLast? = some "" then pieces.dropLast else pieces

end Terminal

end StepMachine
