import Mathlib.Data.List.SplitBy
import StepMachine.Terminal

/-! What a terminal shows after a sequence of prints: the texts one after the other, grouped by
where they came from, and the lines that they make up. -/

namespace StepMachine

/-- Several prints as one chunk, under the location of the first. -/
def Chunk.joined (prints : List Chunk) : Chunk where
  text := String.join (prints.map (·.text))
  location := prints.head?.bind (·.location)

/-- One print more lengthens the text, and the location stays that of the first. -/
theorem Chunk.joined_concat {prints : List Chunk} (some : prints ≠ []) (last : Chunk) :
    joined (prints ++ [last]) = ⟨(joined prints).text ++ last.text, (joined prints).location⟩ := by
  -- Only the first print gives the location, so one more behind it leaves that alone.
  obtain ⟨first, rest, rfl⟩ := List.exists_cons_of_ne_nil some
  simp [joined, String.join_append, String.append_assoc]

section Lines

/-- A text without its final line break, if it ends in one. -/
def withoutFinalBreak (text : String) : String :=
  if text.toList.getLast? = some '\n' then String.ofList text.toList.dropLast else text

/-- Lines as they are printed: at least one of them, and no line break within any. -/
structure AreLines (lines : List String) : Prop where
  some : lines ≠ []
  unbroken : ∀ line ∈ lines, '\n' ∉ line.toList

/-- Cutting at line breaks is cutting a list of characters at one of them. -/
theorem splitLines_eq (line text : List Char) :
    (splitLines line text).map String.toList = List.splitOnPPrepend (· == '\n') text line := by
  -- Both go through the text with the line under way, and turn it around at its end.
  induction text generalizing line with
  | nil => simp [splitLines, List.splitOnPPrepend]
  | cons c rest ih =>
    by_cases ends : c = '\n'
    · simp [splitLines, List.splitOnPPrepend, ends, ih]
    · simp [splitLines, List.splitOnPPrepend, ends, ih]

/-- The pieces of a text. -/
theorem splitLines_toList (text : String) :
    (splitLines [] text.toList).map String.toList = text.toList.splitOn '\n' := by
  rw [splitLines_eq, List.splitOn, List.splitOnP_eq_splitOnPPrepend]

/-- The pieces of a text, with a line break between each two of them, are the text. -/
theorem intercalate_splitLines (text : String) :
    "\n".intercalate (splitLines [] text.toList) = text := by
  -- Cutting at line breaks and joining with them undo each other.
  rw [← String.toList_inj, String.toList_intercalate, splitLines_toList]
  exact List.intercalate_splitOn '\n'

/-- Lines are the pieces of the text that they make up, and so the only lines that do. -/
theorem AreLines.splitLines_intercalate {lines : List String} (are : AreLines lines) :
    splitLines [] ("\n".intercalate lines).toList = lines := by
  -- The lines hold no line breaks, so that the only ones are those between them.
  have unbroken : ∀ line ∈ lines.map String.toList, '\n' ∉ line := by
    simpa using are.unbroken
  have pieces := List.splitOn_intercalate '\n' unbroken (by simpa using are.some)
  rw [← List.map_inj_right (fun _ _ => String.toList_inj.mp), splitLines_toList,
    String.toList_intercalate]
  exact pieces

/-- The pieces of a text are lines, if the line under way is none that has ended. -/
theorem areLines_splitLines {line : List Char} (open_ : '\n' ∉ line) (text : List Char) :
    AreLines (splitLines line text) := by
  -- By induction on what is still to be cut, with the line under way so far.
  induction text generalizing line with
  | nil => exact ⟨by simp [splitLines], by simpa [splitLines] using open_⟩
  | cons c rest ih =>
    rw [splitLines]
    split
    · -- A line break ends the line under way, and the next one has no character yet.
      have others := ih List.not_mem_nil
      exact ⟨by simp, by simpa using ⟨open_, others.unbroken⟩⟩
    · rename_i other
      exact ih (by simpa [eq_comm] using And.intro other open_)

/-- A line break at the end of a text is taken off, and nothing else. -/
theorem withoutFinalBreak_append_break (text : String) :
    withoutFinalBreak (text ++ "\n") = text := by
  simp [withoutFinalBreak]

/-- A text that is put together from lines ends in a line break just if its last line is empty and
not its only one. -/
theorem withoutFinalBreak_intercalate {lines : List String} {last : String}
    (are : AreLines (lines ++ [last])) (whole : last ≠ "") :
    withoutFinalBreak ("\n".intercalate (lines ++ [last])) =
      "\n".intercalate (lines ++ [last]) := by
  -- The last character of the text is that of its last line.
  have final : ("\n".intercalate (lines ++ [last])).toList.getLast? = last.toList.getLast? := by
    cases lines with
    | nil => simp
    | cons first rest =>
      have some : last.toList ≠ [] := by simpa using whole
      rw [String.intercalate_append_of_ne_nil (by simp) (by simp), String.toList_append,
        String.intercalate_singleton, List.getLast?_append_of_ne_nil _ some]
  rw [withoutFinalBreak, if_neg]
  -- A line that ends in a line break would hold one.
  rw [final]
  intro ends
  exact are.unbroken last (by simp) (List.mem_of_getLast? ends)

end Lines

namespace Terminal

/-- Prints several texts one after the other. -/
def printAll (terminal : Terminal) (prints : List Chunk) : Terminal :=
  prints.foldl (fun terminal print => terminal.print print.text print.location) terminal

section Prints

variable (terminal : Terminal)

/-- A print adds its text behind all that was printed before. -/
theorem contents_print (text : String) (location : Option Location) :
    (terminal.print text location).contents = terminal.contents ++ text := by
  -- The latest chunk is the only one that a print looks at.
  obtain ⟨latest⟩ := terminal
  cases latest with
  | nil => simp [print, contents, chunks]
  | cons chunk earlier =>
    -- Whether it joins the latest chunk or opens one, the text comes last.
    by_cases same : chunk.location = location
    · simp [print, contents, chunks, same, String.join_append, String.append_assoc]
    · simp [print, contents, chunks, same, String.join_append, String.append_assoc]

/-- To print two sequences is to print one behind the other. -/
theorem printAll_append (first rest : List Chunk) :
    terminal.printAll (first ++ rest) = (terminal.printAll first).printAll rest :=
  List.foldl_append

/-- Prints add their texts in order. -/
theorem contents_printAll (prints : List Chunk) :
    (terminal.printAll prints).contents =
      terminal.contents ++ String.join (prints.map (·.text)) := by
  -- By induction on the prints, each of which goes behind what is there.
  induction prints generalizing terminal with
  | nil => simp [printAll]
  | cons first rest ih =>
    show ((terminal.print first.text first.location).printAll rest).contents = _
    rw [ih, contents_print, List.map_cons, String.join_cons, String.append_assoc]

/-- No two neighbouring chunks come from the same location. -/
def Apart (terminal : Terminal) : Prop :=
  terminal.latest.IsChain fun next one => one.location ≠ next.location

variable {terminal}

/-- A print that would stand beside a chunk from its own location joins it. -/
theorem Apart.print (apart : terminal.Apart) (text : String) (location : Option Location) :
    (terminal.print text location).Apart := by
  -- A chain of chunks, the latest first, grows at its front only.
  obtain ⟨latest⟩ := terminal
  unfold Apart at apart ⊢
  cases latest with
  | nil => simp [Terminal.print]
  | cons chunk earlier =>
    by_cases same : chunk.location = location
    · -- The chunk keeps its location, and so do its neighbours.
      cases earlier <;> simp_all [Terminal.print]
    · simpa [Terminal.print, same] using apart

/-- Prints keep neighbouring chunks apart, however many they are. -/
theorem Apart.printAll (apart : terminal.Apart) (prints : List Chunk) :
    (terminal.printAll prints).Apart := by
  induction prints generalizing terminal with
  | nil => exact apart
  | cons first rest ih => exact ih (apart.print first.text first.location)

end Prints

/-- Whether two prints come from the same location. -/
def together (one next : Chunk) : Bool := one.location = next.location

/-- A print goes on with a group of prints if it comes from the same location, and otherwise opens
a group of its own. -/
theorem print_joined {group : List Chunk} (some : group ≠ []) (earlier : List Chunk)
    (next : Chunk) :
    print ⟨Chunk.joined group :: earlier⟩ next.text next.location =
      if (Chunk.joined group).location = next.location then
        ⟨Chunk.joined (group ++ [next]) :: earlier⟩
      else ⟨Chunk.joined [next] :: Chunk.joined group :: earlier⟩ := by
  rw [Chunk.joined_concat some, print]
  -- A single print is the chunk that it opens.
  have alone : Chunk.joined [next] = next := by simp [Chunk.joined]
  rw [alone]

/-- Prints go on with a terminal as they do with the groups that its chunks are made of: the latest
group has `last` behind the prints of `group`, latest first, and the others are finished. -/
theorem printAll_groups (prints group : List Chunk) (last : Chunk) (groups : List (List Chunk))
    (same : (Chunk.joined (last :: group).reverse).location = last.location) :
    printAll ⟨((last :: group).reverse :: groups).map Chunk.joined⟩ prints =
      ⟨(List.splitBy.loop together prints last group groups).reverse.map Chunk.joined⟩ := by
  -- By induction on the prints, as the grouping goes through them.
  induction prints generalizing group last groups with
  | nil => simp [printAll, List.splitBy.loop]
  | cons first rest ih =>
    have some : (last :: group).reverse ≠ [] := by simp
    show printAll (print _ first.text first.location) rest = _
    rw [List.map_cons, print_joined some, same, List.splitBy.loop, together]
    by_cases joins : last.location = first.location
    · -- The print joins the latest group.
      have behind : (first :: last :: group).reverse = (last :: group).reverse ++ [first] :=
        List.reverse_cons ..
      -- The group keeps the location of its first print, which is that of the new one as well.
      have kept : (Chunk.joined (first :: last :: group).reverse).location = first.location := by
        rw [behind, Chunk.joined_concat some]
        exact same.trans joins
      have next := ih (last :: group) first groups kept
      rw [behind] at next
      simp only [joins, if_true, decide_true]
      exact next
    · -- The print opens a group, and the latest one is finished.
      simp only [joins, if_false, decide_false]
      exact ih [] first ((last :: group).reverse :: groups) rfl

/-- The chunks of a terminal are the prints, grouped by where they came from. -/
theorem chunks_printAll (prints : List Chunk) :
    (printAll {} prints).chunks = (prints.splitBy together).map Chunk.joined := by
  cases prints with
  -- The first print opens the first group, whatever its location.
  | nil => rfl
  | cons first rest =>
    have begun : print {} first.text first.location = ⟨[Chunk.joined [first]]⟩ := by
      simp [print, Chunk.joined]
    have groups := printAll_groups rest [] first [] rfl
    show (printAll (print {} first.text first.location) rest).chunks = _
    have same : printAll ⟨[Chunk.joined [first]]⟩ rest = _ := groups
    rw [begun, same, chunks, List.splitBy, List.map_reverse, List.reverse_reverse]

section Lines

variable (terminal : Terminal)

/-- What is printed is put together from lines, of which the last one is left out if it is empty. -/
theorem exists_lines : ∃ earlier last, AreLines (earlier ++ [last]) ∧
    terminal.contents = "\n".intercalate (earlier ++ [last]) ∧
    terminal.lines = if last = "" then earlier else earlier ++ [last] := by
  -- The lines are the pieces of the text, and the last of these is the only one that may go.
  have are := areLines_splitLines List.not_mem_nil terminal.contents.toList
  have text := intercalate_splitLines terminal.contents
  have shown : terminal.lines = if (splitLines [] terminal.contents.toList).getLast? = some "" then
      (splitLines [] terminal.contents.toList).dropLast
    else splitLines [] terminal.contents.toList := rfl
  -- From here on only what is known of the pieces matters.
  generalize splitLines [] terminal.contents.toList = pieces at are text shown
  obtain ⟨earlier, last, rfl⟩ := (List.eq_nil_or_concat' pieces).resolve_left are.some
  refine ⟨earlier, last, are, text.symm, ?_⟩
  simpa using shown

/-- Lines with a further, empty one behind them end in a line break. -/
theorem intercalate_concat_empty {lines : List String} (some : lines ≠ []) :
    "\n".intercalate (lines ++ [""]) = "\n".intercalate lines ++ "\n" := by
  -- To join one more is to put the separator in front of it.
  rw [String.intercalate_append_of_ne_nil some (by simp)]
  simp

/-- There are no lines just if nothing was printed. -/
theorem lines_eq_nil_iff : terminal.lines = [] ↔ terminal.contents = "" := by
  -- What was printed is given by its lines, the last of which may be empty.
  obtain ⟨earlier, last, are, text, shown⟩ := terminal.exists_lines
  rw [text, shown]
  by_cases empty : last = ""
  · subst empty
    rw [if_pos rfl]
    constructor
    · rintro rfl
      rfl
    · -- With a line in front there would be a line break between the two.
      intro nothing
      by_contra some
      rw [intercalate_concat_empty some] at nothing
      simp at nothing
  · rw [if_neg empty]
    refine ⟨by simp, fun nothing => absurd ?_ empty⟩
    -- The only line of an empty text is empty.
    have pieces := are.splitLines_intercalate
    rw [nothing] at pieces
    have only : [""] = earlier ++ [last] := pieces
    cases earlier with
    | nil => simpa using only.symm
    | cons first rest => simp at only

/-- What is printed is shown as lines, which make up all of it but a final line break. -/
theorem areLines_lines (some : terminal.contents ≠ "") :
    AreLines terminal.lines ∧
      "\n".intercalate terminal.lines = withoutFinalBreak terminal.contents := by
  have shows : terminal.lines ≠ [] := mt terminal.lines_eq_nil_iff.mp some
  obtain ⟨earlier, last, are, text, shown⟩ := terminal.exists_lines
  rw [shown] at shows ⊢
  rw [text]
  by_cases empty : last = ""
  · -- The text ends in a line break, which is what tells it from its lines.
    subst empty
    rw [if_pos rfl] at shows ⊢
    refine ⟨⟨shows, fun line member => are.unbroken line (by simp [member])⟩, ?_⟩
    rw [intercalate_concat_empty shows, withoutFinalBreak_append_break]
  · rw [if_neg empty]
    exact ⟨are, (withoutFinalBreak_intercalate are empty).symm⟩

end Lines

/-- Something more may have been printed. -/
def GrowsTo (terminal later : Terminal) : Prop := ∃ prints, later = terminal.printAll prints

namespace GrowsTo

/-- To print nothing is to print. -/
theorem refl (terminal : Terminal) : terminal.GrowsTo terminal := ⟨[], rfl⟩

/-- What was printed first stays in front of what was printed later. -/
theorem trans {first second third : Terminal} (one : first.GrowsTo second)
    (two : second.GrowsTo third) : first.GrowsTo third := by
  obtain ⟨prints, rfl⟩ := one
  obtain ⟨more, rfl⟩ := two
  exact ⟨prints ++ more, (first.printAll_append prints more).symm⟩

/-- What was shown before stays in front. -/
theorem contents {terminal later : Terminal} (grows : terminal.GrowsTo later) :
    terminal.contents.toList <+: later.contents.toList := by
  obtain ⟨prints, rfl⟩ := grows
  rw [contents_printAll, String.toList_append]
  exact List.prefix_append ..

end GrowsTo

end Terminal

end StepMachine
