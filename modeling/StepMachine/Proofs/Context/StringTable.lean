import StepMachine.Proofs.Eval.Formatting
import StepMachine.Proofs.Heap.FirstFit
import StepMachine.Proofs.Heap.Text

/-! The string table of a program: each literal has a place there for good, is laid out in memory
with a zero byte behind it, and is read and printed from there up to its first zero character. -/

namespace StepMachine

namespace Program

/-- Enters several literals into the table, one after the other. -/
def internAll (program : Program) (literals : List String) : Program :=
  literals.foldl (fun program literal => (program.intern literal).2) program

section Interning

variable (program : Program)

/-- Entering a literal finds it in the table, or appends it. -/
theorem intern_cases (literal : String) :
    (∃ index, program.strings[index]? = some literal ∧ program.intern literal = (index, program)) ∨
    (literal ∉ program.strings.toList ∧ program.intern literal = (program.strings.size,
      { program with strings := program.strings.push literal })) := by
  -- The table is searched from its start on.
  unfold intern
  cases found : program.strings.findIdx? (· = literal) with
  | some index =>
    obtain ⟨inside, here, -⟩ := Array.findIdx?_eq_some_iff_getElem.mp found
    refine .inl ⟨index, ?_, rfl⟩
    rw [Array.getElem?_eq_getElem inside]
    simpa using here
  | none =>
    refine .inr ⟨fun member => ?_, rfl⟩
    have absent := Array.findIdx?_eq_none_iff.mp found literal (by simpa using member)
    simp at absent

/-- What stands in the table keeps its place when a literal is entered. -/
theorem intern_extends (literal : String) :
    program.strings.toList <+: (program.intern literal).2.strings.toList := by
  -- Nothing is appended, or one literal behind all others.
  rcases program.intern_cases literal with ⟨index, -, same⟩ | ⟨-, pushed⟩
  · simp [same]
  · rw [pushed, Array.toList_push]
    exact List.prefix_append ..

/-- A literal stands where it was entered. -/
theorem intern_stands (literal : String) :
    (program.intern literal).2.strings.toList[(program.intern literal).1]? = some literal := by
  -- The literal is found where it is, or it is the last one.
  rcases program.intern_cases literal with ⟨index, here, same⟩ | ⟨-, pushed⟩
  · rw [same]
    simpa using here
  · rw [pushed]
    simp

variable {program}

/-- No literal is entered twice. -/
theorem intern_nodup (nodup : program.strings.toList.Nodup) (literal : String) :
    (program.intern literal).2.strings.toList.Nodup := by
  rcases program.intern_cases literal with ⟨index, -, same⟩ | ⟨absent, pushed⟩
  · rw [same]
    exact nodup
  · rw [pushed, Array.toList_push, List.nodup_append]
    refine ⟨nodup, by simp, fun one member other also same => absent ?_⟩
    rw [List.mem_singleton.mp also] at same
    exact same ▸ member

/-- Literals that are entered come behind those that are there. -/
theorem internAll_extends (program : Program) (literals : List String) :
    program.strings.toList <+: (program.internAll literals).strings.toList := by
  -- By induction on the literals, each of which leaves the earlier ones in front.
  induction literals generalizing program with
  | nil => exact List.prefix_rfl
  | cons literal rest ih => exact (program.intern_extends literal).trans (ih _)

/-- However many literals are entered, none is entered twice. -/
theorem internAll_nodup (nodup : program.strings.toList.Nodup) (literals : List String) :
    (program.internAll literals).strings.toList.Nodup := by
  induction literals generalizing program with
  | nil => exact nodup
  | cons literal rest ih => exact ih (intern_nodup nodup literal)

/-- A literal stays where it was entered, whatever is entered before and after. -/
theorem internAll_stands (before after : List String) (literal : String) :
    (program.internAll (before ++ literal :: after)).strings[
      ((program.internAll before).intern literal).1]? = some literal := by
  -- What is entered afterwards comes behind, so that the index still stands for the literal.
  have stands := (program.internAll before).intern_stands literal
  have kept := ((program.internAll before).intern literal).2.internAll_extends after
  have split : program.internAll (before ++ literal :: after) =
      ((program.internAll before).intern literal).2.internAll after := by
    rw [internAll, List.foldl_append]
    rfl
  obtain ⟨inside, here⟩ := List.getElem?_eq_some_iff.mp stands
  rw [split, ← Array.getElem?_toList, List.prefix_iff_getElem?.mp kept _ inside, here]

end Interning

end Program

/-- A block holds the bytes of a literal and a zero byte behind them, and no more. -/
structure Heap.Keeps (heap : Heap) (block : Block) (literal : String) : Prop where
  size : block.size = (utf8Bytes literal).length + 1
  shows : heap.Shows block.address (utf8Bytes literal ++ [0])

/-- Literals have been laid out in their order, beside other blocks that were held before. -/
structure Context.Laid (others : List Block) (literals : List String) (context : Context) :
    Prop where
  holds : context.heap.Holds (context.strings.toList ++ others)
  length : context.strings.toList.length = literals.length
  keeps : ∀ entry ∈ context.strings.toList.zip literals, context.heap.Keeps entry.1 entry.2

namespace Exec

variable {others : List Block} {literals : List String} {context last : Context}

/-- Laying out one literal leaves those in front of it as they are. -/
theorem loadString_lays (laid : context.Laid others literals) {literal : String}
    (ran : loadString literal context = .ok () last) :
    last.Laid others (literals ++ [literal]) := by
  -- The block is had, and then the text and its end are written.
  rw [loadString_run] at ran
  cases allocated : Heap.allocate ((utf8Bytes literal).length + 1) context.heap with
  | error cause heap =>
    rw [allocated] at ran
    cases ran
  | ok block heap =>
    rw [allocated] at ran
    have held := Heap.allocate_holds laid.holds allocated
    obtain ⟨first, -, -, -, made, taken⟩ := Heap.allocate_ok laid.holds.bounded allocated
    have size : block.size = (utf8Bytes literal).length + 1 := by rw [made]
    cases wrote : block.writeText (utf8Bytes literal) heap with
    | error cause final =>
      simp only [wrote] at ran
      cases ran
    | ok _ final =>
      simp only [wrote] at ran
      cases ran
      -- The block is as large as the text with its zero byte, so that the two fill it.
      obtain ⟨holds, shows, untouched⟩ := held.writeText List.mem_cons_self size wrote
      constructor
      case holds =>
        -- The new block comes last in the table, but first among those held.
        refine holds.perm ?_
        rw [Array.toList_push, List.append_assoc]
        exact List.perm_middle.symm
      case length => simpa using laid.length
      case keeps =>
        rw [Array.toList_push, List.zip_append laid.length]
        intro entry member
        rcases List.mem_append.mp member with earlier | new
        · -- What was laid out before is not touched.
          have kept := laid.keeps entry earlier
          have there : entry.1 ∈ context.strings.toList ++ others :=
            List.mem_append_left _ (List.of_mem_zip earlier).1
          have same := untouched entry.1 (List.mem_cons_of_mem _ there) (held.ne_first there)
          refine ⟨kept.size, Heap.Shows.untouched ?_ (by simp [kept.size]) same⟩
          rw [taken]
          exact kept.shows
        · cases List.mem_singleton.mp new
          exact ⟨size, shows⟩

/-- Laying out literals one after the other lays out all of them. -/
theorem loadAll_lays (laid : context.Laid others literals) {rest : List String}
    (ran : rest.forM loadString context = .ok () last) : last.Laid others (literals ++ rest) := by
  -- The induction is on the literals that are still to be laid out.
  induction rest generalizing literals context with
  | nil =>
    cases ran
    simpa using laid
  | cons literal rest ih =>
    obtain ⟨_, middle, first, behind⟩ := exists_of_bind_ok ran
    have next := ih (loadString_lays laid first) behind
    rwa [List.append_assoc] at next

/-- The literals of a program that has done nothing yet are laid out beside what its heap held
before. -/
theorem loadStrings_lays {program : Program} {heap : Heap} (holds : heap.Holds others)
    {depthLimit grants : Nat}
    (ran : loadStrings (Context.start program heap depthLimit grants) = .ok () last) :
    last.Laid others program.strings.toList := by
  -- A fresh state has no literal in memory.
  have fresh : (Context.start program heap depthLimit grants).Laid others [] := ⟨holds, rfl, nofun⟩
  exact loadAll_lays fresh ran

/-- The address of a literal is that of its block in the table. -/
theorem stringAddress_run (index : Nat) (context : Context) :
    stringAddress index context = match context.strings[index]? with
      | some block => .ok block.address context
      | none => .error (.fault (.undefinedString index)) context := by
  -- The index is looked up, and nothing else.
  simp only [stringAddress, bind_run, get_run]
  cases context.strings[index]? <;> rfl

end Exec

namespace Context.Laid

variable {others : List Block} {literals : List String} {context : Context}

/-- Each literal has its block. -/
theorem exists_block (laid : context.Laid others literals) {index : Nat} {literal : String}
    (there : literals[index]? = some literal) :
    ∃ block, context.strings[index]? = some block ∧ context.heap.Keeps block literal ∧
      context.heap.Accessible block.address block.size := by
  -- The table has as many blocks as there are literals, in the same order.
  obtain ⟨inside, here⟩ := List.getElem?_eq_some_iff.mp there
  have also : index < context.strings.toList.length := by rw [laid.length]; exact inside
  have member : (context.strings.toList[index], literal) ∈ context.strings.toList.zip literals := by
    refine List.mem_of_getElem? (List.getElem?_zip_eq_some.mpr ⟨?_, there⟩)
    exact List.getElem?_eq_getElem also
  refine ⟨context.strings.toList[index], ?_, laid.keeps _ member,
    laid.holds.accessible (List.mem_append_left _ (List.getElem_mem also))⟩
  rw [← Array.getElem?_toList]
  exact List.getElem?_eq_getElem also

/-- The blocks of literals lie apart. -/
theorem apart (laid : context.Laid others literals) :
    context.strings.toList.Pairwise fun one other =>
      one.address.toNat + one.size ≤ other.address.toNat ∨
        other.address.toNat + other.size ≤ one.address.toNat := by
  -- Blocks that are held start at addresses of their own, and so they lie apart.
  have differ := laid.holds.addresses.sublist (List.sublist_append_left _ _)
  refine differ.imp_of_mem fun {one other} member also differ => ?_
  exact laid.holds.disjoint (List.mem_append_left _ member) (List.mem_append_left _ also)
    fun same => differ (congrArg Block.address same)

end Context.Laid

/-- A directive for texts writes the text that its argument leads to. -/
theorem Format.expand_text {heap : Heap} {address : Address} {text : String} (live : address ≠ 0)
    (read : heap.readText address = .ok text) :
    Format.expand heap "%s".toList [.pointer address] = .ok text.toList := by
  -- The directive reads the text behind its argument, since that is not null.
  have made : Directive.text.write heap (.pointer address) = .ok text := by
    show (if address = 0 then Except.ok "(null)" else liftM (heap.readText address)) = _
    rw [if_neg live, read]
    rfl
  have taken : Format.directive heap 's' [.pointer address] = .ok (text, []) := by
    show (do return (← Directive.text.write heap (.pointer address), [])) = _
    rw [made]
    rfl
  show Format.expand heap ['%', 's'] [.pointer address] = _
  rw [Format.expand, if_pos rfl, taken]
  simp [Format.expand, bind, Except.bind, pure, Except.pure]

/-- What stands in memory as a text is printed as a line of its own, and in the place of a
directive for texts. -/
theorem Builtin.printed {context : Context} {address : Address} {text : String}
    (live : address ≠ 0) (read : context.heap.readText address = .ok text) :
    puts.call [.pointer address] context = .ok (.int 0)
        { context with terminal := context.terminal.print (text ++ "\n") context.location } ∧
      ∀ format, textOf context.heap format = .ok "%s" →
        printf.call [format, .pointer address] context =
          .ok (.int (Int32.ofNat text.utf8ByteSize))
            { context with terminal := context.terminal.print text context.location } := by
  -- The format is found in memory, and the text is what its directive writes.
  constructor
  · rw [puts_run, textOf_pointer read]
  · intro format pattern
    have made : formatted context.heap [format, .pointer address] = .ok text := by
      have expanded := Format.expand_text live read
      simp only [formatted, pattern, bind, Except.bind, expanded, pure, Except.pure,
        String.ofList_toList]
    rw [printf_run, made]

/--
Literals survive their way through memory.

Literals that are entered into a table without repetitions, in any order and however often, leave
it without repetitions, and each of them stays where it was entered.
If the literals of a program can be laid out on a fresh state, over any heap that a host or a
program can make of a fresh one, each of them has an address.
The block there holds the bytes of the literal and one zero byte, and no two blocks overlap.
The text that is read there is the literal up to its first zero character; as long as the heap is
the same, it is printed as a line, and in the place of a directive for texts, exactly so.
An index behind the last literal has no address.
-/
theorem literals_survive_memory :
    (∀ (program : Program) (literals : List String), program.strings.toList.Nodup →
      (program.internAll literals).strings.toList.Nodup ∧
      ∀ before literal after, literals = before ++ literal :: after →
        (program.internAll literals).strings[((program.internAll before).intern literal).1]? =
          some literal) ∧
    ∀ (size unit : Nat) (fresh heap : Heap) (program : Program) (depthLimit grants : Nat)
      (last : Context), Heap.create size unit = .ok fresh → heapBase + size ≤ UInt64.size →
      fresh.Reached heap →
      Exec.loadStrings (Context.start program heap depthLimit grants) = .ok () last →
      (∀ index literal, program.strings[index]? = some literal →
        ∃ block, last.strings[index]? = some block ∧
          Exec.stringAddress index last = .ok block.address last ∧
          block.size = (utf8Bytes literal).length + 1 ∧
          last.heap.read block.address block.size = .ok (utf8Bytes literal ++ [0]) ∧
          last.heap.readText block.address = .ok (cutAtZero literal) ∧
          ∀ context : Context, context.heap = last.heap →
            Builtin.puts.call [.pointer block.address] context = .ok (.int 0)
              { context with terminal :=
                  context.terminal.print (cutAtZero literal ++ "\n") context.location } ∧
            ∀ format, Builtin.textOf context.heap format = .ok "%s" →
              Builtin.printf.call [format, .pointer block.address] context =
                .ok (.int (Int32.ofNat (cutAtZero literal).utf8ByteSize))
                  { context with terminal :=
                      context.terminal.print (cutAtZero literal) context.location }) ∧
      (last.strings.toList.Pairwise fun one other =>
        one.address.toNat + one.size ≤ other.address.toNat ∨
          other.address.toNat + other.size ≤ one.address.toNat) ∧
      ∀ index, program.strings.size ≤ index →
        Exec.stringAddress index last = .error (.fault (.undefinedString index)) last := by
  -- First the table of literals, which is a list; then memory, where that is laid out.
  refine ⟨fun program literals nodup => ⟨Program.internAll_nodup nodup literals, ?_⟩, ?_⟩
  · -- A literal stands where it was entered, and what comes later stands behind.
    rintro before literal after rfl
    exact Program.internAll_stands before after literal
  · -- Laid out beside what was held, each literal has its block.
    intro size unit fresh heap program depthLimit grants last created fits reached ran
    obtain ⟨others, holds⟩ := reached.holds created fits
    have laid := Exec.loadStrings_lays holds ran
    refine ⟨fun index literal there => ?_, laid.apart, fun index behind => ?_⟩
    · -- The block of the literal shows its bytes, and they are read up to the first zero.
      obtain ⟨block, here, ⟨extent, shows⟩, accessible⟩ :=
        laid.exists_block (by simpa using there)
      have read : last.heap.read block.address block.size = .ok (utf8Bytes literal ++ [0]) := by
        have length : (utf8Bytes literal ++ [0]).length = block.size := by simp [extent]
        rw [← length] at accessible ⊢
        exact shows.read accessible
      -- The null address lies in front of the arena.
      have live : block.address ≠ 0 := by
        intro null
        have low := (accessible.inside 0 accessible.some).1
        rw [null] at low
        exact absurd low (by decide)
      rw [extent] at accessible
      have text := shows.readText accessible laid.holds.addressable
      refine ⟨block, here, ?_, extent, read, text, fun context same => ?_⟩
      · rw [Exec.stringAddress_run, here]
      · exact Builtin.printed live (same ▸ text)
    · -- Behind the last literal there is no block.
      have none : last.strings[index]? = none := by
        rw [Array.getElem?_eq_none_iff, ← Array.length_toList, laid.length]
        simpa using behind
      rw [Exec.stringAddress_run, none]

/-- A table with a text that has a character of two bytes and one of zero, entered twice, and the
format that prints a text. -/
def greetings : Program := Program.internAll {} ["h\u00e9\x00!", "%s", "h\u00e9\x00!"]

/-- The text shares one place, and is printed up to its zero character. -/
theorem greetings_survive_memory :
    greetings.strings.toList.Nodup ∧ greetings.strings[0]? = some "h\u00e9\x00!" ∧
    ∃ last address format, Exec.stringAddress 0 last = .ok address last ∧
      Exec.stringAddress 1 last = .ok format last ∧
      last.heap.read address 6 = .ok [104, 195, 169, 0, 33, 0] ∧
      (∃ final, Builtin.printf.call [.pointer format, .pointer address]
          (Context.start greetings last.heap 4 0) = .ok (.int 3) final ∧
        final.terminal.contents = "h\u00e9") ∧
      Exec.stringAddress 2 last = .error (.fault (.undefinedString 2)) last := by
  -- Three literals are entered, and the third one is the first one again.
  obtain ⟨interned, loaded⟩ := literals_survive_memory
  obtain ⟨nodup, stands⟩ :=
    interned {} ["h\u00e9\x00!", "%s", "h\u00e9\x00!"] List.nodup_nil
  have place := stands ["h\u00e9\x00!", "%s"] "h\u00e9\x00!" [] rfl
  have shared : ((Program.internAll {} ["h\u00e9\x00!", "%s"]).intern "h\u00e9\x00!").1 = 0 := by
    decide +kernel
  rw [shared] at place
  let heap : Heap := { Heap.empty with unit := 8, units := 8, unit_pos := by decide }
  -- The arena is large enough for both texts.
  have succeeds : Exec.loadStrings.run' (Context.start greetings heap 4 0) = some () := by
    decide +kernel
  obtain ⟨last, ran⟩ :
      ∃ last, Exec.loadStrings (Context.start greetings heap 4 0) = .ok () last := by
    cases ran : Exec.loadStrings (Context.start greetings heap 4 0) with
    | ok _ last => exact ⟨last, rfl⟩
    | error reason last =>
      delta EStateM.run' EStateM.run at succeeds
      simp only [ran] at succeeds
      cases succeeds
  obtain ⟨texts, -, behind⟩ := loaded 64 8 heap heap greetings 4 0 last rfl (by decide)
    (.host []) ran
  obtain ⟨block, -, address, size, bytes, -, prints⟩ := texts 0 _ place
  obtain ⟨other, -, format, -, -, text, -⟩ := texts 1 "%s" (by decide +kernel)
  have printed := (prints (Context.start greetings last.heap 4 0) rfl).2 _
    (Builtin.textOf_pointer text)
  rw [size] at bytes
  refine ⟨nodup, place, last, _, _, address, format, bytes, ⟨_, printed, ?_⟩,
    behind 2 (by decide +kernel)⟩
  show (Terminal.print {} (cutAtZero "h\u00e9\x00!") none).contents = "h\u00e9"
  decide +kernel

end StepMachine
