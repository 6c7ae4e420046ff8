import StepMachine.Eval.Builtin
import StepMachine.Proofs.Exec.Run
import StepMachine.Proofs.Terminal

/-! Formats are expanded piece by piece, each piece with the arguments that the pieces before it
have left over, and what a format makes is printed as a whole or not at all. -/

namespace StepMachine

namespace Format

/-- Whether a format does not end inside a directive. -/
def whole : List Char → Bool
  | [] => true
  | c :: rest =>
    if c = '%' then
      match rest with
      | [] => false
      | _ :: rest => whole rest
    else whole rest

/-- How many arguments the letter behind a percent sign takes. -/
def takes (letter : Char) : Nat := if (Directive.ofLetter? letter).isSome then 1 else 0

/-- How many arguments the directives of a format take. -/
def demand : List Char → Nat
  | [] => 0
  | c :: rest =>
    if c = '%' then
      match rest with
      | [] => 0
      | letter :: rest => takes letter + demand rest
    else demand rest

/-- A directive takes its arguments in front of those of the rest. -/
@[simp] theorem demand_directive (letter : Char) (rest : List Char) :
    demand ('%' :: letter :: rest) = takes letter + demand rest := by
  -- The percent sign decides how the two letters are read.
  rw [demand, if_pos rfl]

/-- A character that begins no directive takes no argument. -/
@[simp] theorem demand_plain {c : Char} (plain : c ≠ '%') (rest : List Char) :
    demand (c :: rest) = demand rest := by
  -- Only a percent sign would look at what is behind it.
  rw [demand.eq_def]
  simp only [if_neg plain]

/-- A text with every percent sign doubled, so that none of them begins a directive. -/
def doubled (text : List Char) : List Char :=
  text.flatMap fun c => if c = '%' then ['%', '%'] else [c]

/-- The cause that is reported for a letter without an argument. -/
def missing (letter : Char) : RuntimeError := .invalidFormat (.missingArgument letter)

/-- What a letter makes of the arguments that it takes. -/
def written (heap : Heap) (letter : Char) (taken : List Value) : Except RuntimeError (List Char) :=
  (directive heap letter taken).map (·.1.toList)

section Pieces

variable (heap : Heap) (arguments : List Value)

/-- A letter takes its arguments from the front, or reports that there are too few of them. -/
theorem directive_eq (letter : Char) :
    directive heap letter arguments =
      if arguments.length < takes letter then .error (missing letter)
      else (directive heap letter (arguments.take (takes letter))).map
        fun made => (made.1, arguments.drop (takes letter)) := by
  -- Whether the letter is a percent sign comes first, then which directive it is.
  by_cases percent : letter = '%'
  · -- A percent sign takes nothing, and leaves everything over.
    subst percent
    rfl
  · unfold takes directive
    cases Directive.ofLetter? letter with
    -- So does an unknown letter, which is refused with any arguments.
    | none => simp [percent, Except.map]
    | some kind =>
      cases arguments with
      | nil => simp [percent, missing]
      | cons argument rest =>
        simp only [if_neg percent, Option.isSome_some, if_true, List.length_cons, List.take_one,
          List.head?_cons, Option.toList_some, List.drop_one, List.tail_cons]
        rw [if_neg (by omega)]
        cases kind.write heap argument <;> rfl

/-- A directive is expanded with its own arguments, and what is behind it with the others. -/
theorem expand_directive (letter : Char) (rest : List Char) :
    expand heap ('%' :: letter :: rest) arguments =
      if arguments.length < takes letter then .error (missing letter)
      else do
        let text ← written heap letter (arguments.take (takes letter))
        let more ← expand heap rest (arguments.drop (takes letter))
        return text ++ more := by
  rw [expand, if_pos rfl, directive_eq]
  -- Either there are too few arguments, or the directive is written from the front ones.
  split
  · rfl
  · unfold written
    cases directive heap letter (arguments.take (takes letter)) <;> rfl

/-- A character that begins no directive stands for itself. -/
theorem expand_plain {c : Char} (plain : c ≠ '%') (rest : List Char) :
    expand heap (c :: rest) arguments = do
      let more ← expand heap rest arguments
      return c :: more := by
  rw [expand.eq_def]
  simp only [if_neg plain]

end Pieces

section Expansion

variable {heap : Heap} {arguments : List Value}

/-- A format in two parts is expanded part by part, if the first one does not end inside a
directive. -/
theorem expand_append {first : List Char} (closed : whole first = true) (rest : List Char) :
    expand heap (first ++ rest) arguments = do
      let text ← expand heap first arguments
      let more ← expand heap rest (arguments.drop (demand first))
      return text ++ more := by
  -- The induction follows the first part, which is left between two pieces.
  fun_induction whole first generalizing arguments with
  | case1 =>
    simp only [List.nil_append, expand, demand, List.drop_zero]
    exact (bind_pure _).symm
  | case2 => cases closed
  | case3 letter behind ih =>
    rw [List.cons_append, List.cons_append, expand_directive, expand_directive]
    split
    · rfl
    · -- The directive leaves the same arguments to the rest of the first part.
      simp only [demand_directive, ih closed, bind_assoc, pure_bind, List.drop_drop,
        List.append_assoc]
  | case4 c behind plain ih =>
    rw [List.cons_append, expand_plain _ _ plain, expand_plain _ _ plain]
    simp only [demand_plain plain, ih closed, bind_assoc, pure_bind, List.cons_append]

/-- Arguments behind those that a format takes do not matter, nor does any argument behind those
that it was refused for another cause with. -/
theorem expand_surplus {format : List Char}
    (enough : demand format ≤ arguments.length ∨
      ∀ letter, expand heap format arguments ≠ .error (missing letter)) (extra : List Value) :
    expand heap format (arguments ++ extra) = expand heap format arguments := by
  -- The induction follows the directives, of which each takes its arguments from the front.
  fun_induction demand format generalizing arguments with
  | case1 => simp only [expand]
  | case2 => simp only [expand, if_true]
  | case3 letter rest ih =>
    rw [expand_directive] at enough ⊢
    rw [expand_directive]
    by_cases few : arguments.length < takes letter
    · -- Without an argument for its first letter, a format lacks one in either sense.
      rw [if_pos few] at enough
      rcases enough with enough | other
      · omega
      · exact absurd rfl (other letter)
    · rw [if_neg few] at enough ⊢
      have le : takes letter ≤ arguments.length := Nat.le_of_not_lt few
      rw [if_neg (by rw [List.length_append]; omega), List.take_append_of_le_length le,
        List.drop_append_of_le_length le]
      cases first : written heap letter (arguments.take (takes letter)) with
      | error cause => rfl
      | ok text =>
        rw [first] at enough
        rw [ih]
        refine enough.imp (fun enough => ?_) fun other lacking failed => other lacking ?_
        · rw [List.length_drop]
          omega
        · rw [failed]
          rfl
  | case4 c rest plain ih =>
    rw [expand_plain _ _ plain] at enough ⊢
    rw [expand_plain _ _ plain, ih]
    refine enough.imp id fun other lacking failed => other lacking ?_
    rw [failed]
    rfl

/-- A format that is expanded had its arguments, and needs no others. -/
theorem expand_ok {format text : List Char} (made : expand heap format arguments = .ok text) :
    demand format ≤ arguments.length ∧
      expand heap format (arguments.take (demand format)) = .ok text := by
  -- Each directive that was written has taken its arguments from those left over.
  have enough : demand format ≤ arguments.length := by
    fun_induction demand format generalizing arguments text with
    | case1 => exact Nat.zero_le _
    | case2 => exact Nat.zero_le _
    | case3 letter rest ih =>
      rw [expand_directive] at made
      split at made
      · cases made
      · cases first : written heap letter (arguments.take (takes letter)) with
        | error cause => simp [first, bind, Except.bind] at made
        | ok text =>
          cases behind : expand heap rest (arguments.drop (takes letter)) with
          | error cause => simp [first, behind, bind, Except.bind] at made
          | ok more =>
            have others := ih behind
            rw [List.length_drop] at others
            omega
    | case4 c rest plain ih =>
      rw [expand_plain _ _ plain] at made
      cases behind : expand heap rest arguments with
      | error cause => simp [behind, bind, Except.bind] at made
      | ok more => exact ih behind
  refine ⟨enough, ?_⟩
  have taken : demand format ≤ (arguments.take (demand format)).length := by
    rw [List.length_take]
    omega
  -- The arguments that were taken are enough, so those behind them do not matter.
  rw [← expand_surplus (.inl taken) (arguments.drop (demand format)), List.take_append_drop, made]

/-- Doubled percent signs are read as single ones, and no argument is looked at. -/
theorem expand_doubled (text : List Char) : expand heap (doubled text) arguments = .ok text := by
  induction text with
  | nil => rfl
  | cons c rest ih =>
    -- A percent sign is read as two, and any other character stays as it is.
    by_cases percent : c = '%'
    · subst percent
      show expand heap ('%' :: '%' :: doubled rest) arguments = _
      rw [expand, if_pos rfl]
      show (do return "%".toList ++ (← expand heap (doubled rest) arguments)) = _
      rw [ih]
      rfl
    · have kept : doubled (c :: rest) = c :: doubled rest := by
        simp [doubled, percent]
      rw [kept, expand_plain _ _ percent, ih]
      rfl

/-- A format uses up so many arguments: they are there, no others matter, and with fewer of them
one is missing. -/
structure Consumes (heap : Heap) (format : List Char) (arguments : List Value) (count : Nat) :
    Prop where
  there : count ≤ arguments.length
  enough : ∀ others, others.take count = arguments.take count →
    expand heap format others = expand heap format arguments
  needed : ∀ few < count, ∃ letter,
    expand heap format (arguments.take few) = .error (missing letter)

/-- A format that is expanded uses up as many arguments as its directives take. -/
theorem consumes_demand {format text : List Char}
    (made : expand heap format arguments = .ok text) :
    Consumes heap format arguments (demand format) := by
  obtain ⟨there, taken⟩ := expand_ok made
  refine ⟨there, fun others same => ?_, fun few lt => ?_⟩
  · rw [made]
    rw [← same] at taken
    have enough := (expand_ok taken).1
    rw [← List.take_append_drop (demand format) others, expand_surplus (.inl enough), taken]
  · by_contra other
    -- If none were missing, the arguments left out would be surplus ones.
    have same := expand_surplus (.inr (not_exists.mp other)) (arguments.drop few)
    rw [List.take_append_drop, made] at same
    have enough := (expand_ok same.symm).1
    rw [List.length_take] at enough
    omega

end Expansion

end Format

namespace Builtin

/-- The text at the address that a value stands for, if there is one. -/
def textOf (heap : Heap) (pointer : Value) : Except RuntimeError String := do
  heap.readText (← pointer.asPointer)

/-- The text that a value leads to is read in the state, which stays as it is. -/
theorem textAt_run (pointer : Value) (context : Context) :
    textAt pointer context = match textOf context.heap pointer with
      | .error cause => .error (.fault cause) context
      | .ok text => .ok text context := by
  -- The value has to be an address first.
  rw [textAt, bind_run, Exec.get_run, textOf]
  cases pointer.asPointer with
  | error cause => rfl
  | ok address =>
    -- The heap is read in the state of the call.
    have read : (do context.heap.readText (← Except.ok address) : Except RuntimeError String) =
      liftM (context.heap.readText address) := rfl
    rw [read]
    show (liftM (context.heap.readText address) : Exec String) context = _
    cases context.heap.readText address <;> rfl

/-- At the address of a pointer, the text that it leads to is read. -/
theorem textOf_pointer {heap : Heap} {address : Address} {text : String}
    (read : heap.readText address = .ok text) : textOf heap (.pointer address) = .ok text := by
  -- A pointer is its own address.
  show (liftM (heap.readText address) : Except RuntimeError String) = _
  rw [read]
  rfl

/-- A text is printed as a line of its own. -/
theorem puts_run (pointer : Value) (context : Context) :
    puts.call [pointer] context = match textOf context.heap pointer with
      | .error cause => .error (.fault cause) context
      | .ok text => .ok (.int 0)
          { context with terminal := context.terminal.print (text ++ "\n") context.location } := by
  -- After the text is read, printing it cannot fail.
  rw [call, bind_run, textAt_run]
  cases textOf context.heap pointer <;> rfl

/-- The text that formatted output makes of its values, of which the first one leads to the
format. -/
def formatted (heap : Heap) : List Value → Except RuntimeError String
  | [] => .error (.invalidFormat .noFormat)
  | format :: arguments => do
    let format ← textOf heap format
    return String.ofList (← Format.expand heap format.toList arguments)

/-- Formatted output fails before anything is printed, or prints its text in one go. -/
theorem printf_run (values : List Value) (context : Context) :
    printf.call values context = match formatted context.heap values with
      | .error cause => .error (.fault cause) context
      | .ok text => .ok (.int (Int32.ofNat text.utf8ByteSize))
          { context with terminal := context.terminal.print text context.location } := by
  cases values with
  | nil => rfl
  | cons format arguments =>
    -- The format is read and expanded in the same state, and either may fail.
    rw [call, bind_run, textAt_run, formatted]
    cases textOf context.heap format with
    | error cause => rfl
    | ok text =>
      have made : (do
            let format ← Except.ok text
            return String.ofList (← Format.expand context.heap format.toList arguments)) =
          (Format.expand context.heap text.toList arguments).map String.ofList := rfl
      rw [made]
      simp only [bind_run, Exec.get_run]
      cases Format.expand context.heap text.toList arguments <;> rfl

/-- Values behind a format and its arguments do not matter. -/
theorem formatted_surplus {heap : Heap} {values : List Value} (some : values ≠ [])
    (enough : ∀ letter, formatted heap values ≠ .error (Format.missing letter))
    (extra : List Value) : formatted heap (values ++ extra) = formatted heap values := by
  obtain ⟨format, arguments, rfl⟩ := List.exists_cons_of_ne_nil some
  -- Only the arguments behind the format matter, and the surplus stands behind them.
  rw [List.cons_append, formatted, formatted]
  rw [formatted] at enough
  cases read : textOf heap format with
  | error cause => rfl
  | ok text =>
    rw [read] at enough
    have same := @Format.expand_surplus heap arguments text.toList
      (.inr fun letter failed => enough letter (by simp [failed, bind, Except.bind])) extra
    simp only [bind, Except.bind, same]

end Builtin

open Format in
/--
Formats are expanded part by part, and printed as a whole or not at all.

A format whose first part does not end inside a directive fails as that part does.
If the first part can be expanded, it uses up as many arguments as its directives take, and the text
of the whole is that of the first part with that of the second behind, made with the arguments left
over.
A text whose percent signs are doubled is made again, whatever the arguments are.
Formatted output fails without any change, or it prints the text it makes once, under the location
of the statement under way, changes nothing else and yields the number of bytes of the text, as
long as an integer can hold it.
Where no argument is missing, more of them change nothing.
-/
theorem formats_are_compositional_and_atomic :
    (∀ heap first arguments, whole first = true →
      (∀ cause, expand heap first arguments = .error cause →
        ∀ rest, expand heap (first ++ rest) arguments = .error cause) ∧
      ∀ text, expand heap first arguments = .ok text →
        Consumes heap first arguments (demand first) ∧
        ∀ rest, expand heap (first ++ rest) arguments =
          (text ++ ·) <$> expand heap rest (arguments.drop (demand first))) ∧
    (∀ heap text arguments, expand heap (doubled text) arguments = .ok text) ∧
    ∀ values (context : Context),
      (∀ cause, Builtin.formatted context.heap values = .error cause →
        Builtin.printf.call values context = .error (.fault cause) context) ∧
      (∀ text, Builtin.formatted context.heap values = .ok text →
        ∃ result, Builtin.printf.call values context = .ok (.int result)
            { context with terminal := context.terminal.print text context.location } ∧
          (context.terminal.print text context.location).contents =
            context.terminal.contents ++ text ∧
          (text.utf8ByteSize < 0x80000000 → result.toInt = text.utf8ByteSize)) ∧
      (values ≠ [] → (∀ letter, Builtin.formatted context.heap values ≠ .error (missing letter)) →
        ∀ extra, Builtin.printf.call (values ++ extra) context =
          Builtin.printf.call values context) := by
  refine ⟨fun heap first arguments closed => ⟨fun cause failed rest => ?_, fun text made =>
      ⟨consumes_demand made, fun rest => ?_⟩⟩,
    fun heap text arguments => expand_doubled text,
    fun values context => ⟨fun cause failed => ?_, fun text made => ?_, fun some enough extra => ?_⟩⟩
  · -- A format fails where its first part does.
    rw [expand_append closed, failed]
    rfl
  · -- After its first part, a format goes on with the arguments left over.
    rw [expand_append closed, made]
    rfl
  · -- What is not made is not printed.
    rw [Builtin.printf_run, failed]
  · refine ⟨_, by rw [Builtin.printf_run, made], Terminal.contents_print .., fun small => ?_⟩
    exact Int32.toInt_ofNat_of_lt small
  · -- A call with more arguments makes the same text.
    rw [Builtin.printf_run, Builtin.formatted_surplus some enough, ← Builtin.printf_run]

/-- A state with the format `%d!` at the first address of its heap. -/
def formatAtHand : Context :=
  Context.start {} { Heap.empty with
    unit := 4, units := 4, live := #[true], used := 1, bytes := ⟨#[37, 100, 33, 0]⟩
    unit_pos := by decide } 4 0

/-- Two numbers with a sign between them, in two parts, and one number that is printed. -/
theorem formatting_of_numbers :
    Format.expand Heap.empty ("%d%%".toList ++ "%d".toList) [.int 7, .int 9] =
      .ok "7%9".toList ∧
    ∃ result last, Builtin.printf.call [.pointer 0x1000, .int 7, .int 9] formatAtHand =
        .ok (.int result) last ∧ result.toInt = 2 ∧ last.terminal.contents = "7!" := by
  obtain ⟨parts, -, calls⟩ := formats_are_compositional_and_atomic
  constructor
  · -- The two parts are expanded one after the other.
    rw [((parts Heap.empty "%d%%".toList [.int 7, .int 9] rfl).2 "7%".toList rfl).2]
    rfl
  · -- The last number is one more than the format asks for.
    obtain ⟨-, prints, surplus⟩ := calls [.pointer 0x1000, .int 7] formatAtHand
    have made : Builtin.formatted formatAtHand.heap [.pointer 0x1000, .int 7] = .ok "7!" := rfl
    obtain ⟨result, called, shown, bytes⟩ := prints "7!" made
    have more := surplus (by simp) (by simp [made]) [.int 9]
    exact ⟨result, _, more.trans called, bytes (by decide), shown⟩

end StepMachine
