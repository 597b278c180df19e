import Mathlib.Data.List.Forall2
import SearchShell.Proofs.Shell.Turns

/-!
# Blocks of lines

Lines that are typed up to the end of the input fall into blocks in one way: lines that end in a
backslash, and the line that closes them.  Only the last lines can lack one that closes them.
Reading commands until none is left gives one for each block, in order.
-/

set_option autoImplicit false

namespace SearchShell

namespace Shell

/-! ## Blocks -/

/-- The line that goes on in the next one after saying this much. -/
def continuedLine (said : Text) : Text := said ++ text "\\"

theorem continuedLine_dropLast {line : Text} (goesOn : text "\\" <:+ line) :
    continuedLine line.dropLast = line := by
  obtain ⟨said, rfl⟩ := goesOn
  exact congrArg continuedLine List.dropLast_concat

theorem isContinued_iff (line : Text) : isContinued line = true ↔ text "\\" <:+ line := by
  rw [isContinued, decide_eq_true_eq, List.getLast?_eq_some_iff]
  exact exists_congr fun said => eq_comm

/-- The lines of a command: what the continued ones say before their last backslash, and the line
that closes them, which ends in none. -/
structure Block where
  continued : List Text
  closing : Text
  closes : ¬text "\\" <:+ closing
deriving DecidableEq

namespace Block

def lines (block : Block) : List Text := block.continued.map continuedLine ++ [block.closing]

def command (block : Block) : Text :=
  Text.joined (text "\n") (block.continued ++ [block.closing])

end Block

/-- Lines in blocks, and what the continued lines say that come after them and are closed by
nothing but the end of the input. -/
structure Grouping where
  blocks : List Block
  cutOff : List Text
deriving DecidableEq

namespace Grouping

def lines (grouping : Grouping) : List Text :=
  grouping.blocks.flatMap Block.lines ++ grouping.cutOff.map continuedLine

def commands (grouping : Grouping) : List Text :=
  grouping.blocks.map Block.command ++
    if grouping.cutOff = [] then [] else [Text.joined (text "\n") grouping.cutOff]

def after (said : List Text) (grouping : Grouping) : Grouping :=
  match grouping.blocks with
  | [] => ⟨[], said ++ grouping.cutOff⟩
  | block :: others =>
      ⟨{ block with continued := said ++ block.continued } :: others, grouping.cutOff⟩

def ofLines : List Text → Grouping
  | [] => ⟨[], []⟩
  | line :: rest =>
      if goesOn : text "\\" <:+ line then (ofLines rest).after [line.dropLast]
      else { ofLines rest with blocks := ⟨[], line, goesOn⟩ :: (ofLines rest).blocks }

/-! ## Lines in front -/

@[simp] theorem after_nil (grouping : Grouping) : grouping.after [] = grouping := by
  obtain ⟨blocks, cutOff⟩ := grouping
  cases blocks with
  | nil => rfl
  | cons block others => rfl

theorem after_after (first second : List Text) (grouping : Grouping) :
    (grouping.after second).after first = grouping.after (first ++ second) := by
  obtain ⟨blocks, cutOff⟩ := grouping
  cases blocks with
  | nil => simp only [after, List.append_assoc]
  | cons block others => simp only [after, List.append_assoc]

theorem lines_after (said : List Text) (grouping : Grouping) :
    (grouping.after said).lines = said.map continuedLine ++ grouping.lines := by
  obtain ⟨blocks, cutOff⟩ := grouping
  cases blocks with
  | nil => simp only [after, lines, List.flatMap_nil, List.nil_append, List.map_append]
  | cons block others =>
      simp only [after, lines, Block.lines, List.flatMap_cons, List.map_append, List.append_assoc]

theorem commands_after_closing (said : List Text) (block : Block) (others : List Block)
    (cutOff : List Text) :
    (after said ⟨block :: others, cutOff⟩).commands =
      Text.joined (text "\n") (said ++ block.continued ++ [block.closing]) ::
        commands ⟨others, cutOff⟩ := rfl

theorem commands_after_none {said : List Text} (some : said ≠ []) :
    (after said ⟨[], []⟩).commands = [Text.joined (text "\n") said] := by
  simp only [after, commands, List.append_nil, some, if_false, List.map_nil, List.nil_append]

/-! ## Every list of lines has one grouping -/

theorem ofLines_continuedLine (said : Text) (rest : List Text) :
    ofLines (continuedLine said :: rest) = (ofLines rest).after [said] := by
  have goesOn : text "\\" <:+ continuedLine said := List.suffix_append said _
  have same : (continuedLine said).dropLast = said := List.dropLast_concat
  rw [ofLines, dif_pos goesOn, same]

theorem ofLines_closing {line : Text} (closes : ¬text "\\" <:+ line) (rest : List Text) :
    ofLines (line :: rest) =
      ⟨⟨[], line, closes⟩ :: (ofLines rest).blocks, (ofLines rest).cutOff⟩ := by
  rw [ofLines, dif_neg closes]

theorem ofLines_map_append (said rest : List Text) :
    ofLines (said.map continuedLine ++ rest) = (ofLines rest).after said := by
  induction said with
  | nil => exact (after_nil _).symm
  | cons first others ih =>
      rw [List.map_cons, List.cons_append, ofLines_continuedLine, ih, after_after,
        List.singleton_append]

theorem lines_ofLines (lines : List Text) : (ofLines lines).lines = lines := by
  induction lines with
  | nil => rfl
  | cons line rest ih =>
      by_cases goesOn : text "\\" <:+ line
      · rw [← continuedLine_dropLast goesOn, ofLines_continuedLine, lines_after, ih]
        rfl
      · rw [ofLines_closing goesOn]
        exact congrArg (line :: ·) ih

theorem ofLines_lines (grouping : Grouping) : ofLines grouping.lines = grouping := by
  obtain ⟨blocks, cutOff⟩ := grouping
  induction blocks with
  | nil =>
      have ended := ofLines_map_append cutOff []
      rw [List.append_nil] at ended
      exact ended.trans (congrArg (Grouping.mk []) (List.append_nil cutOff))
  | cons block others ih =>
      have split : lines ⟨block :: others, cutOff⟩ =
          block.continued.map continuedLine ++ block.closing :: lines ⟨others, cutOff⟩ := by
        simp only [lines, Block.lines, List.flatMap_cons, List.append_assoc, List.cons_append,
          List.nil_append]
      rw [split, ofLines_map_append, ofLines_closing block.closes, ih]
      simp only [after, List.append_nil]

end Grouping

/-! ## Lines from the input -/

/-- A reading of the input gives a line with its line break, or without one if there is something
of it, as the last line of a file may be. -/
inductive Delivers : Text → InputEvent → Prop
  | broken (line : Text) : Delivers line (.line (line ++ text "\n"))
  | unbroken {line : Text} (some : line ≠ []) (bare : ¬text "\n" <:+ line) :
      Delivers line (.line line)

theorem Delivers.exists_line {line : Text} {event : InputEvent} (delivers : Delivers line event) :
    ∃ c more, event = .line (c :: more) ∧ withoutBreak (c :: more) = line := by
  cases delivers with
  | broken =>
      obtain ⟨c, more, split⟩ : ∃ c more, line ++ text "\n" = c :: more :=
        List.exists_cons_of_ne_nil (List.append_ne_nil_of_right_ne_nil _ (List.cons_ne_nil _ _))
      refine ⟨c, more, by rw [split], ?_⟩
      rw [← split]
      exact (if_pos List.getLast?_concat).trans List.dropLast_concat
  | unbroken some bare =>
      obtain ⟨c, more, rfl⟩ := List.exists_cons_of_ne_nil some
      refine ⟨c, more, rfl, ?_⟩
      rw [withoutBreak, if_neg]
      intro isLast
      obtain ⟨before, split⟩ := List.getLast?_eq_some_iff.mp isLast
      exact bare ⟨before, split.symm⟩

section Readings

variable {line : Text} {event : InputEvent} (delivers : Delivers line event) (shown : Text)
  (pending : List Text) (rest : List InputEvent)

include delivers

/-- A line that goes on is kept for the command, without its last backslash. -/
theorem readOn_of_continued (goesOn : text "\\" <:+ line) :
    readOn shown pending (event :: rest) =
      let reading := readOn continuationPrompt (pending ++ [line.dropLast]) rest
      { reading with prompts := shown ++ reading.prompts } := by
  obtain ⟨c, more, rfl, same⟩ := delivers.exists_line
  simp only [readOn, same, (isContinued_iff line).mpr goesOn, if_true]

theorem readOn_of_closing (closes : ¬text "\\" <:+ line) :
    readOn shown pending (event :: rest) =
      ⟨.command (assemble (pending ++ [line])), shown, rest⟩ := by
  obtain ⟨c, more, rfl, same⟩ := delivers.exists_line
  rw [← isContinued_iff] at closes
  simp only [readOn, same, closes, if_false, Bool.false_eq_true]

end Readings

/-- A reading finds nothing to read only before any line of a command, and exactly when the input
is at its end. -/
theorem readOn_eq_ended_iff (shown : Text) (pending : List Text) (input : List InputEvent) :
    (readOn shown pending input).result = .ended ↔
      pending = [] ∧ ∀ event ∈ input.head?, event = .line [] := by
  have atEnd_iff (lines : List Text) : atEnd lines = .ended ↔ lines = [] := by
    cases lines with
    | nil => exact iff_of_true rfl rfl
    | cons line others => exact iff_of_false nofun nofun
  induction input generalizing shown pending with
  | nil => simp [readOn, atEnd_iff]
  | cons event rest ih =>
      cases event with
      | interruption => simp [readOn]
      | line s =>
          cases s with
          | nil => simp [readOn, atEnd_iff]
          | cons c more =>
              simp only [readOn]
              split
              · simp [ih]
              · simp

/-- After some continued lines that are pending, the readings of the later lines give the commands
of the blocks that all these lines fall into. -/
theorem results_of_delivered {lines : List Text} {input : List InputEvent}
    (delivered : List.Forall₂ Delivers lines input) (shown : Text) (pending : List Text) :
    let commands := ((Grouping.ofLines lines).after pending).commands
    let first := readOn shown pending input
    (first :: nextCommands commands.length first.rest).map CommandReading.result =
      commands.map TypedCommand.command ++ [.ended] := by
  -- What is pending stands before the first block of the lines that are still to come.
  induction delivered generalizing shown pending with
  | nil =>
      cases pending with
      | nil => rfl
      | cons said others =>
          rw [Grouping.ofLines, Grouping.commands_after_none (List.cons_ne_nil said others)]
          rfl
  | @cons line event lines input delivers later ih =>
      by_cases goesOn : text "\\" <:+ line
      · have whole := ih continuationPrompt (pending ++ [line.dropLast])
        rw [← Grouping.after_after, ← Grouping.ofLines_continuedLine,
          continuedLine_dropLast goesOn] at whole
        rw [readOn_of_continued delivers shown pending input goesOn]
        exact whole
      · -- The line closes the pending ones, and the next reading begins with none.
        have others := ih prompt []
        rw [Grouping.after_nil] at others
        rw [Grouping.ofLines_closing goesOn, Grouping.commands_after_closing, List.append_nil,
          readOn_of_closing delivers shown pending input goesOn]
        exact congrArg (TypedCommand.command (assemble (pending ++ [line])) :: ·) others

/-- Lines that are delivered up to the end of the input fall into blocks in exactly one way.  So
many readings as there are blocks give their commands in order, each line without its last backslash
if it is continued and otherwise as it is; the next reading finds nothing left, which no reading
does while a line of a command is pending. -/
theorem commands_partition_lines {lines : List Text} {input : List InputEvent}
    (delivered : List.Forall₂ Delivers lines input) :
    ∃ grouping : Grouping, grouping.lines = lines ∧
      (∀ other : Grouping, other.lines = lines → other = grouping) ∧
      (nextCommands (grouping.commands.length + 1) input).map CommandReading.result =
        grouping.commands.map TypedCommand.command ++ [.ended] ∧
      ∀ (shown : Text) (pending : List Text) (later : List InputEvent),
        (readOn shown pending later).result = .ended ↔
          pending = [] ∧ ∀ event ∈ later.head?, event = .line [] := by
  refine ⟨Grouping.ofLines lines, Grouping.lines_ofLines lines, ?_, ?_, readOn_eq_ended_iff⟩
  · rintro other rfl
    exact (Grouping.ofLines_lines other).symm
  · have results := results_of_delivered delivered prompt []
    rwa [Grouping.after_nil] at results

/-- A block that an empty line closes, and a line of two backslashes that the input ends after. -/
theorem cut_off_lines_are_partitioned :
    let lines := [text "search\\", [], text "\\\\"]
    let input : List InputEvent :=
      [.line (text "search\\\n"), .line (text "\n"), .line (text "\\\\")]
    List.Forall₂ Delivers lines input ∧
      (nextCommands 3 input).map CommandReading.result =
        [.command (text "search\n"), .command (text "\\"), .ended] := by
  intro lines input
  have delivered : List.Forall₂ Delivers lines input :=
    .cons (.broken (text "search\\")) (.cons (.broken [])
      (.cons (.unbroken (by decide) (by decide)) .nil))
  obtain ⟨grouping, -, unique, results, -⟩ := commands_partition_lines delivered
  obtain rfl := unique ⟨[⟨[text "search"], [], by decide⟩], [text "\\"]⟩ rfl
  exact ⟨delivered, results⟩

end Shell

end SearchShell
