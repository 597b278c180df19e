import SearchShell.Proofs.Command.Verbs
import SearchShell.Shell.Session

/-!
# Turns

The shell takes one reading of the input after the other up to the first that ends it: the end of
the input or a word for leaving.  There always is one, as every reading before the end of the input
takes something of it.  An interruption takes what was typed of one command and nothing else.
-/

set_option autoImplicit false

namespace SearchShell

/-- The reading ends the shell: nothing is left to read, or a word for leaving was typed, in letters
of any case. -/
def CommandReading.isLast (reading : CommandReading) : Bool :=
  match reading.result with
  | .ended => true
  | .interrupted => false
  | .command typed => Shell.exitWords.contains typed.trim.toAsciiLower

def CommandReading.line? (reading : CommandReading) : Option Text :=
  match reading.result with
  | .ended | .interrupted => none
  | .command typed => if typed.trim.isEmpty then none else some typed.trim

namespace Shell

/-- In these turns the input is read up to the last reading, which ends the shell. -/
inductive IsReadIn : List InputEvent → List CommandReading → CommandReading → Prop
  | last {input : List InputEvent} (isLast : (nextCommand input).isLast = true) :
      IsReadIn input [] (nextCommand input)
  | turn {input : List InputEvent} {turns : List CommandReading} {last : CommandReading}
      (goesOn : (nextCommand input).isLast = false)
      (later : IsReadIn (nextCommand input).rest turns last) :
      IsReadIn input (nextCommand input :: turns) last

def typedLines (turns : List CommandReading) : List Text := turns.filterMap CommandReading.line?

section TypedLines

variable {turn : CommandReading} (turns : List CommandReading)

theorem typedLines_cons_of_none (idle : turn.line? = none) :
    typedLines (turn :: turns) = typedLines turns :=
  List.filterMap_cons_none idle

theorem typedLines_cons_of_some {line : Text} (typed : turn.line? = some line) :
    typedLines (turn :: turns) = line :: typedLines turns :=
  List.filterMap_cons_some typed

end TypedLines

/-! ## Words for leaving -/

/-- Nothing but the letters of ASCII has the letters of these words as its lower case. -/
theorem isExit_eq (line : Text) : isExit line = exitWords.contains line.toAsciiLower := by
  have letters : ∀ word ∈ exitWords, ∀ c ∈ word, c.IsVerbLetter := by decide
  have same (word : Text) (isWord : word ∈ exitWords) :
      line.toLower = word ↔ line.toAsciiLower = word :=
    Text.toLowerAfter_eq_iff line [] word (letters word isWord)
  rw [isExit, Bool.eq_iff_iff, List.contains_iff_mem, List.contains_iff_mem]
  constructor
  · intro isWord
    rwa [← (same _ isWord).mp rfl] at isWord
  · intro isWord
    rwa [← (same _ isWord).mpr rfl] at isWord

/-! ## Every input is read -/

/-- A reading takes at least one event, if there is any, and leaves the later ones as they are. -/
theorem readOn_rest (shown : Text) (pending : List Text) (input : List InputEvent) :
    (readOn shown pending input).rest <:+ input.tail := by
  induction input generalizing shown pending with
  | nil => exact List.suffix_refl []
  | cons event rest ih =>
      cases event with
      | interruption => exact List.suffix_refl rest
      | line s =>
          cases s with
          | nil => exact List.suffix_refl rest
          | cons c more =>
              simp only [readOn]
              split
              · exact (ih continuationPrompt _).trans (List.tail_suffix rest)
              · exact List.suffix_refl rest

/-- Every reading but one at the end of the input takes something of it. -/
theorem nextCommand_rest_lt {input : List InputEvent}
    (goesOn : (nextCommand input).isLast = false) :
    (nextCommand input).rest.length < input.length := by
  have taken := (readOn_rest prompt [] input).length_le
  rw [List.length_tail] at taken
  have some : input ≠ [] := by
    rintro rfl
    cases goesOn
  have positive := List.length_pos_iff.mpr some
  rw [nextCommand]
  omega

theorem exists_isReadIn (input : List InputEvent) : ∃ turns last, IsReadIn input turns last := by
  -- By strong induction on how much is left to read.
  induction length : input.length using Nat.strongRecOn generalizing input with
  | ind n ih =>
      subst length
      cases goesOn : (nextCommand input).isLast with
      | true => exact ⟨[], _, .last goesOn⟩
      | false =>
          obtain ⟨turns, last, later⟩ :=
            ih _ (nextCommand_rest_lt goesOn) (nextCommand input).rest rfl
          exact ⟨_, last, .turn goesOn later⟩

theorem IsReadIn.unique {input : List InputEvent} {turns : List CommandReading}
    {last : CommandReading} (isRead : IsReadIn input turns last) :
    ∀ {others : List CommandReading} {final : CommandReading}, IsReadIn input others final →
      others = turns ∧ final = last := by
  induction isRead with
  | last isLast =>
      intro others final other
      cases other with
      | last => exact ⟨rfl, rfl⟩
      | turn goesOn => exact absurd (goesOn.symm.trans isLast) Bool.false_ne_true
  | turn goesOn later ih =>
      intro others final other
      cases other with
      | last isLast => exact absurd (goesOn.symm.trans isLast) Bool.false_ne_true
      | turn _ otherLater =>
          obtain ⟨rfl, rfl⟩ := ih otherLater
          exact ⟨rfl, rfl⟩

theorem IsReadIn.length_le {input : List InputEvent} {turns : List CommandReading}
    {last : CommandReading} (isRead : IsReadIn input turns last) : turns.length ≤ input.length := by
  induction isRead with
  | last => exact Nat.zero_le _
  | turn goesOn later ih =>
      have taken := nextCommand_rest_lt goesOn
      rw [List.length_cons]
      omega

/-! ## Interruptions -/

def GoesOn (line : Text) : Prop := line ≠ [] ∧ isContinued (withoutBreak line) = true

theorem readOn_interrupted {begun : List Text} (each : ∀ line ∈ begun, GoesOn line)
    (shown : Text) (pending : List Text) (rest : List InputEvent) :
    ∃ prompts, readOn shown pending (begun.map .line ++ .interruption :: rest) =
      ⟨.interrupted, prompts, rest⟩ := by
  induction begun generalizing shown pending with
  | nil => exact ⟨shown, rfl⟩
  | cons line others ih =>
      obtain ⟨some, continued⟩ := each line List.mem_cons_self
      obtain ⟨c, more, rfl⟩ := List.exists_cons_of_ne_nil some
      obtain ⟨prompts, read⟩ := ih (fun other member => each other (List.mem_cons_of_mem _ member))
        continuationPrompt (pending ++ [(withoutBreak (c :: more)).dropLast])
      refine ⟨shown ++ prompts, ?_⟩
      simp only [List.map_cons, List.cons_append, readOn, continued, if_true, read]

/-- An interruption discards the lines of one command that was begun: all that comes later is read
as if they had not been typed. -/
theorem isReadIn_interrupted {begun : List Text} (each : ∀ line ∈ begun, GoesOn line)
    {rest : List InputEvent} {turns : List CommandReading} {last : CommandReading}
    (isRead : IsReadIn rest turns last) :
    ∃ turn : CommandReading, turn.line? = none ∧
      IsReadIn (begun.map .line ++ .interruption :: rest) (turn :: turns) last := by
  obtain ⟨prompts, read⟩ := readOn_interrupted each prompt [] rest
  have next : nextCommand (begun.map .line ++ .interruption :: rest) =
      ⟨.interrupted, prompts, rest⟩ := read
  refine ⟨_, ?_, .turn (by rw [next]; rfl) (by rw [next]; exact isRead)⟩
  rw [next]
  rfl

end Shell

end SearchShell
