import SearchShell.Command.Interpretation
import SearchShell.Proofs.Outcome
import SearchShell.Proofs.Text.Words

/-!
# What interpreting a line does to the engine

The state after a line is that after the one operation of its action, or the state before
it when the line is no action.
-/

set_option autoImplicit false

namespace SearchShell

/-! ## Lines and their words

A line is a command when it has two words.  They are its verb and its path, and what
follows them, without blanks at either end, is its payload. -/

/-- What follows the verb and the path of a line, unless there is nothing. -/
def payloadOf? (line : Text) : Option Text :=
  if (line.afterWords 2).isEmpty then none else some (line.afterWords 2)

theorem payloadOf?_eq_some {line payload : Text} (given : payloadOf? line = some payload) :
    payload ≠ [] ∧ Text.IsTight payload := by
  unfold payloadOf? at given
  split at given
  · cases given
  · next nonempty =>
    cases given
    exact ⟨by simpa using nonempty, Text.isTight_afterWords 2 line⟩

theorem pathSegments_of_unbroken {path : Text} (unbroken : ∀ c ∈ path, c.isBlank = false) :
    pathSegments path = Text.pieces '/' path := by
  rw [pathSegments, Text.trim_of_tight (Text.isTight_of_unbroken unbroken)]

namespace Command

theorem afterWords_two (line : Text) : line.afterWords 2 = line.trim.afterWord.afterWord := by
  have afterVerb := Text.isTight_afterWord (Text.isTight_trim line)
  have afterPath := Text.isTight_afterWord afterVerb
  simp only [Text.afterWords]
  rw [Text.trim_of_tight afterVerb, Text.trim_of_tight afterPath]

/-- A line is taken apart into its first two words and the rest. -/
theorem ofLine_eq (line : Text) :
    ofLine line = match line.words with
      | verb :: path :: _ => .ok ⟨verb, path, payloadOf? line, Text.pieces '/' path⟩
      | _ => .error .missingArguments := by
  have tight := Text.isTight_trim line
  have afterVerb := Text.isTight_afterWord tight
  have verbs := Text.firstWord_eq_head tight.led
  have paths := Text.firstWord_eq_head afterVerb.led
  have others := Text.words_afterWord tight.led
  rw [Text.words_trim] at verbs others
  rw [others] at paths
  have unbroken := Text.firstWord_unbroken line.trim.afterWord
  simp only [ofLine, pathSegments_of_unbroken unbroken, ← afterWords_two]
  cases words : line.words with
  | nil => simp [paths, words]
  | cons verb rest =>
      cases rest with
      | nil => simp [paths, words]
      | cons path later =>
          have named : path ≠ [] := Text.word_ne_nil (s := line) (by simp [words])
          simp [verbs, paths, words, named, payloadOf?]

theorem ofLine_eq_ok_iff (line : Text) (command : Command) :
    ofLine line = .ok command ↔
      ∃ verb path rest, line.words = verb :: path :: rest ∧
        command = ⟨verb, path, payloadOf? line, Text.pieces '/' path⟩ := by
  rw [ofLine_eq]
  split
  next verb path rest words =>
    constructor
    · intro ok
      exact ⟨verb, path, rest, words, (Except.ok.inj ok).symm⟩
    · rintro ⟨otherVerb, otherPath, otherRest, sameWords, rfl⟩
      rw [words] at sameWords
      obtain ⟨rfl, rfl, -⟩ : verb = otherVerb ∧ path = otherPath ∧ rest = otherRest := by
        simpa using sameWords
      rfl
  next missing =>
    constructor
    · intro ok
      cases ok
    · rintro ⟨verb, path, rest, words, -⟩
      exact absurd words (missing verb path rest)

end Command

/-! ## Interpretation -/

def engineFailure (message : Text) : Envelope :=
  .error ErrorKind.engineError.name (text "Error : " ++ message)

/-- The answer that has a body of a form, or says what keeps the body from being written. -/
def Envelope.showing (form : ContentType) : Except WritingFault Text → Envelope
  | .ok body => .success form body
  | .error fault => engineFailure fault.message

theorem Envelope.isSuccess_showing_iff (form : ContentType) (body : Except WritingFault Text) :
    (showing form body).isSuccess = true ↔ ∃ s, body = .ok s := by
  cases body with
  | ok s => simp [showing, isSuccess]
  | error fault => simp [showing, engineFailure, isSuccess]

theorem Envelope.showing_eq_success_iff (form : ContentType) (body : Except WritingFault Text)
    (s : Text) : showing form body = .success form s ↔ body = .ok s := by
  cases body with
  | ok other => simp [showing]
  | error fault => simp [showing, engineFailure]

namespace Action

theorem written_eq_ok_iff (form : ContentType) (body : Except WritingFault Text)
    (envelope : Envelope) :
    written form body = .ok envelope ↔ ∃ s, body = .ok s ∧ envelope = .success form s := by
  rw [written, Outcome.map_eq_ok_iff]
  simp only [Outcome.mapError_eq_ok_iff, eq_comm]

@[simp] theorem present_state {σ α : Type} (attempt : Attempt σ α) (log : α → List LogRecord)
    (answer : α → Except Abort Envelope) :
    (present attempt log answer).state = attempt.state := by
  unfold present
  split
  · rfl
  · rfl

end Action

namespace Engine

variable {σ : Type}

theorem execute_state (engine : Engine σ) (line : Text) (state : σ) :
    (execute engine line state).state = match Action.ofLine line with
      | .ok action => (action.perform engine state).state
      | .error _ => state := by
  cases found : Action.ofLine line with
  | error fault => simp only [execute, found]
  | ok action => simp only [execute, found]

theorem execute_of_action {engine : Engine σ} {line : Text} {state : σ} {action : Action}
    (ok : Action.ofLine line = .ok action) :
    execute engine line state = action.perform engine state := by
  simp only [execute, ok]

theorem execute_of_fault {engine : Engine σ} {line : Text} {state : σ} {fault : Fault}
    (failed : Action.ofLine line = .error fault) :
    execute engine line state = ⟨.error (.fault fault), [], state⟩ := by
  simp only [execute, failed]

theorem interpret_outcome_of_ok {engine : Engine σ} {line : Text} {state : σ}
    {envelope : Envelope} (answered : (execute engine line state).outcome = .ok envelope) :
    (interpret engine line state).outcome = .ok envelope := by
  simp only [interpret, answered]

/-- A fault is answered by its report. -/
theorem interpret_outcome_of_fault {engine : Engine σ} {line : Text} {state : σ} {fault : Fault}
    {report : FaultReport} (failed : (execute engine line state).outcome = .error (.fault fault))
    (reported : fault.report = .ok report) :
    (interpret engine line state).outcome = .ok report.envelope := by
  simp only [interpret, failed, reported]

/-- A refused line is answered by its refusal. -/
theorem interpret_outcome_of_refused {engine : Engine σ} {line : Text} {state : σ}
    {refusal : Refusal}
    (refused : (execute engine line state).outcome = .error (.fault (.refused refusal))) :
    (interpret engine line state).outcome = .ok (.refused refusal) :=
  interpret_outcome_of_fault refused rfl

theorem interpret_outcome_of_written {engine : Engine σ} {line : Text} {state : σ}
    {form : ContentType} {body : Except WritingFault Text}
    (answered : (execute engine line state).outcome =
      (Action.written form body).mapError .fault) :
    (interpret engine line state).outcome = .ok (.showing form body) := by
  cases body with
  | ok s => exact interpret_outcome_of_ok answered
  | error fault => exact interpret_outcome_of_fault answered rfl

@[simp] theorem interpret_state_eq (engine : Engine σ) (line : Text) (state : σ) :
    (interpret engine line state).state = (execute engine line state).state := by
  simp only [interpret]
  split
  · rfl
  · rfl
  · split
    · rfl
    · rfl

end Engine

end SearchShell
