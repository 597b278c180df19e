import SearchShell.Engine.Basic
import SearchShell.Proofs.Command.Asking
import SearchShell.Proofs.Command.Verbs
import SearchShell.Proofs.Text.Spacing

/-!
# What a line asks of an engine

The words of a line decide whether it is refused, and for which reason, before any engine
is involved.  A line that is not refused asks for exactly one operation, whatever the
engine answers.
-/

set_option autoImplicit false

namespace SearchShell

/-! ## The decision -/

namespace Verb

def admits (verb : Verb) (parts : Nat) : Bool :=
  match verb with
  | get | delete => parts = 3
  | count | search => parts ≤ 2
  | index => parts = 2 || parts = 3

def pathShape : Verb → PathShape
  | get | delete => .document
  | count | search => .search
  | index => .index

end Verb

def demandedQuery (payload : Text) : Except Fault (Option Members) :=
  if payload.words.length = 1 then .ok none else (readObject (payload.afterWords 1)).map some

/-- The size and the query of a search's payload.  The first word is the size and is judged
first; that it has too many digits counts only after the query. -/
def demandedSearch (payload : Option Text) : Except Fault SearchPayload :=
  match payload with
  | none => .ok ⟨none, none⟩
  | some payload => match payload.words with
      | [] => .ok ⟨none, none⟩
      | size :: _ =>
          if !size.isAsciiDigits then .error (.refused (.invalidSize size))
          else do
            let query ← demandedQuery payload
            if size.length ≤ digitLimit then .ok ⟨some size.asciiNumber, query⟩
            else .error (.integer (.tooLong size.length))

def demandedDocument (payload : Option Text) : Except Fault Members :=
  match payload with
  | none => .error (.refused (.invalidJson .missing))
  | some payload => readObject payload

def Verb.demand (verb : Verb) (parts : List Text) (payload : Option Text) :
    Except Fault EngineCall :=
  let part (n : Nat) : Text := parts[n]?.getD []
  let scope : SearchScope := ⟨listedNames parts[0]?, listedNames parts[1]?⟩
  match verb with
  | get => .ok (.get ⟨part 0, part 1, part 2⟩)
  | delete => .ok (.delete ⟨part 0, part 1, part 2⟩)
  | count => (demandedSearch payload).map fun spec => .search scope spec.forTotal.requestBody
  | search => (demandedSearch payload).map fun spec => .search scope spec.requestBody
  | index => (demandedDocument payload).map fun document =>
      .index ⟨part 0, part 1, parts[2]?⟩ document

/-- The call that a line asks for, or why there is none: its words are counted, then its verb,
its path and its payload are judged. -/
def demandOf (line : Text) : Except Fault EngineCall :=
  match line.words with
  | word :: path :: _ =>
      match Verb.all.find? fun verb => verb.word = word.toAsciiLower with
      | none => .error (.refused (.unknownMethod word))
      | some verb =>
          let parts := Text.pieces '/' path
          if verb.admits parts.length then verb.demand parts (payloadOf? line)
          else .error (.refused (.badPath verb.pathShape))
  | _ => .error (.refused .missingArguments)

/-- A number or a size has too many digits, or a payload nests too deep. -/
def Fault.isLimit : Fault → Bool
  | json (.tooDeep _) | json (.tooLong _) | integer (.tooLong _) => true
  | _ => false

/-! ## Calls of actions -/

def Action.call : Action → EngineCall
  | get address => .get address
  | count scope body | search scope body => .search scope body
  | index target document => .index target document
  | delete address => .delete address

def EngineCall.after {σ : Type} (engine : Engine σ) (state : σ) : EngineCall → σ
  | get address => (engine.get address state).state
  | search scope body => (engine.search scope body state).state
  | index target document => (engine.index target document state).state
  | delete address => (engine.delete address state).state

/-! ## Payloads -/

theorem demandedQuery_eq {payload : Text} (nonempty : payload ≠ []) (tight : payload.IsTight) :
    demandedQuery payload = if payload.afterWord.isEmpty then .ok none
      else (readObject payload.afterWord).map some := by
  have single : payload.words.length = 1 ↔ payload.afterWord.isEmpty = true := by
    rw [Text.words_of_led nonempty tight.led, List.length_cons, Nat.add_eq_right,
      List.length_eq_zero_iff, Text.words_eq_nil_of_led (Text.isTight_afterWord tight).led,
      List.isEmpty_iff]
  simp only [demandedQuery, single, Text.afterWords_one tight]

/-- Blanks around a payload make no difference. -/
theorem demandedSearch_trim (payload : Text) :
    demandedSearch (some payload.trim) = demandedSearch (some payload) := by
  simp only [demandedSearch, demandedQuery, Text.words_trim, Text.afterWords_trim]

theorem searchPayload_ofPayload (payload : Option Text) :
    SearchPayload.ofPayload payload = demandedSearch payload := by
  cases payload with
  | none => rfl
  | some payload =>
      have tight := Text.isTight_trim payload
      rw [← demandedSearch_trim]
      by_cases blank : payload.trim = []
      · simp only [SearchPayload.ofPayload, Option.getD_some, blank]
        rfl
      · have notEmpty : payload.trim.isEmpty = false := by simpa using blank
        simp only [SearchPayload.ofPayload, demandedSearch, Option.getD_some, notEmpty,
          Bool.false_eq_true, if_false, Text.words_of_led blank tight.led,
          demandedQuery_eq blank tight]
        generalize payload.trim.firstWord = size
        have sized : SearchPayload.readSize size =
            if size.length ≤ digitLimit then .ok size.asciiNumber
            else .error (.integer (.tooLong size.length)) := by
          by_cases short : size.length ≤ digitLimit
          · rw [SearchPayload.readSize, if_neg (by omega), if_pos short]
          · rw [SearchPayload.readSize, if_pos (by omega), if_neg short]
        rw [sized]
        split
        · rfl
        · split
          · split
            · rfl
            · rfl
          · cases readObject payload.trim.afterWord with
            | error fault => rfl
            | ok members =>
                split
                · rfl
                · rfl

theorem readDocument_eq {line : Text} :
    readDocument (payloadOf? line) = demandedDocument (payloadOf? line) := by
  cases given : payloadOf? line with
  | none => rfl
  | some payload =>
      obtain ⟨c, rest, rfl⟩ := List.exists_cons_of_ne_nil (payloadOf?_eq_some given).1
      rfl

/-! ## The decision of the program -/

theorem ofCommand_eq_demand (verb : Verb) (word path line : Text) (parts : List Text)
    (unbroken : ∀ part ∈ parts, part.isBlank = false) :
    (Action.ofCommand verb ⟨word, path, payloadOf? line, parts⟩).map Action.call =
      if verb.admits parts.length then verb.demand parts (payloadOf? line)
      else .error (.refused (.badPath verb.pathShape)) := by
  cases verb with
  | get | delete =>
      simp only [Action.ofCommand, documentAddress_ofSegments unbroken, Verb.admits,
        decide_eq_true_eq, Verb.demand]
      split
      · rfl
      · rfl
  | count | search =>
      simp only [Action.ofCommand, searchScope_ofSegments, Verb.admits, decide_eq_true_eq,
        Verb.demand, searchPayload_ofPayload]
      split
      · cases demandedSearch (payloadOf? line) with
        | error fault => rfl
        | ok spec => rfl
      · rfl
  | index =>
      simp only [Action.ofCommand, writeTarget_ofSegments, Verb.admits, Bool.or_eq_true,
        decide_eq_true_eq, Verb.demand, readDocument_eq]
      split
      · cases demandedDocument (payloadOf? line) with
        | error fault => rfl
        | ok document => rfl
      · rfl

/-- The program makes the call that the line asks for. -/
theorem ofLine_eq_demand (line : Text) : (Action.ofLine line).map Action.call = demandOf line := by
  unfold Action.ofLine demandOf
  rw [Command.ofLine_eq]
  cases words : line.words with
  | nil => rfl
  | cons word rest =>
      cases rest with
      | nil => rfl
      | cons path rest =>
          have unbroken : ∀ c ∈ path, c.isBlank = false :=
            Text.word_unbroken (s := line) (by simp [words])
          have segments : ∀ part ∈ Text.pieces '/' path, part.isBlank = false :=
            piece_unbroken unbroken
          simp only [Except.mapError, bind, Except.bind, Verb.ofWord?_eq]
          cases Verb.all.find? fun verb => decide (verb.word = Text.toAsciiLower word) with
          | none => rfl
          | some verb =>
              exact ofCommand_eq_demand verb word path line (Text.pieces '/' path) segments

theorem readObject_error {s : Text} {fault : Fault} (failed : readObject s = .error fault) :
    (∃ defect, fault = .refused (.invalidJson defect)) ∨ fault.isLimit = true := by
  unfold readObject readObjectWithin at failed
  split at failed
  · cases failed
  · cases failed
    exact Or.inl ⟨_, rfl⟩
  · cases failed
    exact Or.inl ⟨_, rfl⟩
  next fault notMalformed _ =>
    cases failed
    cases fault with
    | malformed defect place => exact absurd rfl (notMalformed defect place)
    | tooDeep container => exact Or.inr rfl
    | tooLong digits => exact Or.inr rfl

theorem demandedSearch_error {payload : Option Text} {fault : Fault}
    (failed : demandedSearch payload = .error fault) :
    (∃ refusal, fault = .refused refusal) ∨ fault.isLimit = true := by
  unfold demandedSearch at failed
  split at failed
  · cases failed
  next payload =>
    split at failed
    · cases failed
    next size _ _ =>
      split at failed
      · cases failed
        exact Or.inl ⟨_, rfl⟩
      · rcases (Outcome.bind_eq_error_iff _ _ _).mp failed with inQuery | ⟨query, -, inSize⟩
        · unfold demandedQuery at inQuery
          split at inQuery
          · cases inQuery
          · rcases readObject_error ((Outcome.map_eq_error_iff _ _ _).mp inQuery) with
              ⟨defect, rfl⟩ | limit
            · exact Or.inl ⟨_, rfl⟩
            · exact Or.inr limit
        · split at inSize
          · cases inSize
          · cases inSize
            exact Or.inr rfl

theorem demandedDocument_error {payload : Option Text} {fault : Fault}
    (failed : demandedDocument payload = .error fault) :
    (∃ refusal, fault = .refused refusal) ∨ fault.isLimit = true := by
  cases payload with
  | none =>
      cases failed
      exact Or.inl ⟨_, rfl⟩
  | some payload =>
      rcases readObject_error failed with ⟨defect, rfl⟩ | limit
      · exact Or.inl ⟨_, rfl⟩
      · exact Or.inr limit

theorem report_of_isLimit {fault : Fault} (limit : fault.isLimit = true) :
    fault.report = .ok ⟨.error ErrorKind.engineError.name (text "Error : " ++ fault.message),
      .error, text "Engine call failed"⟩ := by
  unfold Fault.report
  split
  · cases limit
  · cases limit
  · rfl

/-- A line asks for nothing only because it is refused or exceeds a limit. -/
theorem demandOf_error {line : Text} {fault : Fault} (failed : demandOf line = .error fault) :
    (∃ refusal, fault = .refused refusal) ∨ fault.isLimit = true := by
  unfold demandOf at failed
  split at failed
  next word path rest _ =>
    split at failed
    · cases failed
      exact Or.inl ⟨_, rfl⟩
    next verb _ =>
      simp only at failed
      split at failed
      · cases verb with
        | get | delete => cases failed
        | count | search => exact demandedSearch_error ((Outcome.map_eq_error_iff _ _ _).mp failed)
        | index => exact demandedDocument_error ((Outcome.map_eq_error_iff _ _ _).mp failed)
      · cases failed
        exact Or.inl ⟨_, rfl⟩
  next =>
    cases failed
    exact Or.inl ⟨_, rfl⟩

theorem ofLine_error {line : Text} {fault : Fault} (failed : Action.ofLine line = .error fault) :
    (∃ refusal, fault = .refused refusal) ∨ fault.isLimit = true := by
  have refused : demandOf line = .error fault := by
    rw [← ofLine_eq_demand line, failed]
    rfl
  exact demandOf_error refused

/-! ## Calls of lines -/

section Calls

variable {σ : Type}

theorem perform_observed_state (engine : Engine σ) (action : Action) (state : σ)
    (calls : List EngineCall) :
    (action.perform engine.observed (state, calls)).state =
      (action.call.after engine state, calls ++ [action.call]) := by
  cases action with
  | get | count | search | index | delete =>
      simp only [Action.perform, Action.present_state, Engine.observed, Attempt.noting,
        Action.call, EngineCall.after]

/-- For every engine, whatever its results: a line that is refused or exceeds a limit is answered
without any call, and any other line makes exactly the call that it asks for. -/
theorem interpret_makes_demanded_call (engine : Engine σ) (line : Text) (state : σ)
    (calls : List EngineCall) :
    match demandOf line with
    | .error fault =>
        (Engine.interpret engine.observed line (state, calls)).state = (state, calls) ∧
          ((∃ refusal, fault = .refused refusal ∧
            (Engine.interpret engine.observed line (state, calls)).outcome =
              .ok (.refused refusal)) ∨
          fault.isLimit = true ∧
            (Engine.interpret engine.observed line (state, calls)).outcome =
              .ok (.error ErrorKind.engineError.name (text "Error : " ++ fault.message)))
    | .ok call =>
        (Engine.interpret engine.observed line (state, calls)).state =
          (call.after engine state, calls ++ [call]) := by
  rw [← ofLine_eq_demand line, Engine.interpret_state_eq]
  cases found : Action.ofLine line with
  | ok action =>
      rw [Engine.execute_of_action found]
      exact perform_observed_state engine action state calls
  | error fault =>
      have executed : Engine.execute engine.observed line (state, calls) =
          ⟨.error (.fault fault), [], (state, calls)⟩ := Engine.execute_of_fault found
      refine ⟨by rw [executed], ?_⟩
      rcases ofLine_error found with ⟨refusal, rfl⟩ | limit
      · exact Or.inl ⟨refusal, rfl, Engine.interpret_outcome_of_refused (by rw [executed])⟩
      · exact Or.inr ⟨limit, Engine.interpret_outcome_of_fault (by rw [executed])
          (report_of_isLimit limit)⟩

end Calls

end SearchShell
