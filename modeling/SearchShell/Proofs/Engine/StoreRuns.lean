import SearchShell.Proofs.Command.Dispatch
import SearchShell.Proofs.Engine.StoreContents
import SearchShell.Proofs.Json.Writable

/-!
# Runs over a store

Interpreting lines over a store is keeping a map from addresses to documents.  A line that
is answered with success writes one address if it indexes and clears one if it deletes;
every other line leaves all documents and their order as they are.
-/

set_option autoImplicit false

namespace SearchShell

namespace Engine

variable {σ : Type}

def stateAfter (engine : Engine σ) (lines : List Text) (state : σ) : σ :=
  ((interpretAll engine lines state).getLast?.map Execution.state).getD state

def answers (engine : Engine σ) (lines : List Text) (state : σ) :
    List (Except Abort Envelope) :=
  (interpretAll engine lines state).map Execution.outcome

theorem stateAfter_cons (engine : Engine σ) (line : Text) (rest : List Text) (state : σ) :
    stateAfter engine (line :: rest) state =
      stateAfter engine rest (interpret engine line state).state := by
  have shape : interpretAll engine (line :: rest) state =
      interpret engine line state ::
        interpretAll engine rest (interpret engine line state).state := rfl
  rw [stateAfter, shape, List.getLast?_cons, stateAfter]
  cases (interpretAll engine rest (interpret engine line state).state).getLast? with
  | none => rfl
  | some done => rfl

end Engine

namespace Store

/-! ## The map of a run -/

/-- The documents after a line, by the answer to the line: the id of a written document is the
body of the answer. -/
def recorded (line : Text) (answer : Envelope) (before : Contents) : Contents :=
  match asked? line, answer with
  | some (.index, index :: type :: _), .success _ id =>
      match readDocument (payloadOf? line) with
      | .ok document => Function.update before ⟨index, type, id⟩ (some document)
      | .error _ => before
  | some (.delete, [index, type, id]), .success _ _ =>
      Function.update before ⟨index, type, id⟩ none
  | _, _ => before

def recordedAll : List Text → List (Except Abort Envelope) → Contents → Contents
  | line :: lines, .ok answer :: answers, before =>
      recordedAll lines answers (recorded line answer before)
  | _, _, before => before

/-- The line was answered with success and writes or deletes a document. -/
def Changes (line : Text) (answer : Envelope) : Prop :=
  answer.isSuccess = true ∧
    ∃ verb parts, asked? line = some (verb, parts) ∧ (verb = .index ∨ verb = .delete)

structure IsRecorded (line : Text) (before : Store) (answer : Envelope) (after : Store) :
    Prop where
  contents : after.contents = recorded line answer before.contents
  unchanged : ¬Changes line answer → after.toList = before.toList
  index : ∀ index type rest form id, asked? line = some (.index, index :: type :: rest) →
    answer = .success form id → ∃ document, readDocument (payloadOf? line) = .ok document ∧
      after.contents = Function.update before.contents ⟨index, type, id⟩ (some document)
  /-- A document that cannot be written is an error of the engine. -/
  get : ∀ index type id, asked? line = some (.get, [index, type, id]) →
    answer = match before.get? ⟨index, type, id⟩ with
      | some document => .showing .json (documentText documentRoom (.object document))
      | none => .refused .notFound
  shown : ∀ index type id document, asked? line = some (.get, [index, type, id]) →
    before.get? ⟨index, type, id⟩ = some document →
      (answer.isSuccess = true ↔ (Json.object document).IsWritable .indented documentRoom)
  delete : ∀ index type id, asked? line = some (.delete, [index, type, id]) →
    (answer.isSuccess = true ↔ (before.get? ⟨index, type, id⟩).isSome = true)

/-- The line is answered, and the store after it is what the answer says. -/
def Answered (ids : Nat → Text) (line : Text) (store : Store) : Prop :=
  ∃ answer, (Engine.interpret (engine ids) line store).outcome = .ok answer ∧
    IsRecorded line store answer (Engine.interpret (engine ids) line store).state

theorem recorded_of_error (line kind body : Text) (before : Contents) :
    recorded line (.error kind body) before = before := by
  unfold recorded
  split
  next answered => cases answered
  next answered => cases answered
  next => rfl

theorem recorded_of_other {line : Text} {verb : Verb} {parts : List Text}
    (asked : asked? line = some (verb, parts)) (notIndex : verb ≠ .index)
    (notDelete : verb ≠ .delete) (answer : Envelope) (before : Contents) :
    recorded line answer before = before := by
  unfold recorded
  rw [asked]
  split
  next same => exact absurd (Prod.mk.inj (Option.some.inj same)).1 notIndex
  next same => exact absurd (Prod.mk.inj (Option.some.inj same)).1 notDelete
  next => rfl

theorem recorded_of_delete {line index type id : Text}
    (asked : asked? line = some (.delete, [index, type, id])) (form : ContentType) (body : Text)
    (before : Contents) :
    recorded line (.success form body) before =
      Function.update before ⟨index, type, id⟩ none := by
  simp only [recorded, asked]

theorem recorded_of_index {line index type : Text} {rest : List Text} {document : Members}
    (asked : asked? line = some (.index, index :: type :: rest))
    (payload : readDocument (payloadOf? line) = .ok document) (form : ContentType) (id : Text)
    (before : Contents) :
    recorded line (.success form id) before =
      Function.update before ⟨index, type, id⟩ (some document) := by
  simp only [recorded, asked, payload]

/-- A line that is no action is answered with an error. -/
theorem answered_fault {ids : Nat → Text} {line : Text} {fault : Fault} {store : Store}
    (failed : Action.ofLine line = .error fault) : Answered ids line store := by
  have executed : Engine.execute (engine ids) line store = ⟨.error (.fault fault), [], store⟩ :=
    Engine.execute_of_fault failed
  have reported : ∃ kind body, (Engine.interpret (engine ids) line store).outcome =
      .ok (.error kind body) := by
    rcases ofLine_error failed with ⟨refusal, rfl⟩ | limit
    · exact ⟨_, _, Engine.interpret_outcome_of_refused (by rw [executed])⟩
    · exact ⟨_, _, Engine.interpret_outcome_of_fault (by rw [executed])
        (report_of_isLimit limit)⟩
  obtain ⟨kind, body, answered⟩ := reported
  rw [Answered, Engine.interpret_state_eq, executed]
  refine ⟨_, answered, ⟨(recorded_of_error line kind body _).symm, fun _ => rfl, ?_, ?_, ?_, ?_⟩⟩
  · intro index type rest form id _ succeeded
    cases succeeded
  · intro index type id asked
    rw [ofLine_get asked] at failed
    cases failed
  · intro index type id _ asked
    rw [ofLine_get asked] at failed
    cases failed
  · intro index type id asked
    rw [ofLine_delete asked] at failed
    cases failed

section Lines

variable {ids : Nat → Text} {line : Text} {store : Store}

/-- Of a line with a verb and a path, only what this verb does to this path is left to be shown. -/
theorem IsRecorded.of_asked {verb : Verb} {parts : List Text} {answer : Envelope} {after : Store}
    (asked : asked? line = some (verb, parts))
    (contents : after.contents = recorded line answer store.contents)
    (unchanged : ¬Changes line answer → after.toList = store.toList)
    (indexed : verb = .index → ∀ index type rest form id, parts = index :: type :: rest →
      answer = .success form id → ∃ document, readDocument (payloadOf? line) = .ok document ∧
        after.contents = Function.update store.contents ⟨index, type, id⟩ (some document))
    (shown : verb = .get → ∀ index type id, parts = [index, type, id] →
      answer = match store.get? ⟨index, type, id⟩ with
        | some document => .showing .json (documentText documentRoom (.object document))
        | none => .refused .notFound)
    (deleted : verb = .delete → ∀ index type id, parts = [index, type, id] →
      (answer.isSuccess = true ↔ (store.get? ⟨index, type, id⟩).isSome = true)) :
    IsRecorded line store answer after := by
  have shownAs (index type id : Text) (asks : asked? line = some (.get, [index, type, id])) :
      answer = match store.get? ⟨index, type, id⟩ with
        | some document => .showing .json (documentText documentRoom (.object document))
        | none => .refused .notFound := by
    rw [asked] at asks
    cases asks
    exact shown rfl index type id rfl
  refine ⟨contents, unchanged, ?_, shownAs, ?_, ?_⟩
  · intro index type rest form id asks
    rw [asked] at asks
    cases asks
    exact indexed rfl index type rest form id rfl
  · intro index type id document asks found
    rw [shownAs index type id asks, found, Envelope.isSuccess_showing_iff]
    exact Json.exists_render_iff _ _ _
  · intro index type id asks
    rw [asked] at asks
    cases asks
    exact deleted rfl index type id rfl

theorem answered_get {index type id : Text}
    (asked : asked? line = some (.get, [index, type, id])) : Answered ids line store := by
  have executed : Engine.execute (engine ids) line store =
      Action.perform (engine ids) (.get ⟨index, type, id⟩) store :=
    Engine.execute_of_action (ofLine_get asked)
  have answer_eq : (Engine.interpret (engine ids) line store).outcome =
      .ok (match store.get? ⟨index, type, id⟩ with
        | some document => .showing .json (documentText documentRoom (.object document))
        | none => .refused .notFound) := by
    cases found : store.get? ⟨index, type, id⟩ with
    | none =>
        apply Engine.interpret_outcome_of_refused
        rw [executed]
        simp [Action.perform, Action.present, engine, found, Action.notFound]
    | some document =>
        apply Engine.interpret_outcome_of_written
        rw [executed]
        simp [Action.perform, Action.present, engine, found]
  rw [Answered, Engine.interpret_state_eq, executed]
  refine ⟨_, answer_eq, .of_asked asked
    (recorded_of_other asked (by decide) (by decide) _ _).symm (fun _ => rfl)
    (absurd · (by decide)) ?_ (absurd · (by decide))⟩
  rintro - _ _ _ same
  cases same
  rfl

/-- A deletion of what is not there is answered with an error and changes nothing. -/
theorem answered_delete_absent {index type id : Text}
    (asked : asked? line = some (.delete, [index, type, id]))
    (absent : store.get? ⟨index, type, id⟩ = none) : Answered ids line store := by
  have executed : Engine.execute (engine ids) line store =
      Action.perform (engine ids) (.delete ⟨index, type, id⟩) store :=
    Engine.execute_of_action (ofLine_delete asked)
  have outcome : (Engine.interpret (engine ids) line store).outcome = .ok (.refused .notFound) := by
    apply Engine.interpret_outcome_of_refused
    rw [executed]
    simp [Action.perform, Action.present, engine, absent, Action.notFound]
  have same : (Action.perform (engine ids) (.delete ⟨index, type, id⟩) store).state = store := by
    rw [Action.perform, Action.present_state]
    exact erase_of_get?_none absent
  rw [Answered, Engine.interpret_state_eq, executed, same]
  refine ⟨_, outcome, .of_asked asked (recorded_of_error line _ _ _).symm (fun _ => rfl)
    (absurd · (by decide)) (absurd · (by decide)) ?_⟩
  rintro - _ _ _ same
  cases same
  simp [absent, Envelope.refused, Envelope.isSuccess]

theorem answered_delete_present {index type id : Text} {document : Members}
    (asked : asked? line = some (.delete, [index, type, id]))
    (present : store.get? ⟨index, type, id⟩ = some document) : Answered ids line store := by
  have executed : Engine.execute (engine ids) line store =
      Action.perform (engine ids) (.delete ⟨index, type, id⟩) store :=
    Engine.execute_of_action (ofLine_delete asked)
  have outcome : (Engine.interpret (engine ids) line store).outcome = .ok (.success .text id) := by
    apply Engine.interpret_outcome_of_ok
    rw [executed]
    simp [Action.perform, Action.present, engine, present]
  rw [Answered, Engine.interpret_state_eq, executed]
  refine ⟨_, outcome, .of_asked asked ?_ ?_ (absurd · (by decide)) (absurd · (by decide)) ?_⟩
  · rw [recorded_of_delete asked, Action.perform, Action.present_state]
    exact contents_erase ⟨index, type, id⟩ store
  · intro unchanged
    exact absurd ⟨rfl, _, _, asked, Or.inr rfl⟩ unchanged
  · rintro - _ _ _ same
    cases same
    simp [present, Envelope.isSuccess]

theorem answered_index {index type : Text} {id : Option Text} {document : Members}
    (asked : asked? line = some (.index, [index, type] ++ id.toList))
    (payload : readDocument (payloadOf? line) = .ok document)
    (ok : Action.ofLine line = .ok (.index ⟨index, type, id⟩ document)) :
    Answered ids line store := by
  have executed : Engine.execute (engine ids) line store =
      Action.perform (engine ids) (.index ⟨index, type, id⟩ document) store :=
    Engine.execute_of_action ok
  have outcome : (Engine.interpret (engine ids) line store).outcome =
      .ok (.success .text (store.write ids ⟨index, type, id⟩ document).1) := by
    apply Engine.interpret_outcome_of_ok
    rw [executed]
    rfl
  have state : (Action.perform (engine ids) (.index ⟨index, type, id⟩ document) store).state =
      (store.write ids ⟨index, type, id⟩ document).2 := by
    rw [Action.perform, Action.present_state]
    rfl
  have written := contents_write ids ⟨index, type, id⟩ document store
  rw [Answered, Engine.interpret_state_eq, executed, state]
  refine ⟨_, outcome, .of_asked asked ?_ ?_ ?_ (absurd · (by decide)) (absurd · (by decide))⟩
  · rw [recorded_of_index asked payload]
    exact written
  · intro unchanged
    exact absurd ⟨rfl, _, _, asked, Or.inl rfl⟩ unchanged
  · rintro - _ _ _ _ _ same succeeded
    cases same
    cases succeeded
    exact ⟨document, payload, written⟩

/-- A search is answered one way or another. -/
theorem search_outcome {scope : SearchScope} {body : Members} {log : Hits → List LogRecord}
    {form : ContentType} {present : Hits → Except WritingFault Text}
    (executed : Engine.execute (engine ids) line store =
      Action.present ((engine ids).search scope body store) log fun hits =>
        (Action.written form (present hits)).mapError .fault) :
    ∃ answer, (Engine.interpret (engine ids) line store).outcome = .ok answer := by
  cases found : store.find scope body with
  | ok hits =>
      refine ⟨.showing form (present hits), Engine.interpret_outcome_of_written ?_⟩
      rw [executed]
      simp [Action.present, engine, found, Except.mapError]
  | error fault =>
      have failed : (Engine.execute (engine ids) line store).outcome =
          .error (.fault (.shape fault)) := by
        rw [executed]
        simp [Action.present, engine, found, Except.mapError]
      exact ⟨_, Engine.interpret_outcome_of_fault failed rfl⟩

/-- A line that is answered, that leaves the store as it is, and that is none of the lines that
could do otherwise. -/
theorem answered_of_same_state {verb : Verb} {parts : List Text}
    (asked : asked? line = some (verb, parts)) (searches : verb = .count ∨ verb = .search)
    (answered : ∃ answer, (Engine.interpret (engine ids) line store).outcome = .ok answer)
    (same : (Engine.interpret (engine ids) line store).state = store) :
    Answered ids line store := by
  obtain ⟨answer, outcome⟩ := answered
  have other : verb ≠ .index ∧ verb ≠ .delete ∧ verb ≠ .get := by
    rcases searches with rfl | rfl
    · decide
    · decide
  rw [Answered, same]
  exact ⟨answer, outcome, .of_asked asked
    (recorded_of_other asked other.1 other.2.1 answer _).symm (fun _ => rfl)
    (absurd · other.1) (absurd · other.2.2) (absurd · other.2.1)⟩

theorem answered_line (ids : Nat → Text) (line : Text) (store : Store) :
    Answered ids line store := by
  cases decided : Action.ofLine line with
  | error fault => exact answered_fault decided
  | ok action =>
      have executed : Engine.execute (engine ids) line store = action.perform (engine ids) store :=
        Engine.execute_of_action decided
      cases asks_of_ofLine decided with
      | get asked => exact answered_get asked
      | @delete index type id asked =>
          cases found : store.get? ⟨index, type, id⟩ with
          | none => exact answered_delete_absent asked found
          | some document => exact answered_delete_present asked found
      | index asked payload => exact answered_index asked payload decided
      | count asked =>
          have same : (Engine.interpret (engine ids) line store).state = store := by
            rw [Engine.interpret_state_eq, executed, Action.perform, Action.present_state]
            rfl
          exact answered_of_same_state asked (Or.inl rfl) (search_outcome executed) same
      | search asked =>
          have same : (Engine.interpret (engine ids) line store).state = store := by
            rw [Engine.interpret_state_eq, executed, Action.perform, Action.present_state]
            rfl
          exact answered_of_same_state asked (Or.inr rfl) (search_outcome executed) same

end Lines

/-! ## Whole runs -/

theorem contents_stateAfter (ids : Nat → Text) : ∀ (lines : List Text) (store : Store),
    (∀ outcome ∈ Engine.answers (engine ids) lines store, ∃ answer, outcome = .ok answer) ∧
      (Engine.stateAfter (engine ids) lines store).contents =
        recordedAll lines (Engine.answers (engine ids) lines store) store.contents := by
  intro lines
  induction lines with
  | nil =>
      intro store
      exact ⟨by simp [Engine.answers, Engine.interpretAll], rfl⟩
  | cons line rest ih =>
      intro store
      obtain ⟨answer, outcome, isRecorded⟩ := answered_line ids line store
      have answers : Engine.answers (engine ids) (line :: rest) store =
          .ok answer ::
            Engine.answers (engine ids) rest (Engine.interpret (engine ids) line store).state := by
        rw [← outcome]
        rfl
      obtain ⟨restAnswered, restContents⟩ := ih (Engine.interpret (engine ids) line store).state
      rw [answers, Engine.stateAfter_cons]
      constructor
      · intro other member
        rcases List.mem_cons.mp member with rfl | later
        · exact ⟨answer, rfl⟩
        · exact restAnswered other later
      · rw [restContents, isRecorded.contents]
        rfl

end Store

end SearchShell
