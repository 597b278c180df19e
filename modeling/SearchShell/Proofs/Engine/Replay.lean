import SearchShell.Proofs.Command.Typed
import SearchShell.Proofs.Engine.Showable
import SearchShell.Proofs.Engine.StoreRuns
import SearchShell.Proofs.Json.Nested

/-!
# Documents that are written again

A document that was indexed in a store is shown as a text that reads as the same document.  When
that text is indexed at the same address, nothing in the store changes.  Only a document that nests
nearly as deep as can be read at all may not be shown.
-/

set_option autoImplicit false

namespace SearchShell

open Json (Style)

/-! ## Shown documents -/

theorem head?_reverse_enclosed (style : Style) (level : Nat) (opening closing : CodePoint)
    (items : List Text) :
    (style.enclosed level opening closing items).reverse.head? = some closing := by
  unfold Style.enclosed
  split
  · rfl
  · rw [List.head?_reverse, List.getLast?_append]
    rfl

theorem tight_of_write (style : Style) (d : Members) :
    (Json.write style 0 (.object d)).IsTight := by
  refine ⟨?_, ?_⟩
  · intro c isHead
    rw [Json.write, head?_enclosed] at isHead
    cases isHead
    decide
  · intro c isHead
    rw [Json.write, head?_reverse_enclosed] at isHead
    cases isHead
    decide

theorem documentText_tight {room : Nat} {d : Members} {body : Text}
    (shown : documentText room (.object d) = .ok body) : body.IsTight := by
  obtain ⟨-, rfl⟩ := (Json.render_eq_ok_iff _ _ _ _).mp shown
  exact tight_of_write .indented d

/-! ## Documents in a store -/

namespace Store

theorem put_of_get? {address : DocumentAddress} {document : Members} {store : Store}
    (found : store.get? address = some document) : store.put address document = store := by
  cases isGroup : store.groups.get? (address.index, address.type) with
  | none =>
      have nothing : store.groupAt address = .empty := by rw [groupAt, isGroup]; rfl
      rw [get?, nothing] at found
      cases found
  | some group =>
      have here : store.groupAt address = group := by rw [groupAt, isGroup]; rfl
      rw [get?, here] at found
      rw [put, here, Entries.put_of_get? found, withGroup, Entries.put_of_get? isGroup]

section Lines

variable (ids : Nat → Text) {line index type id payload : Text} {d : Members} (store : Store)

/-- A line that indexes under an id writes the document there. -/
theorem interpret_index (named : id ≠ []) (asked : asked? line = some (.index, [index, type, id]))
    (given : payloadOf? line = some payload) (read : readObject payload = .ok d) :
    (Engine.interpret (engine ids) line store).outcome = .ok (.success .text id) ∧
      (Engine.interpret (engine ids) line store).state = store.put ⟨index, type, id⟩ d := by
  have isDocument : readDocument (payloadOf? line) = .ok d := by
    rw [readDocument_eq, given]
    exact read
  have isAction : Action.ofLine line = .ok (.index ⟨index, type, some id⟩ d) := by
    rw [ofLine_eq_ok_iff]
    refine ⟨_, _, asked, ?_⟩
    simp only [Action.ofCommand, isDocument]
    rfl
  have executed : Engine.execute (engine ids) line store =
      Action.perform (engine ids) (.index ⟨index, type, some id⟩ d) store :=
    Engine.execute_of_action isAction
  obtain ⟨c, more, rfl⟩ := List.exists_cons_of_ne_nil named
  refine ⟨Engine.interpret_outcome_of_ok ?_, ?_⟩
  · rw [executed]
    rfl
  · rw [Engine.interpret_state_eq, executed]
    rfl

/-- A line that gets a document shows it and leaves the store as it is. -/
theorem interpret_get (asked : asked? line = some (.get, [index, type, id]))
    (found : store.get? ⟨index, type, id⟩ = some d) :
    (Engine.interpret (engine ids) line store).outcome =
        .ok (.showing .json (documentText documentRoom (.object d))) ∧
      (Engine.interpret (engine ids) line store).state = store := by
  have executed : Engine.execute (engine ids) line store =
      Action.perform (engine ids) (.get ⟨index, type, id⟩) store :=
    Engine.execute_of_action (ofLine_get asked)
  refine ⟨Engine.interpret_outcome_of_written ?_, ?_⟩
  · rw [executed]
    simp [Action.perform, Action.present, engine, found]
  · rw [Engine.interpret_state_eq, executed, Action.perform, Action.present_state]
    rfl

/-- A document that was indexed under an id is at its address, and the line for it shows it. -/
theorem indexed_then_shown (each : ∀ part ∈ [index, type, id], IsPart part)
    (tight : payload.IsTight) (read : readObject payload = .ok d) :
    let indexed :=
      Engine.interpret (engine ids) (payloadLine .index [index, type, id] payload) store
    let shown := Engine.interpret (engine ids) (plainLine .get [index, type, id]) indexed.state
    indexed.outcome = .ok (.success .text id) ∧
      indexed.state.get? ⟨index, type, id⟩ = some d ∧
      shown.outcome = .ok (.showing .json (documentText documentRoom (.object d))) ∧
      shown.state = indexed.state := by
  intro indexed shown
  have named : id ≠ [] := (each id (by simp)).nonempty
  have parts : [index, type, id] ≠ [] := List.cons_ne_nil _ _
  have given := payloadOf?_payloadLine .index parts each (readObject_nonempty read) tight
  obtain ⟨answered, written⟩ :=
    interpret_index ids store named (asked?_payloadLine .index parts each payload) given read
  have found : indexed.state.get? ⟨index, type, id⟩ = some d := by
    rw [show indexed.state = store.put ⟨index, type, id⟩ d from written, get?_put, if_pos rfl]
  obtain ⟨isShown, same⟩ :=
    interpret_get ids indexed.state (asked?_plainLine .get parts each) found
  exact ⟨answered, found, isShown, same⟩

end Lines

open Json (nested)

/-- What a payload is answered that is indexed where there is nothing, and what the line for its
document is answered then. -/
structure Replays (ids : Nat → Text) (parts : List Text) (payload : Text)
    (first second : Envelope) : Prop where
  first : (Engine.interpret (engine ids) (payloadLine .index parts payload) empty).outcome =
    .ok first
  second : (Engine.interpret (engine ids) (plainLine .get parts)
    (Engine.interpret (engine ids) (payloadLine .index parts payload) empty).state).outcome =
      .ok second

section Deep

variable (ids : Nat → Text) {index type id payload : Text}
  (each : ∀ part ∈ [index, type, id], IsPart part) (tight : payload.IsTight)

include each tight

/-- A payload that nests too deep to be read is an error of the engine, and there is nothing to be
shown then. -/
theorem deep_payload_is_refused (nonempty : payload ≠ []) {container : JsonContainer}
    (unread : readObject payload = .error (.json (.tooDeep container))) :
    Replays ids [index, type, id] payload (engineFailure (JsonFault.tooDeep container).message)
      (.refused .notFound) := by
  have parts : [index, type, id] ≠ [] := List.cons_ne_nil _ _
  have given := payloadOf?_payloadLine .index parts each nonempty tight
  have failed : Action.ofLine (payloadLine .index [index, type, id] payload) =
      .error (.json (.tooDeep container)) := by
    rw [ofLine_index (asked?_payloadLine .index parts each payload) (Or.inr rfl), readDocument_eq,
      given, show demandedDocument (some payload) = _ from unread]
    rfl
  have executed : Engine.execute (engine ids) (payloadLine .index [index, type, id] payload) empty =
      ⟨.error (.fault (.json (.tooDeep container))), [], empty⟩ := Engine.execute_of_fault failed
  refine ⟨Engine.interpret_outcome_of_fault (by rw [executed]) rfl, ?_⟩
  apply Engine.interpret_outcome_of_refused
  rw [Engine.interpret_state_eq, executed,
    Engine.execute_of_action (ofLine_get (asked?_plainLine .get parts each))]
  rfl

/-- A document that can be read but not written is indexed and not shown. -/
theorem unwritable_document_is_not_shown {d : Members} (read : readObject payload = .ok d)
    (unwritable : ¬(Json.object d).IsWritable .indented documentRoom) :
    ∃ message, Replays ids [index, type, id] payload (.success .text id)
      (engineFailure message) := by
  obtain ⟨answered, -, isShown, -⟩ := indexed_then_shown ids empty each tight read
  cases written : documentText documentRoom (.object d) with
  | error fault => exact ⟨fault.message, answered, by rw [isShown, written]; rfl⟩
  | ok body => exact absurd ((Json.exists_render_iff _ _ _).mp ⟨body, written⟩) unwritable

end Deep

end Store

end SearchShell
