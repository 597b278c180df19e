import SearchShell.Proofs.Engine.Reports
import SearchShell.Proofs.Json.Strict

/-!
# Shown documents

A document that is found is shown as the source that the response holds, in the same words.  That is
JSON unless a number in it is too large for a double: such a number is read as infinite.
-/

set_option autoImplicit false

namespace SearchShell

open Http (Received)
open JsonGrammar (IsJsonText)

theorem Fault.report_isError {fault : Fault} {report : FaultReport}
    (reported : fault.report = .ok report) : report.envelope.isSuccess = false := by
  cases fault with
  | rejected received =>
      rw [Fault.report, Outcome.map_eq_ok_iff] at reported
      obtain ⟨summary, -, rfl⟩ := reported
      rfl
  | _ =>
      cases reported
      rfl

theorem Engine.execute_of_success {σ : Type} {engine : Engine σ} {line : Text} {state : σ}
    {form : ContentType} {body : Text}
    (answered : (interpret engine line state).outcome = .ok (.success form body)) :
    (execute engine line state).outcome = .ok (.success form body) := by
  rw [interpret_outcome_eq] at answered
  cases done : (execute engine line state).outcome with
  | ok envelope =>
      rw [done] at answered
      exact answered
  | error abort =>
      rw [done] at answered
      cases abort with
      | interruption interruption => cases answered
      | fault fault =>
          -- What is reported of a fault is an error, so it is not this success.
          simp only [Fault.answer] at answered
          cases reported : fault.report with
          | error unreadable =>
              rw [reported] at answered
              cases answered
          | ok report =>
              rw [reported] at answered
              have failure := Fault.report_isError reported
              rw [Except.ok.inj answered] at failure
              cases failure

namespace Connection

theorem exchange_eq_ok {α : Type} {method : Http.Method} {segments : List Text}
    {sent : Option Json} {read : Received → Except Fault α} {connection : Connection} {result : α}
    (done : (exchange method segments sent read connection).outcome = .ok result) :
    ∃ url response received, connection.script.head? = some (.response response) ∧
      receive url (.response response) = .ok received ∧ read received = .ok result := by
  cases prepared : connection.prepare segments sent with
  | error fault =>
      simp only [exchange, prepared] at done
      cases done
  | ok ready =>
      obtain ⟨url, written⟩ := ready
      simp only [exchange, prepared, send] at done
      cases came : receive url (connection.script.head?.getD .exhausted) with
      | error abort =>
          rw [came] at done
          cases done
      | ok received =>
          rw [came] at done
          have reads := (Outcome.mapError_eq_ok_iff _ _ _).mp done
          cases replied : connection.script.head? with
          | none =>
              rw [replied] at came
              cases came
          | some reply =>
              rw [replied] at came
              cases reply with
              | response response => exact ⟨url, response, received, rfl, came, reads⟩
              | failure failure => cases came
              | interruption interruption => cases came

theorem readFound_document {received : Received} {document : Json}
    (read : readFound none Json.foundSource received = .ok (some document)) :
    ∃ members, received.json = .ok (.object members) ∧ document = Hits.sourceOf members := by
  obtain ⟨gone, -, there⟩ := (Outcome.bind_eq_ok_iff _ _ _).mp read
  cases gone with
  | true => cases there
  | false =>
      obtain ⟨passed, -, answered⟩ := (Outcome.bind_eq_ok_iff _ _ _).mp there
      obtain ⟨answer, isJson, found⟩ := (Outcome.bind_eq_ok_iff _ _ _).mp answered
      cases answer with
      | object members =>
          rw [Action.foundSource_object] at found
          split at found
          · cases found
            exact ⟨members, isJson, rfl⟩
          · cases found
      | _ => cases found

section Lines

variable {line : Text} {parts : List Text} {connection : Connection} {form : ContentType}
  {body : Text}

theorem exists_document (asked : asked? line = some (.get, parts))
    (answered : (Engine.interpret engine line connection).outcome = .ok (.success form body)) :
    ∃ address document, (engine.get address connection).outcome = .ok (some document) ∧
      form = .json ∧ documentText documentRoom document = .ok body := by
  have executed := Engine.execute_of_success answered
  cases decided : Action.ofLine line with
  | error fault =>
      rw [Engine.execute_of_fault decided] at executed
      cases executed
  | ok action =>
      rw [Engine.execute_of_action decided] at executed
      obtain ⟨others, same⟩ := Action.asked?_of_ofLine decided
      rw [asked] at same
      cases action with
      | get address =>
          rw [Action.perform, Action.present_outcome, Outcome.bind_eq_ok_iff] at executed
          obtain ⟨found, isFound, shown⟩ := executed
          cases found with
          | none => cases shown
          | some document =>
              rw [Outcome.mapError_eq_ok_iff, Action.written_eq_ok_iff] at shown
              obtain ⟨s, written, same⟩ := shown
              cases same
              exact ⟨address, document, isFound, rfl, written⟩
      | count | search | index | delete => cases same

/-- Over any connection: the success of a line for a document shows, as JSON, the source in the
object of the response, and the text is JSON in the strict sense exactly when all numbers in that
source were read as finite ones. -/
theorem shown_document_is_json_iff (asked : asked? line = some (.get, parts))
    (answered : (Engine.interpret engine line connection).outcome = .ok (.success form body)) :
    ∃ url response received members, connection.script.head? = some (.response response) ∧
      receive url (.response response) = .ok received ∧
      received.json = .ok (.object members) ∧ form = .json ∧
      documentText documentRoom (Hits.sourceOf members) = .ok body ∧
      (IsJsonText body ↔ (Hits.sourceOf members).isFinite = true) := by
  obtain ⟨address, document, found, isJson, shown⟩ := exists_document asked answered
  obtain ⟨url, response, received, replied, came, read⟩ := exchange_eq_ok found
  obtain ⟨members, isObject, rfl⟩ := readFound_document read
  refine ⟨url, response, received, members, replied, came, isObject, isJson, shown, ?_⟩
  obtain ⟨-, rfl⟩ := (Json.render_eq_ok_iff _ _ _ _).mp shown
  exact Json.isJsonText_write_iff JsonReader.isJsonStyle_indented 0 _

def documentResponse (source : String) : Http.Response :=
  ⟨200, [], Utf8.spell (text "\x7b\"found\":true,\"_source\":" ++ text source ++ text "\x7d")⟩

def namedInfinity : Http.Response := documentResponse "\x7b\"n\":[1.5,\"Infinity\"]\x7d"

theorem named_infinity_is_shown :
    let connection := answeredBy namedInfinity
    let body := text "\x7b\n  \"n\": [\n    1.5,\n    \"Infinity\"\n  ]\n\x7d"
    asked? (text "get /logs/event/1") = some (.get, [text "logs", text "event", text "1"]) ∧
      (Engine.interpret engine (text "get /logs/event/1") connection).outcome =
        .ok (.success .json body) ∧ IsJsonText body := by
  intro connection body
  have asked : asked? (text "get /logs/event/1") =
      some (.get, [text "logs", text "event", text "1"]) := by decide +kernel
  have answered : (Engine.interpret engine (text "get /logs/event/1") connection).outcome =
      .ok (.success .json body) := by decide +kernel
  obtain ⟨url, response, received, members, replied, came, isObject, -, -, isJson_iff⟩ :=
    shown_document_is_json_iff asked answered
  cases replied
  cases came
  have finite : ((Received.json ⟨[], namedInfinity⟩ >>= Json.members).map fun members =>
      (Hits.sourceOf members).isFinite).toOption = some true := by decide +kernel
  have read : Received.json ⟨[], namedInfinity⟩ = .ok (.object members) := isObject
  rw [read] at finite
  exact ⟨asked, answered, isJson_iff.mpr (Option.some.inj finite)⟩

/-- A number beyond the range of doubles is shown by a word that is no JSON. -/
theorem large_number_is_shown_as_word :
    let connection := answeredBy (documentResponse "\x7b\"n\":1e400\x7d")
    let body := text "\x7b\n  \"n\": Infinity\n\x7d"
    (Engine.interpret engine (text "get /logs/event/1") connection).outcome =
      .ok (.success .json body) ∧ ¬IsJsonText body := by
  refine ⟨by decide +kernel, ?_⟩
  intro isText
  exact isText.isStrict.plain (CodePoint.ofChar 'I') (by decide) (by decide)

end Lines

end Connection

end SearchShell
