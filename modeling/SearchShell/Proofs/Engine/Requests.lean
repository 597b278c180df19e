import SearchShell.Engine.Connection
import SearchShell.Proofs.Command.Actions
import SearchShell.Proofs.Http.Below

/-!
# Requests

Each action is one request, which is sent when the connection is open and the request can
be written; nothing else is ever sent for a line.
-/

set_option autoImplicit false

namespace SearchShell

namespace Action

def method : Action → Http.Method
  | get _ => .get
  | count _ _ | search _ _ => .post
  | index target _ => if target.id.isSome then .put else .post
  | delete _ => .delete

def segments : Action → List Text
  | get address | delete address => [address.index, address.type, address.id]
  | count scope _ | search scope _ => Connection.searchSegments scope
  | index target _ => [target.index, target.type] ++ target.id.toList

def body : Action → Option Json
  | get _ | delete _ => none
  | count _ body | search _ body => some (.object body)
  | index _ document => some (.object document)

end Action

namespace Connection

/-! ## Exchanges -/

theorem prepare_eq_ok_iff (segments : List Text) (body : Option Json) (connection : Connection)
    (url : Url) (written : Text) :
    connection.prepare segments body = .ok (url, written) ↔
      connection.isOpen = true ∧ bodyText body = .ok written ∧
        ∃ reference, Path.ofSegments segments = .ok reference ∧
          urlOf connection.settings reference = .ok url := by
  simp only [prepare, requireOpen, Outcome.bind_eq_ok_iff, Outcome.mapError_eq_ok_iff,
    Except.ok.injEq, Prod.mk.injEq]
  constructor
  · rintro ⟨_, checked, reference, path, other, address, text, bodyOk, rfl, rfl⟩
    by_cases opened : connection.isOpen = true
    · exact ⟨opened, bodyOk, reference, path, address⟩
    · simp [opened] at checked
  · rintro ⟨opened, bodyOk, reference, path, address⟩
    exact ⟨(), by simp [opened], reference, path, url, address, written, bodyOk, rfl, rfl⟩

theorem exchange_state {α : Type} (method : Http.Method) (segments : List Text)
    (body : Option Json) (read : Http.Received → Except Fault α) (connection : Connection) :
    (exchange method segments body read connection).state =
      match connection.prepare segments body with
      | .error _ => connection
      | .ok (url, written) => (send method url written connection).state := by
  cases prepared : connection.prepare segments body with
  | error fault => simp only [exchange, prepared]
  | ok ready =>
      simp only [exchange, prepared]
      split
      · rfl
      · rfl

/-- The connection after an action: the action's request was sent if it could be prepared. -/
theorem perform_state (action : Action) (connection : Connection) :
    (action.perform engine connection).state =
      match connection.prepare action.segments action.body with
      | .error _ => connection
      | .ok (url, written) => (send action.method url written connection).state := by
  cases action with
  | get address => simp only [Action.perform, Action.present_state, engine, exchange_state]; rfl
  | count scope body =>
      simp only [Action.perform, Action.present_state, engine, search, exchange_state]
      rfl
  | search scope body =>
      simp only [Action.perform, Action.present_state, engine, search, exchange_state]
      rfl
  | index target document =>
      obtain ⟨index, type, id⟩ := target
      cases id with
      | none =>
          simp only [Action.perform, Action.present_state, engine, Connection.index,
            exchange_state]
          rfl
      | some id =>
          simp only [Action.perform, Action.present_state, engine, Connection.index,
            exchange_state]
          rfl
  | delete address => simp only [Action.perform, Action.present_state, engine, exchange_state]; rfl

/-! ## Requests of a line -/

def sentBy (line : Text) (connection : Connection) : List Http.Request :=
  (Engine.interpret engine line connection).state.sent.drop connection.sent.length

theorem mem_sentBy_iff (line : Text) (connection : Connection) (request : Http.Request) :
    request ∈ sentBy line connection ↔
      ∃ action url written, Action.ofLine line = .ok action ∧
        connection.prepare action.segments action.body = .ok (url, written) ∧
        request = ⟨action.method, url.write, written, connection.settings.timeout⟩ := by
  rw [sentBy, Engine.interpret_state_eq, Engine.execute_state]
  cases Action.ofLine line with
  | error fault => simp
  | ok action =>
      simp only [perform_state, Except.ok.injEq, exists_and_left, exists_eq_left']
      cases connection.prepare action.segments action.body with
      | error fault => simp
      | ok prepared =>
          obtain ⟨url, written⟩ := prepared
          simp [send]

/-- For the line of an action, its request is sent once, unless it cannot be prepared. -/
theorem sentBy_of_action {line : Text} {action : Action} (acts : Action.ofLine line = .ok action)
    (connection : Connection) :
    sentBy line connection = match connection.prepare action.segments action.body with
      | .error _ => []
      | .ok (url, written) =>
          [⟨action.method, url.write, written, connection.settings.timeout⟩] := by
  rw [sentBy, Engine.interpret_state_eq, Engine.execute_of_action acts, perform_state]
  cases connection.prepare action.segments action.body with
  | error fault => simp
  | ok prepared => simp [send]

end Connection

end SearchShell
