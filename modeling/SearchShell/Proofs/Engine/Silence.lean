import SearchShell.Proofs.Command.Counting
import SearchShell.Proofs.Engine.Permissions

/-!
# Closed connections

A connection is closed by closing it, and by the end of any block that it was opened for.  From then
on nothing is sent, whatever is tried, until it is opened again.  Lines that need the engine are
told that there is no connection, and all other lines are answered as ever.
-/

set_option autoImplicit false

namespace SearchShell

namespace Connection

def notOpenFault : Fault := .refused (.connection .notOpen)

section Closed

variable {connection : Connection} (closed : connection.isOpen = false)

include closed

theorem requireOpen_of_closed : connection.requireOpen = .error notOpenFault := by
  rw [requireOpen, closed]
  rfl

/-- That the connection is not open counts before anything that may be wrong with the request. -/
theorem prepare_of_closed (segments : List Text) (body : Option Json) :
    connection.prepare segments body = .error notOpenFault := by
  rw [prepare, requireOpen_of_closed closed]
  rfl

theorem exchange_of_closed {α : Type} (method : Http.Method) (segments : List Text)
    (body : Option Json) (read : Http.Received → Except Fault α) :
    exchange method segments body read connection =
      ⟨.error (.fault notOpenFault), connection⟩ := by
  rw [exchange, prepare_of_closed closed]

theorem perform_of_closed (action : Action) :
    action.perform engine connection = ⟨.error (.fault notOpenFault), [], connection⟩ := by
  cases action with
  | get | count | search | delete =>
      simp only [Action.perform, Action.present, engine, Connection.search,
        exchange_of_closed closed]
  | index target document =>
      obtain ⟨index, type, id⟩ := target
      cases id with
      | none | some id =>
          simp only [Action.perform, Action.present, engine, Connection.index,
            exchange_of_closed closed]

theorem interpret_state_of_closed (line : Text) :
    (Engine.interpret engine line connection).state = connection := by
  rw [Engine.interpret_state_eq, Engine.execute_state]
  split
  next action _ => rw [perform_of_closed closed]
  next => rfl

/-! ## Steps -/

theorem close_of_closed : connection.close = connection := by
  rw [close, ← closed]

/-- What does not open a closed connection changes nothing about it. -/
theorem Step.run_state_of_closed {step : Step} (noOpening : step.isOpening = false) :
    (step.run connection).state = connection := by
  cases step with
  | connect | within => cases noOpening
  | close => exact close_of_closed closed
  | check => rfl
  | interpret line => exact interpret_state_of_closed closed line
  | handle verb command =>
      simp only [run]
      split
      · rfl
      next action _ => rw [perform_of_closed closed]; rfl
  | get | search | delete =>
      simp only [run, unlogged, engine, Connection.search, exchange_of_closed closed]
  | index target document =>
      obtain ⟨index, type, id⟩ := target
      cases id with
      | none | some id =>
          simp only [run, unlogged, Connection.index, exchange_of_closed closed]

theorem Step.close_run_of_closed :
    (Step.close.run connection).log = [] ∧ (Step.close.run connection).state = connection := by
  refine ⟨?_, run_state_of_closed closed rfl⟩
  simp [run, closeAfter, closingLog, closed]

end Closed

/-! ## Runs -/

theorem closed_run : ∀ {steps : List (Step × List Http.Reply)} {connection : Connection},
    (∀ step ∈ steps, step.1.isOpening = false) → connection.isOpen = false →
      (afterSteps steps connection).isOpen = false ∧ sentDuring steps connection = [] := by
  intro steps
  induction steps with
  | nil => exact fun _ closed => ⟨closed, rfl⟩
  | cons first rest ih =>
      obtain ⟨step, script⟩ := first
      intro connection noOpening closed
      have waits : (connection.withScript script).isOpen = false := closed
      have stepped := Step.run_state_of_closed waits (noOpening (step, script) List.mem_cons_self)
      have later := ih (fun next inRest => noOpening next (List.mem_cons_of_mem _ inRest)) waits
      refine ⟨?_, ?_⟩
      · rw [afterSteps_cons, stepped]
        exact later.1
      · have sent : sentDuring ((step, script) :: rest) connection =
            (step.run (connection.withScript script)).state.sent ++
              sentDuring rest (step.run (connection.withScript script)).state := rfl
        rw [sent, stepped, later.2]
        rfl

/-- The step closes the connection: it is a closing, or a block whose opening succeeded. -/
def Step.IsClosing (step : Step) (connection : Connection) : Prop :=
  step = .close ∨ ∃ line, step = .within line ∧ connection.connect.outcome = .ok ()

theorem Step.IsClosing.run_isOpen {step : Step} {connection : Connection}
    (closing : step.IsClosing connection) : (step.run connection).state.isOpen = false := by
  rcases closing with rfl | ⟨line, rfl, opened⟩
  · rfl
  · rw [← Bool.not_eq_true, (within_run line connection).2]
    exact fun ⟨_, failed⟩ => failed opened

/-! ## Lines -/

/-- A line over a closed connection is told so if it calls the engine; if it does not, the answer
is the same over every connection. -/
theorem interpret_of_closed {connection : Connection} (closed : connection.isOpen = false)
    (line : Text) (calls : List EngineCall) :
    let asked := (Engine.interpret engine.observed line (connection, calls)).state.2
    (asked ≠ calls → (Engine.interpret engine line connection).outcome =
        .ok (.error (text "EngineError") (text "Elasticsearch connection is not open"))) ∧
      (asked = calls → ∃ envelope, ∀ other : Connection,
        (Engine.interpret engine line other).outcome = .ok envelope) := by
  intro asked
  -- The line alone decides whether the engine is called, before the connection is looked at.
  have made := interpret_makes_demanded_call engine line connection calls
  cases decided : Action.ofLine line with
  | error fault =>
      have none : demandOf line = .error fault := by rw [← ofLine_eq_demand, decided]; rfl
      rw [none] at made
      refine ⟨fun some => absurd (congrArg Prod.snd made.1) some, fun _ => ?_⟩
      obtain ⟨kind, message, record, reported⟩ := report_of_demandOf_error none
      exact ⟨.error kind message, fun other =>
        Engine.interpret_outcome_of_fault (by rw [Engine.execute_of_fault decided]) reported⟩
  | ok action =>
      have one : demandOf line = .ok action.call := by rw [← ofLine_eq_demand, decided]; rfl
      rw [one] at made
      have noted : asked = calls ++ [action.call] := congrArg Prod.snd made
      refine ⟨fun _ => ?_, fun same => ?_⟩
      · have refused : (Engine.execute engine line connection).outcome =
            .error (.fault (.refused (.connection .notOpen))) := by
          rw [Engine.execute_of_action decided, perform_of_closed closed]
          rfl
        exact Engine.interpret_outcome_of_refused refused
      · rw [noted] at same
        simp at same

/-- After any steps with a connection, then a closing or a block that it was opened for, however the
block ended, and then any steps that do not open it again: the connection is closed, and these last
steps sent nothing.  A line that calls the engine is answered that there is no connection, and every
other line as it is over any connection.  Closing once more changes and logs nothing.  Whether a
connection is open never depends on what is done over it. -/
theorem closed_is_silent (connection : Connection) (earlier later : List (Step × List Http.Reply))
    {step : Step} {script : List Http.Reply}
    (closing : step.IsClosing ((afterSteps earlier connection).withScript script))
    (noOpening : ∀ next ∈ later, next.1.isOpening = false) :
    let closed := afterSteps (earlier ++ [(step, script)]) connection
    let final := afterSteps (earlier ++ (step, script) :: later) connection
    closed.isOpen = false ∧ sentDuring later closed = [] ∧ final.isOpen = false ∧
      (∀ line replies,
        let waiting := final.withScript replies
        let asked := (Engine.interpret engine.observed line (waiting, [])).state.2
        (asked ≠ [] → (Engine.interpret engine line waiting).outcome =
          .ok (.error (text "EngineError") (text "Elasticsearch connection is not open"))) ∧
        (asked = [] → ∃ envelope, (Engine.interpret engine line waiting).outcome = .ok envelope ∧
          ∀ other : Connection, (Engine.interpret engine line other).outcome = .ok envelope)) ∧
      (∀ replies, (Step.close.run (final.withScript replies)).log = [] ∧
        (Step.close.run (final.withScript replies)).state = final.withScript replies) ∧
      ∀ (next : Step) (other : Connection), next.isNeutral = true →
        (next.run other).state.isOpen = other.isOpen := by
  intro closed final
  have isClosed : closed.isOpen = false := by
    simp only [closed, afterSteps_append_singleton]
    exact closing.run_isOpen
  have isFinal : final = afterSteps later closed := by
    simp only [final, closed, ← afterSteps_append, List.append_assoc, List.singleton_append]
  obtain ⟨stays, silent⟩ := closed_run noOpening isClosed
  rw [← isFinal] at stays
  refine ⟨isClosed, silent, stays, ?_, ?_, ?_⟩
  · intro line replies waiting asked
    have waits : waiting.isOpen = false := stays
    obtain ⟨called, idle⟩ := interpret_of_closed waits line []
    refine ⟨called, fun none => ?_⟩
    obtain ⟨envelope, answered⟩ := idle none
    exact ⟨envelope, answered waiting, answered⟩
  · intro replies
    have waits : (final.withScript replies).isOpen = false := stays
    exact Step.close_run_of_closed waits
  · exact fun next other neutral => (Step.run_keeps neutral other).isOpen

def rootResponse : Http.Response :=
  ⟨200, [], Utf8.spell (text "\x7b\"cluster_name\":\"elasticsearch\"\x7d")⟩

/-- A block whose command is stopped from the keyboard is over like any other. -/
theorem interrupted_block_is_closed :
    let block : Step := .within (some (text "delete /logs/event/1"))
    let script : List Http.Reply := [.response rootResponse, .interruption ⟨.keyboard, []⟩]
    let later : List (Step × List Http.Reply) :=
      [(.interpret (text "delete /logs/event/2"), []), (.close, []), (.check, [])]
    let fresh := unopened atLocalhost.settings
    block.IsClosing ((afterSteps [] fresh).withScript script) ∧
      (∀ next ∈ later, next.1.isOpening = false) ∧
      (afterSteps [(block, script)] fresh).sent.length = 2 ∧
      sentDuring later (afterSteps [(block, script)] fresh) = [] := by
  intro block script later fresh
  have opened : (fresh.withScript script).connect.outcome = .ok () := by decide +kernel
  have closing : block.IsClosing ((afterSteps [] fresh).withScript script) :=
    Or.inr ⟨_, rfl, opened⟩
  have noOpening : ∀ next ∈ later, next.1.isOpening = false := by decide
  exact ⟨closing, noOpening, by decide +kernel,
    (closed_is_silent fresh [] later closing noOpening).2.1⟩

end Connection

end SearchShell
