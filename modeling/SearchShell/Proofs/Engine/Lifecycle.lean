import Mathlib.Data.List.Induction
import SearchShell.Engine.Connection
import SearchShell.Proofs.Engine.Requests

/-!
# Opening and closing

A connection that has been opened is open because the server gave the configured name, or
because the opening came to an end that it does not provide for: an interruption, or a
fault that lies neither in the exchange nor in a value.  Everything else closes it or
leaves it as it was.
-/

set_option autoImplicit false

namespace SearchShell

namespace Connection

/-! ## Openings -/

def rootAnswer (settings : Settings) (script : List Http.Reply) : Except Abort Http.Received :=
  (askRoot ⟨settings, true, script, []⟩).outcome

/-- The answer is a success and an object with the configured name. -/
structure Confirms (settings : Settings) (received : Http.Received) : Prop where
  success : received.response.isSuccess = true
  named : ∃ members, received.json = .ok (.object members) ∧
    Members.getOrNull (text "cluster_name") members = .string settings.clusterName

def Verified (settings : Settings) (script : List Http.Reply) : Prop :=
  ∃ received, rootAnswer settings script = .ok received ∧ Confirms settings received

def rootJudgement (settings : Settings) (script : List Http.Reply) : Except Abort Text :=
  match rootAnswer settings script with
  | .error abort => .error abort
  | .ok received => (judgeRoot settings received).mapError .fault

def isRefusal : Fault → Bool
  | .refused _ => true
  | _ => false

/-- An end that an opening provides for: it is turned into a refusal. -/
def isForeseen : Abort → Bool
  | .interruption _ => false
  | .fault fault => isRefusal fault || fault.isExchange || fault.isValue

def Addressed (settings : Settings) : Prop := ∃ url, base settings = .ok url

def Unforeseen (settings : Settings) (script : List Http.Reply) : Prop :=
  Addressed settings ∧
    ∃ abort, rootJudgement settings script = .error abort ∧ isForeseen abort = false

theorem Verified.addressed {settings : Settings} {script : List Http.Reply}
    (verified : Verified settings script) : Addressed settings := by
  obtain ⟨received, answer, -⟩ := verified
  unfold rootAnswer askRoot urlOf at answer
  cases found : base settings with
  | error fault =>
      simp only [found] at answer
      cases answer
  | ok url => exact ⟨url, found⟩

theorem judgeRoot_eq_ok_iff (settings : Settings) (received : Http.Received) (name : Text) :
    judgeRoot settings received = .ok name ↔
      Confirms settings received ∧ name = settings.clusterName := by
  unfold judgeRoot
  rw [Outcome.bind_eq_ok_iff]
  simp only [readAnswer, Http.Received.requireSuccess, Outcome.bind_eq_ok_iff]
  constructor
  · rintro ⟨answer, ⟨_, checked, other, json, same⟩, judged⟩
    cases same
    have success : received.response.isSuccess = true := by
      by_contra failed
      simp [failed] at checked
    split at judged
    next members =>
      split at judged
      next found given =>
        split at judged
        next same =>
          cases judged
          exact ⟨⟨success, members, json, by rw [given, same]⟩, same⟩
        next => cases judged
      next => cases judged
    next => cases judged
  · rintro ⟨⟨success, members, json, named⟩, rfl⟩
    refine ⟨.object members, ⟨(), by simp [success], .object members, json, rfl⟩, ?_⟩
    simp [named]

theorem rootJudgement_eq_ok_iff (settings : Settings) (script : List Http.Reply) :
    (∃ name, rootJudgement settings script = .ok name) ↔ Verified settings script := by
  unfold rootJudgement Verified
  cases rootAnswer settings script with
  | error abort => simp
  | ok received =>
      simp only [Outcome.mapError_eq_ok_iff, judgeRoot_eq_ok_iff, Except.ok.injEq,
        exists_eq_left']
      exact ⟨fun ⟨_, confirms, _⟩ => confirms, fun confirms => ⟨_, confirms, rfl⟩⟩

/-- The refusal that an end of an opening is turned into, or the end itself. -/
def openingAbort (url : Text) : Abort → Abort
  | .interruption interruption => .interruption interruption
  | .fault fault => .fault (openingFault url fault)

theorem rootOutcome_eq (settings : Settings) (script : List Http.Reply) :
    rootOutcome settings (rootAnswer settings script) =
      (rootJudgement settings script).mapError (openingAbort settings.serverAddress) := by
  unfold rootJudgement
  cases rootAnswer settings script with
  | error abort =>
      cases abort with
      | interruption interruption => rfl
      | fault fault => rfl
  | ok received =>
      cases judged : judgeRoot settings received with
      | error fault => simp [rootOutcome, judged, Except.mapError, openingAbort]
      | ok name => simp [rootOutcome, judged, Except.mapError]

theorem isRefusal_iff (fault : Fault) :
    isRefusal fault = true ↔ ∃ refusal, fault = .refused refusal := by
  cases fault with
  | refused refusal => simp [isRefusal]
  | _ => simp [isRefusal]

theorem openingAbort_refused_iff (url : Text) (abort : Abort) :
    (∃ refusal, openingAbort url abort = .fault (.refused refusal)) ↔
      isForeseen abort = true := by
  cases abort with
  | interruption interruption => simp [openingAbort, isForeseen]
  | fault fault =>
      simp only [openingAbort, openingFault, isForeseen, Bool.or_eq_true, Abort.fault.injEq]
      by_cases exchange : fault.isExchange = true
      · simp [exchange]
      · by_cases value : fault.isValue = true
        · simp [exchange, value]
        · simp [exchange, value, isRefusal_iff]

/-! ## Opening -/

theorem askRoot_isOpen (connection : Connection) :
    (askRoot connection).state.isOpen = connection.isOpen := by
  unfold askRoot
  split
  · rfl
  · split
    · rfl
    · rfl

theorem askRoot_settings (connection : Connection) :
    (askRoot connection).state.settings = connection.settings := by
  unfold askRoot
  split
  · rfl
  · split
    · rfl
    · rfl

theorem rootAnswer_eq (connection : Connection) :
    (askRoot { connection with isOpen := true }).outcome =
      rootAnswer connection.settings connection.script := by
  unfold rootAnswer askRoot
  simp only
  split
  · rfl
  · split
    · rfl
    · rfl

/-- What an opening gives and whether the connection is open after it, where the settings give
an address: refusals close it, and every other end leaves it open. -/
theorem connect_eq (connection : Connection) (addressed : Addressed connection.settings) :
    connection.connect.outcome =
        ((rootJudgement connection.settings connection.script).mapError
          (openingAbort connection.settings.serverAddress)).map (fun _ => ()) ∧
      (connection.connect.state.isOpen = true ↔
        Verified connection.settings connection.script ∨
          Unforeseen connection.settings connection.script) := by
  have opened := askRoot_isOpen { connection with isOpen := true }
  rw [← rootJudgement_eq_ok_iff, Unforeseen, and_iff_right addressed]
  obtain ⟨url, isBase⟩ := addressed
  unfold connect
  simp only [isBase, rootAnswer_eq, rootOutcome_eq]
  cases rootJudgement connection.settings connection.script with
  | ok name => simp [Except.mapError, Except.map, opened]
  | error abort =>
      have refused_iff := openingAbort_refused_iff connection.settings.serverAddress abort
      simp only [Except.mapError, Except.error.injEq, exists_eq_left', reduceCtorEq,
        exists_false, false_or]
      split
      next same => cases same
      next refusal same =>
        have foreseen := refused_iff.mp ⟨refusal, Except.error.inj same⟩
        simp [foreseen, Except.error.inj same, close, Except.map]
      next found notRefused same =>
        have ended := Except.error.inj same
        have unforeseen : isForeseen abort = false := by
          rw [← Bool.not_eq_true, ← refused_iff]
          rintro ⟨refusal, refused⟩
          exact notRefused refusal (ended.symm.trans refused)
        simp [unforeseen, ended, opened, Except.map]

theorem connect_of_not_addressed (connection : Connection)
    (unaddressed : ¬Addressed connection.settings) : connection.connect.state = connection := by
  unfold connect
  cases found : base connection.settings with
  | error fault => rfl
  | ok url => exact absurd ⟨url, found⟩ unaddressed

/-- An opening is over without an error exactly when it verified the server. -/
theorem connect_outcome_iff (connection : Connection) :
    connection.connect.outcome = .ok () ↔
      Verified connection.settings connection.script := by
  by_cases addressed : Addressed connection.settings
  · rw [(connect_eq connection addressed).1, ← rootJudgement_eq_ok_iff]
    cases rootJudgement connection.settings connection.script with
    | ok name => simp [Except.mapError, Except.map]
    | error abort => simp [Except.mapError, Except.map]
  · have unverified : ¬Verified connection.settings connection.script :=
      fun verified => addressed verified.addressed
    unfold connect
    cases found : base connection.settings with
    | error fault => simp [unverified]
    | ok url => exact absurd ⟨url, found⟩ addressed

theorem connect_settings (connection : Connection) :
    connection.connect.state.settings = connection.settings := by
  have kept := askRoot_settings { connection with isOpen := true }
  unfold connect
  split
  · rfl
  · simp only
    split
    · exact kept
    · exact kept
    · exact kept

/-! ## Steps -/

structure Keeps (before after : Connection) : Prop where
  isOpen : after.isOpen = before.isOpen
  settings : after.settings = before.settings

theorem exchange_keeps {α : Type} (method : Http.Method) (segments : List Text)
    (body : Option Json) (read : Http.Received → Except Fault α) (connection : Connection) :
    Keeps connection (exchange method segments body read connection).state := by
  rw [exchange_state]
  split
  · exact ⟨rfl, rfl⟩
  · exact ⟨rfl, rfl⟩

theorem perform_keeps (action : Action) (connection : Connection) :
    Keeps connection (action.perform engine connection).state := by
  rw [perform_state]
  split
  · exact ⟨rfl, rfl⟩
  · exact ⟨rfl, rfl⟩

theorem interpret_keeps (line : Text) (connection : Connection) :
    Keeps connection (Engine.interpret engine line connection).state := by
  rw [Engine.interpret_state_eq, Engine.execute_state]
  split
  next action _ => exact perform_keeps action connection
  next => exact ⟨rfl, rfl⟩

namespace Step

/-- The step opens the connection, if only for a line. -/
def isOpening : Step → Bool
  | connect | within _ => true
  | _ => false

def isNeutral : Step → Bool
  | connect | within _ | close => false
  | _ => true

theorem run_keeps {step : Step} (neutral : step.isNeutral = true) (connection : Connection) :
    Keeps connection (step.run connection).state := by
  cases step with
  | connect => cases neutral
  | close => cases neutral
  | within line => cases neutral
  | check => exact ⟨rfl, rfl⟩
  | interpret line => exact interpret_keeps line connection
  | handle verb command =>
      simp only [run]
      split
      · exact ⟨rfl, rfl⟩
      next action _ => exact perform_keeps action connection
  | get address => exact exchange_keeps _ _ _ _ connection
  | search scope body => exact exchange_keeps _ _ _ _ connection
  | index target document =>
      obtain ⟨index, type, id⟩ := target
      cases id with
      | none => exact exchange_keeps _ _ _ _ connection
      | some id => exact exchange_keeps _ _ _ _ connection
  | delete address => exact exchange_keeps _ _ _ _ connection

/-- Only an opening with an unforeseen end escapes the closing at the end of a block. -/
theorem within_run (line : Option Text) (connection : Connection) :
    (run (.within line) connection).state.settings = connection.settings ∧
      ((run (.within line) connection).state.isOpen = true ↔
        connection.connect.state.isOpen = true ∧ connection.connect.outcome ≠ .ok ()) := by
  have settings := connect_settings connection
  simp only [run]
  split
  next abort ended => simp [ended, settings]
  next opened =>
    cases line with
    | none => simp [opened, closeAfter, Connection.close, settings]
    | some line =>
        have kept := interpret_keeps line connection.connect.state
        have same : (interpretLine line connection.connect.state).state.settings =
            connection.settings := kept.settings.trans settings
        simp [opened, closeAfter, Connection.close, same]

theorem run_settings (step : Step) (connection : Connection) :
    (step.run connection).state.settings = connection.settings := by
  cases step with
  | connect => exact connect_settings connection
  | close => rfl
  | within line => exact (within_run line connection).1
  | check | interpret | handle | get | search | index | delete =>
      exact (run_keeps rfl connection).settings

def LeavesOpen (step : Step) (settings : Settings) (script : List Http.Reply)
    (wasOpen : Prop) : Prop :=
  match step with
  | connect => Verified settings script ∨ Unforeseen settings script
  | within _ => Unforeseen settings script
  | close => False
  | _ => wasOpen

theorem run_isOpen_iff (step : Step) (connection : Connection)
    (openAddressed : connection.isOpen = true → Addressed connection.settings) :
    (step.run connection).state.isOpen = true ↔
      step.LeavesOpen connection.settings connection.script (connection.isOpen = true) := by
  by_cases addressed : Addressed connection.settings
  · obtain ⟨outcome, isOpen⟩ := connect_eq connection addressed
    cases step with
    | connect => exact isOpen
    | close => simp [run, closeAfter, Connection.close, LeavesOpen]
    | within line =>
        rw [(within_run line connection).2, isOpen, outcome, LeavesOpen,
          ← rootJudgement_eq_ok_iff, Unforeseen]
        cases rootJudgement connection.settings connection.script with
        | ok name => simp [Except.mapError, Except.map]
        | error abort => simp [Except.mapError, Except.map]
    | check | interpret | handle | get | search | index | delete =>
        rw [(run_keeps rfl connection).isOpen]
        exact Iff.rfl
  · have closed : connection.isOpen = false := by
      rw [← Bool.not_eq_true]
      exact fun isOpen => addressed (openAddressed isOpen)
    have unverified : ¬Verified connection.settings connection.script :=
      fun verified => addressed verified.addressed
    have foreseen : ¬Unforeseen connection.settings connection.script :=
      fun unforeseen => addressed unforeseen.1
    have same := connect_of_not_addressed connection addressed
    cases step with
    | connect => simp [run, relabel, same, closed, LeavesOpen, unverified, foreseen]
    | close => simp [run, closeAfter, Connection.close, LeavesOpen]
    | within line => simp [(within_run line connection).2, same, closed, LeavesOpen, foreseen]
    | check | interpret | handle | get | search | index | delete =>
        rw [(run_keeps rfl connection).isOpen]
        exact Iff.rfl

end Step

/-! ## Runs -/

def afterSteps (steps : List (Step × List Http.Reply)) (connection : Connection) : Connection :=
  ((runSteps steps connection).getLast?.map Execution.state).getD connection

theorem afterSteps_cons (step : Step) (script : List Http.Reply)
    (rest : List (Step × List Http.Reply)) (connection : Connection) :
    afterSteps ((step, script) :: rest) connection =
      afterSteps rest (step.run (connection.withScript script)).state := by
  have shape : runSteps ((step, script) :: rest) connection =
      step.run (connection.withScript script) ::
        runSteps rest (step.run (connection.withScript script)).state := rfl
  rw [afterSteps, shape, List.getLast?_cons, afterSteps]
  cases (runSteps rest (step.run (connection.withScript script)).state).getLast? with
  | none => rfl
  | some done => rfl

theorem afterSteps_append (later : List (Step × List Http.Reply)) :
    ∀ (earlier : List (Step × List Http.Reply)) (connection : Connection),
      afterSteps (earlier ++ later) connection =
        afterSteps later (afterSteps earlier connection) := by
  intro earlier
  induction earlier with
  | nil => intro connection; rfl
  | cons first rest ih =>
      intro connection
      obtain ⟨step, script⟩ := first
      rw [List.cons_append, afterSteps_cons, afterSteps_cons, ih]

theorem afterSteps_append_singleton (steps : List (Step × List Http.Reply)) (step : Step)
    (script : List Http.Reply) (connection : Connection) :
    afterSteps (steps ++ [(step, script)]) connection =
      (step.run ((afterSteps steps connection).withScript script)).state := by
  rw [afterSteps_append, afterSteps_cons]
  rfl

theorem afterSteps_settings (steps : List (Step × List Http.Reply)) (connection : Connection) :
    (afterSteps steps connection).settings = connection.settings := by
  induction steps using List.reverseRecOn with
  | nil => rfl
  | append_singleton steps last ih =>
      rw [afterSteps_append_singleton, Step.run_settings]
      exact ih

/-- The last opening of some steps, with the replies to it, and what follows it. -/
structure IsLastOpening (steps : List (Step × List Http.Reply)) (step : Step)
    (script : List Http.Reply) : Prop where
  isOpening : step.isOpening = true
  isLast : ∃ earlier later, steps = earlier ++ (step, script) :: later ∧
    ∀ next ∈ later, next.1.isNeutral = true

theorem IsLastOpening.nil {step : Step} {script : List Http.Reply} :
    ¬IsLastOpening [] step script := by
  rintro ⟨-, earlier, later, split, -⟩
  simp at split

theorem isLastOpening_append_iff (steps : List (Step × List Http.Reply)) (last : Step)
    (replies : List Http.Reply) (step : Step) (script : List Http.Reply) :
    IsLastOpening (steps ++ [(last, replies)]) step script ↔
      last.isOpening = true ∧ last = step ∧ replies = script ∨
        last.isNeutral = true ∧ IsLastOpening steps step script := by
  constructor
  · rintro ⟨isOpening, earlier, later, split, neutral⟩
    rcases List.eq_nil_or_concat later with rfl | ⟨between, final, rfl⟩
    · obtain ⟨-, same⟩ := List.append_inj' split rfl
      cases same
      exact Or.inl ⟨isOpening, rfl, rfl⟩
    · have reassociated : steps ++ [(last, replies)] =
          (earlier ++ (step, script) :: between) ++ [final] := by
        simpa using split
      obtain ⟨steps_eq, same⟩ := List.append_inj' reassociated rfl
      cases same
      exact Or.inr ⟨neutral (last, replies) (by simp), isOpening, earlier, between, steps_eq,
        fun next member => neutral next (by simp [member])⟩
  · rintro (⟨isOpening, rfl, rfl⟩ | ⟨neutral, isOpening, earlier, later, rfl, others⟩)
    · exact ⟨isOpening, steps, [], rfl, by simp⟩
    · refine ⟨isOpening, earlier, later ++ [(last, replies)], by simp, ?_⟩
      intro next member
      rcases List.mem_append.mp member with inLater | isLast
      · exact others next inLater
      · rw [List.mem_singleton.mp isLast]
        exact neutral

/-- Nothing is sent for a line over a connection that is not open. -/
theorem isOpen_of_mem_sentBy {line : Text} {connection : Connection} {request : Http.Request}
    (sends : request ∈ sentBy line connection) : connection.isOpen = true := by
  obtain ⟨action, url, written, -, prepared, -⟩ := (mem_sentBy_iff line connection request).mp sends
  exact ((prepare_eq_ok_iff _ _ connection url written).mp prepared).1

def unopened (settings : Settings) : Connection := ⟨settings, false, [], []⟩

/-- The last opening verified the server and was not for a line only, or it came to an
unforeseen end. -/
def OpenedBy (settings : Settings) (steps : List (Step × List Http.Reply)) : Prop :=
  ∃ step script, IsLastOpening steps step script ∧
    (step = .connect ∧ Verified settings script ∨ Unforeseen settings script)

theorem addressed_of_opened {settings : Settings} {steps : List (Step × List Http.Reply)}
    (opened : OpenedBy settings steps) : Addressed settings := by
  obtain ⟨step, script, -, ⟨-, verified⟩ | unforeseen⟩ := opened
  · exact verified.addressed
  · exact unforeseen.1

/-- After any steps, the connection is open exactly when the last opening verified the server
and was not for a line only, or came to an unforeseen end. -/
theorem open_afterSteps_iff (settings : Settings) (steps : List (Step × List Http.Reply)) :
    (afterSteps steps (unopened settings)).isOpen = true ↔
      OpenedBy settings steps := by
  induction steps using List.reverseRecOn with
  | nil => simp [afterSteps, runSteps, unopened, OpenedBy, IsLastOpening.nil]
  | append_singleton steps last ih =>
      obtain ⟨last, replies⟩ := last
      have kept : (afterSteps steps (unopened settings)).settings = settings :=
        afterSteps_settings steps (unopened settings)
      have openAddressed : (afterSteps steps (unopened settings)).isOpen = true →
          Addressed settings := fun isOpen => addressed_of_opened (ih.mp isOpen)
      have stepped := Step.run_isOpen_iff last
        ((afterSteps steps (unopened settings)).withScript replies)
        (by simpa [withScript, kept] using openAddressed)
      rw [afterSteps_append_singleton, stepped]
      simp only [withScript, kept, OpenedBy, isLastOpening_append_iff, ih]
      cases last with
      | connect => simp [Step.LeavesOpen, Step.isOpening, Step.isNeutral]
      | within line => simp [Step.LeavesOpen, Step.isOpening, Step.isNeutral]
      | close => simp [Step.LeavesOpen, Step.isOpening, Step.isNeutral]
      | check | interpret | handle | get | search | index | delete =>
          simp [Step.LeavesOpen, Step.isOpening, Step.isNeutral]

/-- Over a connection that anyone has used in any way: it is open, and something can be sent for
a line, only if the last opening verified the server or came to an unforeseen end.  An opening
is over without an error exactly when it verifies the server, and one with an error leaves the
connection open exactly when its end is unforeseen. -/
theorem open_only_if_verified_or_unforeseen (settings : Settings)
    (steps : List (Step × List Http.Reply)) :
    let connection := afterSteps steps (unopened settings)
    (connection.isOpen = true ↔ OpenedBy settings steps) ∧
      (∀ script line request, request ∈ sentBy line (connection.withScript script) →
        OpenedBy settings steps) ∧
      ∀ script, ((connection.withScript script).connect.outcome = .ok () ↔
          Verified settings script) ∧
        ((connection.withScript script).connect.state.isOpen = true ↔
          Verified settings script ∨ Unforeseen settings script) := by
  intro connection
  have isOpen_iff : connection.isOpen = true ↔ OpenedBy settings steps :=
    open_afterSteps_iff settings steps
  have kept : connection.settings = settings := afterSteps_settings steps (unopened settings)
  refine ⟨isOpen_iff, ?_, ?_⟩
  · intro script line request sends
    have isOpen : (connection.withScript script).isOpen = true := isOpen_of_mem_sentBy sends
    exact isOpen_iff.mp isOpen
  · intro script
    have sameServer : (connection.withScript script).settings = settings := kept
    have outcome := connect_outcome_iff (connection.withScript script)
    have state := Step.run_isOpen_iff .connect (connection.withScript script)
      (fun isOpen => sameServer.symm ▸ addressed_of_opened (isOpen_iff.mp isOpen))
    rw [sameServer] at outcome state
    exact ⟨outcome, state⟩

def unforeseenReply : Http.Reply := .failure ⟨.other, text "RuntimeError", text "boom"⟩

/-- After an opening that failed in an unforeseen way, documents of a server that was not
verified can be deleted. -/
theorem unverified_server_is_used :
    let settings : Settings := ⟨text "localhost", 9200, text "docs", .ofRatio false 30 1⟩
    let connection := afterSteps [(.connect, [unforeseenReply])] (unopened settings)
    (∃ abort, ((unopened settings).withScript [unforeseenReply]).connect.outcome =
        .error abort) ∧
      ¬Verified settings [unforeseenReply] ∧ connection.isOpen = true ∧
      sentBy (text "delete /logs/event/1") connection =
        [⟨.delete, text "http://localhost:9200/logs/event/1", [], .ofRatio false 30 1⟩] := by
  intro settings connection
  have failed : rootAnswer settings [unforeseenReply] =
      .error (.fault (.transport ⟨.other, text "RuntimeError", text "boom"⟩)) := by
    decide +kernel
  have unverified : ¬Verified settings [unforeseenReply] := by
    rintro ⟨received, answer, -⟩
    rw [failed] at answer
    cases answer
  refine ⟨?_, unverified, by decide +kernel, by decide +kernel⟩
  cases ended : ((unopened settings).withScript [unforeseenReply]).connect.outcome with
  | ok nothing => exact absurd ((connect_outcome_iff _).mp ended) unverified
  | error abort => exact ⟨abort, rfl⟩

end Connection

end SearchShell
