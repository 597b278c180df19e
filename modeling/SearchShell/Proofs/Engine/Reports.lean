import SearchShell.Proofs.Command.Asking
import SearchShell.Proofs.Engine.Classification

/-!
# Reports

Whatever an engine does, a line gets one answer and one kind of log: the answer has the form of
the line's verb or names one of the kinds of error, and a failure is logged once, as an error of
the surroundings only if neither the line nor the server is to blame.  What cannot be reported
in this way is an interruption, a rejection with a text that cannot be read, and an error that
has no kind of its own.
-/

set_option autoImplicit false

namespace SearchShell

def Verb.form : Verb → ContentType
  | get => .json
  | search => .table
  | count | index | delete => .text

def Action.verb : Action → Verb
  | get _ => .get
  | count _ _ => .count
  | search _ _ => .search
  | index _ _ => .index
  | delete _ => .delete

def alarms (log : List LogRecord) : List LogRecord :=
  log.filter fun record => record.level.reaches .warning

structure IsDisciplined (line : Text) (executed : Except Abort Envelope) (envelope : Envelope)
    (log : List LogRecord) : Prop where
  opening : ∃ rest, log = LogRecord.ofLine line :: rest ∧ ∀ record ∈ rest, record.level ≠ .info
  success : envelope.isSuccess = true → envelope.errorKind = none ∧ alarms log = [] ∧
    ∃ verb parts, asked? line = some (verb, parts) ∧ envelope.contentType = verb.form
  failure : envelope.isSuccess = false → envelope.contentType = .text ∧
    (∃ kind ∈ ErrorKind.taxonomy, envelope.errorKind = some kind.name) ∧
    ∃ fault record, executed = .error (.fault fault) ∧ alarms log = [record] ∧
      (record.level = .error ↔ fault.isPlain = true)

/-- The fault has a listed kind, and a text that can be shown. -/
def Fault.IsReportable : Fault → Prop
  | refused refusal => refusal.kind ∈ ErrorKind.taxonomy
  | rejected received => ∃ content, received.response.content = .ok content
  | _ => True

def Abort.IsReportable : Abort → Prop
  | .fault failure => failure.IsReportable
  | .interruption _ => False

/-! ## Reports of faults -/

theorem ErrorKind.mem_taxonomy_iff (kind : ErrorKind) :
    kind ∈ taxonomy ↔ kind.name ∈ taxonomy.map name := by
  cases kind with
  | general | missingArguments | badPath | unknownMethod | notFound | invalidSize | invalidJson
  | engineError => decide

structure FaultReport.Suits (report : FaultReport) (fault : Fault) : Prop where
  answer : ∃ kind ∈ ErrorKind.taxonomy, ∃ body, report.envelope = .error kind.name body
  alarming : report.record.level.reaches .warning = true
  level : report.record.level = .error ↔ fault.isPlain = true

theorem warning_ne_error : LogLevel.warning ≠ .error := by decide

theorem suits_refused {refusal : Refusal} (listed : refusal.kind ∈ ErrorKind.taxonomy) :
    FaultReport.Suits ⟨.refused refusal, .warning, refusal.kind.name ++ text ": " ++
      refusal.message⟩ (.refused refusal) where
  answer := ⟨refusal.kind, listed, _, rfl⟩
  alarming := rfl
  level := iff_of_false warning_ne_error Bool.false_ne_true

theorem suits_of_isPlain {fault : Fault} (plain : fault.isPlain = true) :
    ∃ report, fault.report = .ok report ∧ report.Suits fault := by
  have suits (message : Text) : FaultReport.Suits ⟨.error ErrorKind.engineError.name message,
      .error, text "Engine call failed"⟩ fault :=
    ⟨⟨.engineError, by decide, message, rfl⟩, rfl, iff_of_true rfl plain⟩
  cases fault with
  | refused refusal => cases plain
  | rejected received => cases plain
  | _ => exact ⟨_, rfl, suits _⟩

theorem suits_of_rejected {received : Http.Received} {content : Text}
    (readable : received.response.content = .ok content) :
    ∃ report, (Fault.rejected received).report = .ok report ∧
      report.Suits (.rejected received) := by
  simp only [Fault.report, Http.Received.summary, readable, Except.map]
  exact ⟨_, rfl, ⟨.engineError, by decide, _, rfl⟩, rfl,
    iff_of_false warning_ne_error Bool.false_ne_true⟩

theorem Fault.IsReportable.suits {fault : Fault} (reportable : fault.IsReportable) :
    ∃ report, fault.report = .ok report ∧ report.Suits fault := by
  cases fault with
  | refused refusal => exact ⟨_, rfl, suits_refused reportable⟩
  | rejected received =>
      obtain ⟨content, reads⟩ := reportable
      exact suits_of_rejected reads
  | _ => exact suits_of_isPlain rfl

theorem Fault.isReportable_of_answer {fault : Fault} {envelope : Envelope}
    (answered : fault.answer = .ok envelope) (failure : envelope.isSuccess = false →
      ∃ kind ∈ ErrorKind.taxonomy, envelope.errorKind = some kind.name) : fault.IsReportable := by
  cases fault with
  | refused refusal =>
      cases answered
      obtain ⟨kind, listed, named⟩ := failure rfl
      have same : refusal.kind.name = kind.name := Option.some.inj named
      rw [Fault.IsReportable, ErrorKind.mem_taxonomy_iff, same]
      exact List.mem_map_of_mem listed
  | rejected received =>
      rw [Connection.answer_rejected] at answered
      cases read : received.response.content with
      | ok content => exact ⟨content, read⟩
      | error unreadable =>
          rw [read] at answered
          cases answered
  | _ => trivial

/-! ## Execution -/

section Execution

variable {σ : Type}

theorem Action.asked?_of_ofLine {line : Text} {action : Action}
    (decided : Action.ofLine line = .ok action) :
    ∃ parts, asked? line = some (action.verb, parts) := by
  cases asks_of_ofLine decided with
  | get asked | count asked | search asked | delete asked => exact ⟨_, asked⟩
  | index asked payload => exact ⟨_, asked⟩

theorem Action.present_outcome {α : Type} (attempt : Attempt σ α) (log : α → List LogRecord)
    (answer : α → Except Abort Envelope) :
    (present attempt log answer).outcome = attempt.outcome >>= answer := by
  cases done : attempt.outcome with
  | ok result => simp only [present, done]; rfl
  | error abort => simp only [present, done]; rfl

theorem Action.mem_present_log {α : Type} {attempt : Attempt σ α} {log : α → List LogRecord}
    {answer : α → Except Abort Envelope} {record : LogRecord}
    (member : record ∈ (present attempt log answer).log) : ∃ result, record ∈ log result := by
  unfold present at member
  split at member
  next result _ => exact ⟨result, member⟩
  next => cases member

theorem Action.form_of_written {form : ContentType} {body : Except WritingFault Text}
    {envelope : Envelope} (shown : (written form body).mapError Abort.fault = .ok envelope) :
    ∃ s, envelope = .success form s := by
  rw [Outcome.mapError_eq_ok_iff, written_eq_ok_iff] at shown
  obtain ⟨s, -, rfl⟩ := shown
  exact ⟨s, rfl⟩

theorem Action.perform_form {engine : Engine σ} {action : Action} {state : σ}
    {envelope : Envelope} (answered : (action.perform engine state).outcome = .ok envelope) :
    ∃ body, envelope = .success action.verb.form body := by
  cases action with
  | get address =>
      rw [perform, present_outcome, Outcome.bind_eq_ok_iff] at answered
      obtain ⟨found, -, shown⟩ := answered
      cases found with
      | none => cases shown
      | some document => exact form_of_written shown
  | count scope body =>
      rw [perform, present_outcome, Outcome.bind_eq_ok_iff] at answered
      obtain ⟨result, -, shown⟩ := answered
      exact form_of_written shown
  | search scope body =>
      rw [perform, present_outcome, Outcome.bind_eq_ok_iff] at answered
      obtain ⟨result, -, shown⟩ := answered
      exact form_of_written shown
  | index target document =>
      rw [perform, present_outcome, Outcome.bind_eq_ok_iff] at answered
      obtain ⟨id, -, shown⟩ := answered
      cases shown
      exact ⟨_, rfl⟩
  | delete address =>
      rw [perform, present_outcome, Outcome.bind_eq_ok_iff] at answered
      obtain ⟨found, -, shown⟩ := answered
      cases found with
      | false => cases shown
      | true =>
          cases shown
          exact ⟨_, rfl⟩

theorem Action.perform_log (engine : Engine σ) (action : Action) (state : σ) :
    ∀ record ∈ (action.perform engine state).log, record.level = .debug := by
  intro record member
  cases action with
  | search scope body =>
      obtain ⟨result, isRecord⟩ := mem_present_log member
      rw [List.mem_singleton.mp isRecord]
      rfl
  | get _ | count _ _ | index _ _ | delete _ =>
      obtain ⟨result, none⟩ := mem_present_log member
      cases none

namespace Engine

/-- Only an action that is performed logs anything, and only for those who look into details. -/
theorem execute_log (engine : Engine σ) (line : Text) (state : σ) :
    ∀ record ∈ (execute engine line state).log, record.level = .debug := by
  cases decided : Action.ofLine line with
  | ok action =>
      rw [execute_of_action decided]
      exact action.perform_log engine state
  | error fault =>
      rw [execute_of_fault decided]
      intro record none
      cases none

theorem execute_form {engine : Engine σ} {line : Text} {state : σ} {envelope : Envelope}
    (answered : (execute engine line state).outcome = .ok envelope) :
    ∃ verb parts body, asked? line = some (verb, parts) ∧ envelope = .success verb.form body := by
  cases decided : Action.ofLine line with
  | ok action =>
      rw [execute_of_action decided] at answered
      obtain ⟨parts, asked⟩ := Action.asked?_of_ofLine decided
      obtain ⟨body, shown⟩ := Action.perform_form answered
      exact ⟨action.verb, parts, body, asked, shown⟩
  | error fault =>
      rw [execute_of_fault decided] at answered
      cases answered

end Engine

/-! ## Logs -/

section Logs

variable {line : Text} {log : List LogRecord} (quiet : ∀ record ∈ log, record.level = .debug)

theorem reaches_debug {record : LogRecord} (isDebug : record.level = .debug) :
    record.level.reaches .warning = false := by
  rw [isDebug]
  rfl

include quiet

theorem alarms_of_quiet : alarms (LogRecord.ofLine line :: log) = [] := by
  have opening : (LogRecord.ofLine line).level.reaches .warning = false := rfl
  simp only [alarms, List.filter_cons, opening, Bool.false_eq_true, if_false]
  rw [List.filter_eq_nil_iff]
  intro record member
  rw [reaches_debug (quiet record member)]
  exact Bool.false_ne_true

theorem alarms_of_report {record : LogRecord} (alarming : record.level.reaches .warning = true) :
    alarms (LogRecord.ofLine line :: log ++ [record]) = [record] := by
  have before := @alarms_of_quiet line log quiet
  simp only [alarms] at before ⊢
  simp only [List.filter_append, before, List.filter_cons, alarming, if_true, List.filter_nil,
    List.nil_append]

end Logs

/-! ## Interpretation -/

theorem isDisciplined_of_ok {engine : Engine σ} {line : Text} {state : σ} {envelope : Envelope}
    (answered : (Engine.execute engine line state).outcome = .ok envelope) :
    (Engine.interpret engine line state).outcome = .ok envelope ∧
      IsDisciplined line (.ok envelope) envelope (Engine.interpret engine line state).log := by
  have quiet := Engine.execute_log engine line state
  obtain ⟨verb, parts, body, asked, rfl⟩ := Engine.execute_form answered
  have log : (Engine.interpret engine line state).log =
      LogRecord.ofLine line :: (Engine.execute engine line state).log := by
    simp only [Engine.interpret, answered]
  refine ⟨Engine.interpret_outcome_of_ok answered, ⟨_, log, ?_⟩, ?_,
    fun isError => absurd isError.symm Bool.false_ne_true⟩
  · intro record member
    rw [quiet record member]
    decide
  · intro _
    exact ⟨rfl, log ▸ alarms_of_quiet quiet, verb, parts, asked, rfl⟩

theorem isDisciplined_of_report {engine : Engine σ} {line : Text} {state : σ} {fault : Fault}
    {report : FaultReport}
    (failed : (Engine.execute engine line state).outcome = .error (.fault fault))
    (reported : fault.report = .ok report) (suits : report.Suits fault) :
    (Engine.interpret engine line state).outcome = .ok report.envelope ∧
      IsDisciplined line (.error (.fault fault)) report.envelope
        (Engine.interpret engine line state).log := by
  have quiet := Engine.execute_log engine line state
  have log : (Engine.interpret engine line state).log =
      LogRecord.ofLine line :: (Engine.execute engine line state).log ++ [report.record] := by
    simp only [Engine.interpret, failed, reported]
  obtain ⟨kind, listed, body, answer⟩ := suits.answer
  refine ⟨Engine.interpret_outcome_of_fault failed reported, ⟨_, log, ?_⟩, ?_, ?_⟩
  · intro record member
    rcases List.mem_append.mp member with early | last
    · rw [quiet record early]
      decide
    · rw [List.mem_singleton.mp last]
      intro isInfo
      have alarming := suits.alarming
      rw [isInfo] at alarming
      cases alarming
  · intro isSuccess
    rw [answer] at isSuccess
    cases isSuccess
  · intro _
    rw [answer]
    exact ⟨rfl, ⟨kind, listed, rfl⟩, fault, report.record, rfl,
      log ▸ alarms_of_report quiet suits.alarming, suits.level⟩

/-- For every engine, whatever its operations give or fail with: the interpretation of a line ends
with an answer and a log that are as they should be, exactly when what ends its execution, if
anything does, can be reported. -/
theorem interpret_is_disciplined_iff (engine : Engine σ) (line : Text) (state : σ) :
    (∃ envelope, (Engine.interpret engine line state).outcome = .ok envelope ∧
      IsDisciplined line (Engine.execute engine line state).outcome envelope
        (Engine.interpret engine line state).log) ↔
      ∀ abort, (Engine.execute engine line state).outcome = .error abort →
        abort.IsReportable := by
  cases executed : (Engine.execute engine line state).outcome with
  | ok envelope =>
      exact iff_of_true ⟨envelope, isDisciplined_of_ok executed⟩ nofun
  | error abort =>
      constructor
      · rintro ⟨envelope, answered, disciplined⟩ other same
        cases same
        rw [Engine.interpret_outcome_eq, executed] at answered
        cases abort with
        | interruption interruption => cases answered
        | fault fault =>
            exact Fault.isReportable_of_answer answered fun isError =>
              (disciplined.failure isError).2.1
      · intro reportable
        cases abort with
        | interruption interruption => exact (reportable _ rfl).elim
        | fault fault =>
            obtain ⟨report, reported, suits⟩ := Fault.IsReportable.suits (reportable _ rfl)
            exact ⟨report.envelope, isDisciplined_of_report executed reported suits⟩

end Execution

/-- The rejection of a search with a text that lacks the mark of its charset is no interruption, and
yet it gets no answer. -/
theorem Connection.unreadable_rejection_escapes :
    let line := text "search /logs"
    let connection := answeredBy unreadableFailure
    (Engine.execute engine line connection).outcome = .error (.fault (.rejected
        ⟨text "http://localhost:9200/logs/_search", unreadableFailure⟩)) ∧
      ¬∃ envelope, (Engine.interpret engine line connection).outcome = .ok envelope := by
  have unanswered : (Engine.interpret engine (text "search /logs")
      (answeredBy unreadableFailure)).outcome =
        .error (.fault (.charset (.noMark (text "UTF-16")))) := by
    decide +kernel
  refine ⟨by decide +kernel, ?_⟩
  rintro ⟨envelope, answered⟩
  rw [unanswered] at answered
  cases answered

end SearchShell
