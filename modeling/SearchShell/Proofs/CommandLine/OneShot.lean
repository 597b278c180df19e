import SearchShell.CommandLine.Program
import SearchShell.Proofs.Engine.Permissions
import SearchShell.Proofs.Shell.Trace

/-!
# Commands from the command line

A run with a command asks the server for its root, and goes on only if that is the root of the
configured cluster.  Its exit code says how far it came: two if the connection could not be opened,
one if the command was answered with an error, zero if it succeeded.
-/

set_option autoImplicit false

namespace SearchShell

namespace Connection

/-! ## What an opening sends -/

def IsRoot (settings : Settings) (url : Url) : Prop :=
  urlOf settings (text "/") = .ok url ∧ serverFault? url = none

def rootRequest (settings : Settings) (url : Url) : Http.Request :=
  ⟨.get, url.write, [], settings.timeout⟩

theorem askRoot_of_isRoot {connection : Connection} {url : Url}
    (isRoot : IsRoot connection.settings url) :
    askRoot connection = connection.send .get url [] := by
  simp only [askRoot, isRoot.1, isRoot.2]

theorem askRoot_of_none {connection : Connection}
    (none : ∀ url, ¬IsRoot connection.settings url) :
    ∃ fault, askRoot connection = ⟨.error (.fault fault), connection⟩ := by
  cases asked : urlOf connection.settings (text "/") with
  | error fault => exact ⟨.url fault, by simp only [askRoot, asked]⟩
  | ok url =>
      cases fault : serverFault? url with
      | none => exact absurd ⟨asked, fault⟩ (none url)
      | some defect => exact ⟨defect, by simp only [askRoot, asked, fault]⟩

theorem connect_sent_eq (connection : Connection) (addressed : Addressed connection.settings) :
    connection.connect.state.sent =
      (askRoot { connection with isOpen := true }).state.sent := by
  obtain ⟨url, isBase⟩ := addressed
  unfold connect
  simp only [isBase]
  split
  · rfl
  · rfl
  · rfl

/-- An opening sends the request for the root and nothing else. -/
theorem connect_sent_of_isRoot {connection : Connection} {url : Url}
    (isRoot : IsRoot connection.settings url) :
    connection.connect.state.sent = connection.sent ++ [rootRequest connection.settings url] := by
  have addressed : Addressed connection.settings := by
    cases found : base connection.settings with
    | ok url => exact ⟨url, found⟩
    | error fault =>
        have asked := isRoot.1
        rw [urlOf, found] at asked
        cases asked
  have isRootToo : IsRoot { connection with isOpen := true }.settings url := isRoot
  rw [connect_sent_eq connection addressed, askRoot_of_isRoot isRootToo]
  rfl

/-- Without an address for the root, nothing is sent and nothing is opened. -/
theorem connect_of_no_root {connection : Connection}
    (none : ∀ url, ¬IsRoot connection.settings url) :
    connection.connect.state.sent = connection.sent ∧ connection.connect.outcome ≠ .ok () := by
  have unasked {other : Connection} (same : other.settings = connection.settings) :
      ∃ fault, askRoot other = ⟨.error (.fault fault), other⟩ :=
    askRoot_of_none (by rwa [same])
  refine ⟨?_, ?_⟩
  · by_cases addressed : Addressed connection.settings
    · obtain ⟨fault, asked⟩ := @unasked { connection with isOpen := true } rfl
      rw [connect_sent_eq connection addressed, asked]
    · rw [connect_of_not_addressed connection addressed]
  · rw [Ne, connect_outcome_iff]
    rintro ⟨received, answer, -⟩
    obtain ⟨fault, asked⟩ := @unasked ⟨connection.settings, true, connection.script, []⟩ rfl
    rw [rootAnswer, asked] at answer
    cases answer

theorem isOpen_of_refused_connect {connection : Connection} {refusal : Refusal}
    (refused : connection.connect.outcome = .error (.fault (.refused refusal))) :
    connection.connect.state.isOpen = false := by
  have failed : connection.connect.outcome ≠ .ok () := by
    rw [refused]
    nofun
  by_cases addressed : Addressed connection.settings
  · obtain ⟨outcome, isOpen⟩ := connect_eq connection addressed
    rw [← Bool.not_eq_true, isOpen]
    rintro (verified | ⟨-, abort, judged, unforeseen⟩)
    · exact failed ((connect_outcome_iff connection).mpr verified)
    · rw [outcome, judged] at refused
      have isRefused : openingAbort connection.settings.serverAddress abort =
          .fault (.refused refusal) := Except.error.inj refused
      rw [(openingAbort_refused_iff _ abort).mp ⟨refusal, isRefused⟩] at unforeseen
      cases unforeseen
  · cases found : base connection.settings with
    | ok url => exact absurd ⟨url, found⟩ addressed
    | error fault =>
        simp only [connect, found] at refused
        cases refused

/-- What an opening logs does not read like the record of a line. -/
theorem head?_of_mem_connect_log {connection : Connection} {record : LogRecord}
    (member : record ∈ connection.connect.log) :
    record.message.head? ≠ some (CodePoint.ofChar 'R') := by
  unfold connect at member
  split at member
  · cases member
  · simp only at member
    split at member
    · rw [List.mem_singleton.mp member]
      have connected (name : Text) : (openingRecord connection.settings name).message.head? =
          some (CodePoint.ofChar 'C') := rfl
      rw [connected]
      decide
    · rw [closingLog] at member
      split at member
      · rw [List.mem_singleton.mp member]
        decide
      · cases member
    · cases member

end Connection

namespace Program

open Connection (IsRoot rootRequest unopened Verified)

variable {command : List Text} {connection : Connection}

def carriedOut (command : List Text) (connection : Connection) :
    Execution Connection Abort Envelope :=
  Engine.interpret Connection.engine (Text.joined (text " ") command) connection

/-- A use of a connection for one command that ends with an exit code, with what it makes visible
and the connection in the end. -/
inductive Serves (command : List Text) (connection : Connection) :
    Nat → List Event → Connection → Prop
  | refused {refusal : Refusal}
      (failed : connection.connect.outcome = .error (.fault (.refused refusal))) :
      Serves command connection 2
        (connection.connect.log.map Event.logged ++ [.logged (openingFailure refusal)])
        connection.connect.state
  | answered {envelope : Envelope} (opened : connection.connect.outcome = .ok ())
      (answered : (carriedOut command connection.connect.state).outcome = .ok envelope) :
      Serves command connection (if envelope.isSuccess then 0 else 1)
        (connection.connect.log.map Event.logged ++
          ((carriedOut command connection.connect.state).log.map Event.logged ++
            envelope.event :: closing (carriedOut command connection.connect.state).state))
        (carriedOut command connection.connect.state).state.close

theorem serves_of_finished (given : command ≠ []) {input : List InputEvent} {code : Nat}
    (finished : (connectAndServe command input connection).1 = .finished code) :
    Serves command connection code (connectAndServe command input connection).2.1
      (connectAndServe command input connection).2.2 := by
  have some : command.isEmpty = false := List.isEmpty_eq_false_iff.mpr given
  cases opened : connection.connect.outcome with
  | error abort =>
      cases abort with
      | interruption stop =>
          simp only [connectAndServe, opened] at finished
          cases finished
      | fault fault =>
          cases fault with
          | refused refusal =>
              simp only [connectAndServe, opened] at finished ⊢
              cases finished
              exact .refused opened
          | _ =>
              simp only [connectAndServe, opened] at finished
              cases finished
  | ok nothing =>
      cases answered : (carriedOut command connection.connect.state).outcome with
      | error abort =>
          rw [carriedOut] at answered
          simp only [connectAndServe, opened, serve, some, Bool.false_eq_true, if_false,
            answered] at finished
          cases finished
      | ok envelope =>
          have served := Serves.answered opened answered
          rw [carriedOut] at answered
          simp only [connectAndServe, opened, serve, some, Bool.false_eq_true, if_false,
            answered] at finished ⊢
          cases finished
          exact served

/-! ## Output -/

theorem onOutput_logged (records : List LogRecord) :
    (records.map Event.logged).flatMap Event.onOutput = [] := by
  induction records with
  | nil => rfl
  | cons record rest ih => exact ih

theorem onError_logged (setup : LoggerSetup) (records : List LogRecord) :
    (records.map Event.logged).flatMap (Event.onError setup) = setup.console records := by
  induction records with
  | nil => rfl
  | cons record rest ih =>
      rw [List.map_cons, List.flatMap_cons, ih, Event.onError, LoggerSetup.console,
        LoggerSetup.console, LoggerSetup.console, ← List.flatMap_append, ← List.filter_append,
        List.singleton_append]

/-- That a connection is closed is not shown on the console. -/
theorem console_closing (directory : Text) (connection : Connection) :
    LoggerSetup.console { directory := directory } connection.closingLog = [] := by
  rw [Connection.closingLog]
  split
  · rfl
  · rfl

/-! ## Runs -/

section Runs

variable {defaults : Defaults} {arguments : List Text} {input : List InputEvent}
  {script : List Http.Reply} {options : Options} {settings : Settings} {code : Nat}

theorem logging_eq_ok {setup : LoggerSetup} (logged : logging defaults options = .ok setup) :
    ∃ directory, setup = { directory := directory } := by
  unfold logging at logged
  simp only at logged
  split at logged
  · split at logged
    · cases logged
    · cases logged
      exact ⟨_, rfl⟩
  · split at logged
    · cases logged
    · cases logged
      exact ⟨_, rfl⟩
  · cases logged

/-- A run for one command that gives an exit code has used a connection that nothing was sent over
before. -/
theorem serves_of_run (parsed : Options.ofArguments arguments = .ok options)
    (given : options.command ≠ [])
    (valid : Settings.withOverrides defaults.settings options.overrides = .ok settings)
    (finished : (run defaults arguments input script).ending = .finished code) :
    ∃ directory final, (run defaults arguments input script).connection = some final ∧
      (run defaults arguments input script).logging = some { directory := directory } ∧
      Serves options.command ((unopened settings).withScript script) code
        (run defaults arguments input script).events final := by
  cases logged : logging defaults options with
  | error fault =>
      simp only [run, parsed, logged] at finished
      cases finished
  | ok setup =>
      obtain ⟨directory, rfl⟩ := logging_eq_ok logged
      have isRun : run defaults arguments input script =
          let fresh := (unopened settings).withScript script
          let served := connectAndServe options.command input fresh
          ⟨served.1, served.2.1, some { directory := directory }, some served.2.2⟩ := by
        simp only [run, parsed, logged, runLogged, valid]
        rfl
      rw [isRun] at finished ⊢
      exact ⟨directory, _, rfl, rfl, serves_of_finished given finished⟩

end Runs

/-! ## What a use of a connection comes to -/

section Uses

variable {code : Nat} {events : List Event} {final : Connection}
  (serves : Serves command connection code events final)

include serves

theorem Serves.closed : final.isOpen = false := by
  cases serves with
  | refused failed => exact Connection.isOpen_of_refused_connect failed
  | answered opened answered => rfl

theorem Serves.code_eq_two_iff : code = 2 ↔ connection.connect.outcome ≠ .ok () := by
  cases serves with
  | refused failed => exact iff_of_true rfl (by rw [failed]; nofun)
  | @answered envelope opened answered =>
      refine iff_of_false ?_ (not_not.mpr opened)
      cases envelope.isSuccess with
      | true | false => decide

theorem Serves.exists_answer (opened : connection.connect.outcome = .ok ()) :
    ∃ envelope, (carriedOut command connection.connect.state).outcome = .ok envelope ∧
      code = if envelope.isSuccess then 0 else 1 := by
  cases serves with
  | refused failed =>
      rw [failed] at opened
      cases opened
  | answered _ answered => exact ⟨_, answered, rfl⟩

theorem Serves.code_eq_zero_iff : code = 0 ↔ connection.connect.outcome = .ok () ∧
    ∃ form body, (carriedOut command connection.connect.state).outcome =
      .ok (.success form body) := by
  cases serves with
  | refused failed =>
      refine iff_of_false (by decide) ?_
      rw [failed]
      nofun
  | @answered envelope opened answered =>
      rw [answered]
      cases envelope with
      | success form body => exact iff_of_true rfl ⟨opened, form, body, rfl⟩
      | error kind body => exact iff_of_false Nat.one_ne_zero nofun

theorem Serves.code_eq_one_iff : code = 1 ↔ connection.connect.outcome = .ok () ∧
    ∃ kind body, (carriedOut command connection.connect.state).outcome =
      .ok (.error kind body) := by
  cases serves with
  | refused failed =>
      refine iff_of_false (by decide) ?_
      rw [failed]
      nofun
  | @answered envelope opened answered =>
      rw [answered]
      cases envelope with
      | success form body => exact iff_of_false Nat.zero_ne_one nofun
      | error kind body => exact iff_of_true rfl ⟨opened, kind, body, rfl⟩

/-- After the request for the root, only the configured cluster is asked for more. -/
theorem Serves.sent_eq {url : Url} (isRoot : IsRoot connection.settings url) : ∃ rest,
    final.sent = connection.sent ++ rootRequest connection.settings url :: rest ∧
      (rest ≠ [] → Verified connection.settings connection.script) := by
  have root := Connection.connect_sent_of_isRoot isRoot
  cases serves with
  | refused failed => exact ⟨[], root, fun some => absurd rfl some⟩
  | answered opened answered =>
      have verified := (Connection.connect_outcome_iff connection).mp opened
      refine ⟨Connection.sentBy (Text.joined (text " ") command) connection.connect.state, ?_,
        fun _ => verified⟩
      have sent := Connection.interpret_sent (Text.joined (text " ") command)
        connection.connect.state
      rw [root, List.append_assoc, List.singleton_append] at sent
      exact sent

/-- If the root cannot be asked for, nothing is sent. -/
theorem Serves.sent_of_no_root (none : ∀ url, ¬IsRoot connection.settings url) :
    final.sent = connection.sent ∧ code = 2 := by
  obtain ⟨sent, failed⟩ := Connection.connect_of_no_root none
  cases serves with
  | refused => exact ⟨sent, rfl⟩
  | answered opened => exact absurd opened failed

/-- If the opening failed, nothing is shown on the output, and no line was interpreted. -/
theorem Serves.quiet (failed : code = 2) :
    events.flatMap Event.onOutput = [] ∧ ∀ line, .logged (LogRecord.ofLine line) ∉ events := by
  have unopened := serves.code_eq_two_iff.mp failed
  cases serves with
  | answered opened => exact absurd opened unopened
  | @refused refusal failed =>
      refine ⟨?_, ?_⟩
      · rw [List.flatMap_append, onOutput_logged]
        rfl
      · intro line member
        rcases List.mem_append.mp member with early | late
        · obtain ⟨record, inLog, same⟩ := List.mem_map.mp early
          cases same
          exact Connection.head?_of_mem_connect_log inLog rfl
        · cases List.mem_singleton.mp late

/-- What an answer is shown as. -/
theorem Serves.shows (directory : Text) {envelope : Envelope}
    (opened : connection.connect.outcome = .ok ())
    (answered : (carriedOut command connection.connect.state).outcome = .ok envelope) :
    let setup : LoggerSetup := { directory := directory }
    let logged := setup.console
      (connection.connect.log ++ (carriedOut command connection.connect.state).log)
    ∃ shown, Shell.IsShown envelope.body shown ∧
      (envelope.isSuccess = true → events.flatMap Event.onOutput = shown ∧
        events.flatMap (Event.onError setup) = logged) ∧
      (envelope.isSuccess = false → events.flatMap Event.onOutput = [] ∧
        events.flatMap (Event.onError setup) = logged ++ shown) := by
  intro setup logged
  refine ⟨_, Shell.isShown_terminatedBody envelope, ?_⟩
  cases serves with
  | refused failed =>
      rw [failed] at opened
      cases opened
  | @answered other _ otherAnswered =>
      obtain rfl : other = envelope := Except.ok.inj (otherAnswered.symm.trans answered)
      have console (first second : List LogRecord) :
          setup.console first ++ setup.console second = setup.console (first ++ second) := by
        simp only [LoggerSetup.console, List.filter_append, List.flatMap_append]
      refine ⟨fun success => ⟨?_, ?_⟩, fun failure => ⟨?_, ?_⟩⟩
      · simp only [List.flatMap_append, List.flatMap_cons, onOutput_logged, closing,
          Envelope.event, success, if_true, Event.onOutput, List.nil_append, List.append_nil]
      · simp only [List.flatMap_append, List.flatMap_cons, onError_logged, closing, setup,
          console_closing, Envelope.event, success, if_true, Event.onError, List.append_nil]
        exact console _ _
      · simp only [List.flatMap_append, List.flatMap_cons, onOutput_logged, closing,
          Envelope.event, failure, Bool.false_eq_true, if_false, Event.onOutput, List.nil_append]
      · simp only [List.flatMap_append, List.flatMap_cons, onError_logged, closing, setup,
          console_closing, Envelope.event, failure, Bool.false_eq_true, if_false, Event.onError,
          List.append_nil]
        rw [← List.append_assoc]
        exact congrArg (· ++ other.terminatedBody) (console _ _)

end Uses

/-! ## Runs with a command -/

/-- For all arguments with a command and with good settings, and whatever is replied, a run that
returns a code: it asks for the root first, unless there is no address for it, and for anything else
only if the root is that of the configured cluster; its connection is closed in the end; and its
code is two if the opening failed, which leaves the output empty and every line alone, and else zero
or one as the command, its words joined by blanks, is answered with a success or with an error,
whose body alone is shown where it belongs. -/
theorem command_run_is_gated {defaults : Defaults} {arguments : List Text}
    {input : List InputEvent} {script : List Http.Reply} {options : Options} {settings : Settings}
    {code : Nat} (parsed : Options.ofArguments arguments = .ok options)
    (given : options.command ≠ [])
    (valid : Settings.withOverrides defaults.settings options.overrides = .ok settings)
    (finished : (run defaults arguments input script).ending = .finished code) :
    let run := run defaults arguments input script
    let opening := ((unopened settings).withScript script).connect
    let answer := (carriedOut options.command opening.state).outcome
    ((∀ url, IsRoot settings url → ∃ rest, run.sent = rootRequest settings url :: rest ∧
        (rest ≠ [] → Verified settings script)) ∧
      ((∀ url, ¬IsRoot settings url) → run.sent = [] ∧ code = 2)) ∧
    (∃ connection, run.connection = some connection ∧ connection.isOpen = false) ∧
    (opening.outcome = .ok () ↔ Verified settings script) ∧
    (code = 2 ↔ opening.outcome ≠ .ok ()) ∧
    (code = 2 → run.output = [] ∧ ∀ line, .logged (LogRecord.ofLine line) ∉ run.events) ∧
    (code = 0 ↔ opening.outcome = .ok () ∧ ∃ form body, answer = .ok (.success form body)) ∧
    (code = 1 ↔ opening.outcome = .ok () ∧ ∃ kind body, answer = .ok (.error kind body)) ∧
    (code = 2 ∨ ∃ envelope setup shown, answer = .ok envelope ∧ run.logging = some setup ∧
      Shell.IsShown envelope.body shown ∧
      (code = 0 → run.output = shown) ∧
      (code = 1 → run.output = [] ∧ run.errorOutput =
        setup.console (opening.log ++ (carriedOut options.command opening.state).log) ++
          shown)) := by
  intro run opening answer
  obtain ⟨directory, final, isFinal, logged, serves⟩ := serves_of_run parsed given valid finished
  have sent : run.sent = final.sent := by
    simp only [ProgramRun.sent, run, isFinal]
  have errors : run.errorOutput =
      run.events.flatMap (Event.onError { directory := directory }) := by
    simp only [ProgramRun.errorOutput, run, logged]
  rw [sent]
  refine ⟨⟨fun url isRoot => serves.sent_eq isRoot, fun none => serves.sent_of_no_root none⟩,
    ⟨final, isFinal, serves.closed⟩, Connection.connect_outcome_iff _, serves.code_eq_two_iff,
    fun failed => serves.quiet failed, serves.code_eq_zero_iff, serves.code_eq_one_iff, ?_⟩
  by_cases opened : opening.outcome = .ok ()
  · right
    obtain ⟨envelope, answered, isCode⟩ := serves.exists_answer opened
    obtain ⟨shown, isShown, ofSuccess, ofError⟩ := serves.shows directory opened answered
    refine ⟨envelope, _, shown, answered, logged, isShown, fun zero => ?_, fun one => ?_⟩
    · cases success : envelope.isSuccess with
      | true => exact (ofSuccess success).1
      | false =>
          rw [zero, success] at isCode
          cases isCode
    · cases success : envelope.isSuccess with
      | true =>
          rw [one, success] at isCode
          cases isCode
      | false => exact ⟨(ofError success).1, errors.trans (ofError success).2⟩
  · exact Or.inl (serves.code_eq_two_iff.mpr opened)

/-- A count over the usual cluster succeeds, with its total alone on the output. -/
theorem count_run_succeeds :
    let arguments := [text "count", text "/logs"]
    let options : Options := { command := arguments }
    let replies : List Http.Reply := [
      .response ⟨200, [], Utf8.spell (text "\x7b\"cluster_name\":\"elasticsearch\"\x7d")⟩,
      .response ⟨200, [], Utf8.spell (text "\x7b\"hits\":\x7b\"total\":3,\"hits\":[]\x7d\x7d")⟩]
    let run := run .usual arguments [] replies
    Options.ofArguments arguments = .ok options ∧ options.command ≠ [] ∧
      Settings.withOverrides Defaults.usual.settings options.overrides =
        .ok Defaults.usual.settings ∧
      run.ending = .finished 0 ∧ run.sent.length = 2 ∧
      Verified Defaults.usual.settings replies ∧ run.output = text "3\n" := by
  intro arguments options replies run
  have parsed : Options.ofArguments arguments = .ok options := by rfl
  have given : options.command ≠ [] := List.cons_ne_nil _ _
  have valid : Settings.withOverrides Defaults.usual.settings options.overrides =
      .ok Defaults.usual.settings := by decide +kernel
  have finished : run.ending = .finished 0 := by decide +kernel
  obtain ⟨-, -, opened_iff, -, -, zero_iff, -, -⟩ :=
    command_run_is_gated parsed given valid finished
  have verified := opened_iff.mp (zero_iff.mp rfl).1
  have sent : run.sent.length = 2 := by decide +kernel
  have shown : run.output = text "3\n" := by decide +kernel
  exact ⟨parsed, given, valid, finished, sent, verified, shown⟩

end Program

end SearchShell
