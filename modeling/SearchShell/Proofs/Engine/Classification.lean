import SearchShell.Proofs.Engine.Meaning
import SearchShell.Proofs.Engine.Requests

/-!
# What responses are answered with

The status and the body of a response decide the answer to the line that asked for it: success,
no such document, or an error of the engine with the status and the text of the response.
-/

set_option autoImplicit false

namespace SearchShell

open Http (Received)

/-! ## Reports -/

def Fault.answer (fault : Fault) : Except Abort Envelope :=
  match fault.report with
  | .ok report => .ok report.envelope
  | .error unreadable => .error (.fault (.charset unreadable))

theorem Fault.answer_of_isPlain {fault : Fault} (plain : fault.isPlain = true) :
    fault.answer = .ok (engineFailure fault.message) := by
  cases fault with
  | refused refusal => cases plain
  | rejected received => cases plain
  | _ => rfl

def answerOf : Except Fault Envelope → Except Abort Envelope
  | .ok envelope => .ok envelope
  | .error fault => fault.answer

theorem Engine.interpret_outcome_eq {σ : Type} (engine : Engine σ) (line : Text) (state : σ) :
    (interpret engine line state).outcome = match (execute engine line state).outcome with
      | .ok envelope => .ok envelope
      | .error (.interruption interruption) => .error (.interruption interruption)
      | .error (.fault fault) => fault.answer := by
  cases done : (execute engine line state).outcome with
  | ok envelope => simp only [interpret, done]
  | error abort =>
      cases abort with
      | interruption interruption => simp only [interpret, done]
      | fault fault =>
          cases reported : fault.report with
          | ok report => simp only [interpret, done, reported, Fault.answer]
          | error unreadable => simp only [interpret, done, reported, Fault.answer]

namespace Action

/-! ## Classes of responses -/

inductive Class (received : Received) (action : Action) : Except Fault Envelope → Prop
  | absent (told : action.IsToldAbsent received) :
      Class received action (.error (.refused .notFound))
  | rejected (untold : ¬action.IsToldAbsent received)
      (failure : received.response.isSuccess = false) :
      Class received action (.error (.rejected received))
  | success (untold : ¬action.IsToldAbsent received)
      (isSuccess : received.response.isSuccess = true)
      (usable : action.isForOne = true → received.HoldsObject) (form : ContentType) (body : Text) :
      Class received action (.ok (.success form body))
  | unusable (untold : ¬action.IsToldAbsent received)
      (isSuccess : received.response.isSuccess = true) (fault : Fault)
      (plain : fault.isPlain = true) : Class received action (.error fault)

theorem class_of_isSuccess {received : Received} (action : Action)
    (isSuccess : received.response.isSuccess = true) :
    Class received action (received.json >>= action.answerIn) := by
  have there : ¬received.IsMissing := by
    intro missing
    rw [Received.isSuccess_of_isMissing missing] at isSuccess
    cases isSuccess
  cases read : received.json with
  | error fault =>
      refine .unusable ?_ isSuccess fault (Received.json_error_plain read)
      rintro ⟨-, missing | ⟨-, members, isObject, -⟩⟩
      · exact there missing
      · rw [read] at isObject
        cases isObject
  | ok answer =>
      have means := meaning (Received.json_isReadable read) action
      change Class received action (action.answerIn answer)
      generalize action.answerIn answer = outcome at means
      cases means with
      | nothing members isObject one finds =>
          exact .absent ⟨one, Or.inr ⟨isSuccess, members, isObject ▸ read, finds⟩⟩
      | something form body finds =>
          refine .success ?_ isSuccess ?_ form body
          · rintro ⟨one, missing | ⟨-, others, isObject, found⟩⟩
            · exact there missing
            · obtain ⟨members, same, unfound⟩ := finds one
              rw [read, same] at isObject
              cases isObject
              exact unfound found
          · intro one
            obtain ⟨members, same, -⟩ := finds one
            exact ⟨members, same ▸ read⟩
      | unusable fault plain noObject =>
          refine .unusable ?_ isSuccess fault plain
          rintro ⟨one, missing | ⟨-, members, isObject, -⟩⟩
          · exact there missing
          · rw [read] at isObject
            exact noObject one members (Except.ok.inj isObject)

/-- Every response that can be read is of one class, which decides what is made of it. -/
theorem class_answerTo {received : Received} (action : Action) (shallow : received.IsShallow) :
    Class received action (action.answerTo received) := by
  -- Absence is looked for before the request has to succeed.
  by_cases missing : action.isForOne = true ∧ received.IsMissing
  · have absent : action.answerTo received = .error (.refused .notFound) := by
      simp [answerTo, looksForAbsence, missing.1,
        Received.reportsAbsence_of_isMissing shallow missing.2, bind, Except.bind]
    rw [absent]
    exact .absent ⟨missing.1, Or.inl missing.2⟩
  have looked : action.looksForAbsence received = .ok false := by
    unfold looksForAbsence
    split
    next one => exact Received.reportsAbsence_of_not_isMissing fun gone => missing ⟨one, gone⟩
    next => rfl
  cases isSuccess : received.response.isSuccess with
  | true =>
      have read : action.answerTo received = received.json >>= action.answerIn := by
        simp [answerTo, looked, Received.requireSuccess, isSuccess, bind, Except.bind]
      rw [read]
      exact class_of_isSuccess action isSuccess
  | false =>
      have rejected : action.answerTo received = .error (.rejected received) := by
        simp [answerTo, looked, Received.requireSuccess, isSuccess, bind, Except.bind]
      rw [rejected]
      refine .rejected ?_ isSuccess
      rintro ⟨one, gone | ⟨success, -⟩⟩
      · exact missing ⟨one, gone⟩
      · rw [isSuccess] at success
        cases success

end Action

namespace Connection

/-! ## Answers over a connection -/

theorem hostFault?_plain {first second : Text} {fault : Fault}
    (faulty : hostFault? first second = some fault) : fault.isPlain = true := by
  obtain ⟨label, -, rfl⟩ := Option.map_eq_some_iff.mp faulty
  rfl

theorem redirectFault?_plain {url : Url} {response : Http.Response} {fault : Fault}
    (faulty : redirectFault? url response = some fault) : fault.isPlain = true := by
  obtain ⟨location, -, faulty⟩ := Option.bind_eq_some_iff.mp faulty
  split at faulty
  · cases faulty
    rfl
  · split at faulty
    · split at faulty
      next hostFault _ =>
        cases faulty
        exact hostFault?_plain ‹_›
      next => cases faulty; rfl
      next => cases faulty
    · exact hostFault?_plain faulty

/-- The response with the body that was coded, if its headers and its codings are in order. -/
def delivered (response : Http.Response) : Except Fault Http.Response :=
  match response.headerFault? with
  | some fault => .error (.unencodable fault)
  | none => response.expanded.mapError .coding

theorem receive_eq (url : Url) (response : Http.Response) :
    receive url (.response response) = match delivered response with
      | .error fault => .error (.fault fault)
      | .ok expanded => match redirectFault? url expanded with
          | some fault => .error (.fault fault)
          | none => .ok ⟨url.write, expanded⟩ := by
  simp only [receive, delivered]
  cases response.headerFault? with
  | some fault => rfl
  | none =>
      cases response.expanded with
      | error fault => rfl
      | ok expanded => rfl

theorem delivered_error_plain {response : Http.Response} {fault : Fault}
    (failed : delivered response = .error fault) : fault.isPlain = true := by
  unfold delivered at failed
  split at failed
  · cases failed
    rfl
  · cases expanded : response.expanded with
    | ok result =>
        rw [expanded] at failed
        cases failed
    | error coding =>
        rw [expanded] at failed
        cases failed
        rfl

theorem status_of_delivered {response expanded : Http.Response}
    (came : delivered response = .ok expanded) : expanded.status = response.status := by
  unfold delivered at came
  split at came
  · cases came
  · obtain ⟨body, -, same⟩ :=
      (Outcome.bind_eq_ok_iff _ _ _).mp ((Outcome.mapError_eq_ok_iff _ _ _).mp came)
    cases same
    rfl

theorem receive_error_plain {url : Url} {response : Http.Response} {abort : Abort}
    (failed : receive url (.response response) = .error abort) :
    ∃ fault, abort = .fault fault ∧ fault.isPlain = true := by
  rw [receive_eq] at failed
  split at failed
  next fault undelivered =>
    cases failed
    exact ⟨fault, rfl, delivered_error_plain undelivered⟩
  next =>
    split at failed
    next fault redirects =>
      cases failed
      exact ⟨fault, rfl, redirectFault?_plain redirects⟩
    next => cases failed

/-! The operations of a connection read a response and present what they read.  Taken together,
that is what their action makes of the response. -/

section Reading

variable {received : Received} {action : Action} {α : Type}

theorem answerTo_eq_readAnswer (other : action.isForOne = false) (read : Json → Except Fault α)
    (answer : α → Except Fault Envelope)
    (same : ∀ value, action.answerIn value = read value >>= answer) :
    readAnswer read received >>= answer = action.answerTo received := by
  simp only [Action.answerTo, Action.looksForAbsence, other, readAnswer, bind, Except.bind]
  cases received.requireSuccess with
  | error fault => rfl
  | ok passed =>
      cases received.json with
      | error fault => rfl
      | ok value => exact (same value).symm

theorem answerTo_eq_readFound (one : action.isForOne = true) (absent : α)
    (read : Json → Except Fault α) (answer : α → Except Fault Envelope)
    (nothing : answer absent = .error (.refused .notFound))
    (same : ∀ value, action.answerIn value = read value >>= answer) :
    readFound absent read received >>= answer = action.answerTo received := by
  simp only [Action.answerTo, Action.looksForAbsence, one, readFound, readAnswer, bind, Except.bind]
  cases received.reportsAbsence with
  | error fault => rfl
  | ok gone =>
      cases gone with
      | true => exact nothing
      | false =>
          cases received.requireSuccess with
          | error fault => rfl
          | ok passed =>
              cases received.json with
              | error fault => rfl
              | ok value => exact (same value).symm

end Reading

def documentAnswer : Option Json → Except Fault Envelope
  | some document => Action.written .json (documentText documentRoom document)
  | none => .error (.refused .notFound)

section Perform

variable {connection : Connection} {action : Action} {url : Url} {written : Text}
  {reply : Http.Reply}

theorem present_exchange_outcome {α : Type} {log : α → List LogRecord}
    {shown : α → Except Abort Envelope} {read : Received → Except Fault α}
    (prepared : connection.prepare action.segments action.body = .ok (url, written))
    (replied : connection.script.head? = some reply) (method : Http.Method)
    (answer : α → Except Fault Envelope)
    (same : ∀ result, shown result = (answer result).mapError .fault)
    (reads : ∀ received, read received >>= answer = action.answerTo received) :
    (Action.present (exchange method action.segments action.body read connection) log
      shown).outcome = match receive url reply with
      | .error abort => .error abort
      | .ok received => (action.answerTo received).mapError .fault := by
  cases came : receive url reply with
  | error abort => simp [Action.present, exchange, prepared, send, replied, came]
  | ok received =>
      change _ = (action.answerTo received).mapError Abort.fault
      rw [← reads received]
      cases result : read received with
      | error fault =>
          simp [Action.present, exchange, prepared, send, replied, came, result, bind, Except.bind,
            Except.mapError]
      | ok result =>
          simp [Action.present, exchange, prepared, send, replied, came, result, bind, Except.bind,
            Except.mapError, same]

/-- An action whose request is sent answers with what it makes of the response. -/
theorem perform_outcome
    (prepared : connection.prepare action.segments action.body = .ok (url, written))
    (replied : connection.script.head? = some reply) :
    (action.perform engine connection).outcome = match receive url reply with
      | .error abort => .error abort
      | .ok received => (action.answerTo received).mapError .fault := by
  cases action with
  | get address =>
      refine present_exchange_outcome prepared replied .get documentAnswer ?_
        fun received => answerTo_eq_readFound rfl none _ _ rfl fun value => rfl
      intro result
      cases result with
      | none => rfl
      | some document => rfl
  | count scope body =>
      exact present_exchange_outcome prepared replied .post
        (fun hits => Action.written .text (integerText hits.total)) (fun result => rfl)
        fun received => answerTo_eq_readAnswer rfl _ _ fun value => rfl
  | search scope body =>
      exact present_exchange_outcome prepared replied .post
        (fun hits => Action.written .table (tableText cellRoom hits.documents)) (fun result => rfl)
        fun received => answerTo_eq_readAnswer rfl _ _ fun value => rfl
  | index target document =>
      obtain ⟨index, type, id⟩ := target
      cases id with
      | none =>
          exact present_exchange_outcome prepared replied .post (fun id => .ok (.success .text id))
            (fun result => rfl) fun received => answerTo_eq_readAnswer rfl _ _ fun value => rfl
      | some id =>
          exact present_exchange_outcome prepared replied .put (fun id => .ok (.success .text id))
            (fun result => rfl) fun received => answerTo_eq_readAnswer rfl _ _ fun value => rfl
  | delete address =>
      refine present_exchange_outcome prepared replied .delete
        (fun found =>
          if found then .ok (.success .text address.id) else .error (.refused .notFound)) ?_
        fun received => answerTo_eq_readFound rfl false _ _ rfl fun value => rfl
      intro result
      cases result with
      | false => rfl
      | true => rfl

end Perform

/-! ## Responses to lines -/

/-- What a response leads to: a success only if it is one, no such document exactly if it tells
so, and otherwise an error of the engine, which for a rejection consists of the status and the
text of the response. -/
structure IsClassified (received : Received) (action : Action) (envelope : Envelope) : Prop where
  success : envelope.isSuccess = true → received.response.isSuccess = true
  absent : envelope.errorKind = some ErrorKind.notFound.name ↔ action.IsToldAbsent received
  rejected : received.response.isSuccess = false → ¬action.IsToldAbsent received →
    ∃ content, received.response.content = .ok content ∧
      envelope = engineFailure (Text.ofNat received.response.status ++ text " " ++ content)
  unusable : received.response.isSuccess = true → action.isForOne = true →
    ¬received.HoldsObject → envelope.errorKind = some ErrorKind.engineError.name

section Answers

variable {received : Received} {action : Action}

theorem isClassified_absent (told : action.IsToldAbsent received) :
    IsClassified received action (.refused .notFound) where
  success := nofun
  absent := ⟨fun _ => told, fun _ => rfl⟩
  rejected _ untold := absurd told untold
  unusable isSuccess _ noObject := by
    obtain ⟨-, missing | ⟨-, members, isObject, -⟩⟩ := told
    · rw [Received.isSuccess_of_isMissing missing] at isSuccess
      cases isSuccess
    · exact absurd ⟨members, isObject⟩ noObject

theorem isClassified_success (untold : ¬action.IsToldAbsent received)
    (isSuccess : received.response.isSuccess = true)
    (usable : action.isForOne = true → received.HoldsObject) (form : ContentType) (body : Text) :
    IsClassified received action (.success form body) where
  success _ := isSuccess
  absent := ⟨nofun, fun told => absurd told untold⟩
  rejected failure := by
    rw [isSuccess] at failure
    cases failure
  unusable _ one noObject := absurd (usable one) noObject

theorem not_notFound_of_engineFailure (message : Text) :
    (engineFailure message).errorKind ≠ some ErrorKind.notFound.name := by
  have names : ErrorKind.engineError.name ≠ ErrorKind.notFound.name := by decide
  intro kind
  exact names (Option.some.inj kind)

theorem isClassified_unusable (untold : ¬action.IsToldAbsent received)
    (isSuccess : received.response.isSuccess = true) (message : Text) :
    IsClassified received action (engineFailure message) where
  success := nofun
  absent := ⟨fun kind => absurd kind (not_notFound_of_engineFailure message),
    fun told => absurd told untold⟩
  rejected failure := by
    rw [isSuccess] at failure
    cases failure
  unusable _ _ _ := rfl

theorem isClassified_rejected {content : Text} (untold : ¬action.IsToldAbsent received)
    (failure : received.response.isSuccess = false)
    (readable : received.response.content = .ok content) :
    IsClassified received action
      (engineFailure (Text.ofNat received.response.status ++ text " " ++ content)) where
  success := nofun
  absent := ⟨fun kind => absurd kind (not_notFound_of_engineFailure _),
    fun told => absurd told untold⟩
  rejected _ _ := ⟨content, readable, rfl⟩
  unusable isSuccess := by
    rw [failure] at isSuccess
    cases isSuccess

/-- The response need not be shown, or else its text can be read. -/
def IsReportable (received : Received) (action : Action) : Prop :=
  received.response.isSuccess = true ∨ action.IsToldAbsent received ∨
    ∃ content, received.response.content = .ok content

theorem answer_rejected (received : Received) :
    Fault.answer (.rejected received) = match received.response.content with
      | .ok content =>
          .ok (engineFailure (Text.ofNat received.response.status ++ text " " ++ content))
      | .error unreadable => .error (.fault (.charset unreadable)) := by
  cases read : received.response.content with
  | ok content =>
      simp [Fault.answer, Fault.report, Received.summary, read, engineFailure, Except.map]
  | error unreadable => simp [Fault.answer, Fault.report, Received.summary, read, Except.map]

theorem isClassified_iff_isReportable {outcome : Except Fault Envelope}
    (ofClass : action.Class received outcome) :
    (∃ envelope, answerOf outcome = .ok envelope ∧ IsClassified received action envelope) ↔
      IsReportable received action := by
  cases ofClass with
  | absent told =>
      exact ⟨fun _ => Or.inr (Or.inl told), fun _ => ⟨_, rfl, isClassified_absent told⟩⟩
  | success untold isSuccess usable form body =>
      exact ⟨fun _ => Or.inl isSuccess,
        fun _ => ⟨_, rfl, isClassified_success untold isSuccess usable form body⟩⟩
  | unusable untold isSuccess fault plain =>
      exact ⟨fun _ => Or.inl isSuccess,
        fun _ => ⟨_, Fault.answer_of_isPlain plain, isClassified_unusable untold isSuccess _⟩⟩
  | rejected untold failure =>
      change (∃ envelope, Fault.answer (.rejected received) = .ok envelope ∧ _) ↔ _
      rw [answer_rejected]
      cases read : received.response.content with
      | ok content =>
          exact ⟨fun _ => Or.inr (Or.inr ⟨content, read⟩),
            fun _ => ⟨_, rfl, isClassified_rejected untold failure read⟩⟩
      | error unreadable =>
          constructor
          · rintro ⟨envelope, answered, -⟩
            cases answered
          · rintro (isSuccess | told | ⟨content, readable⟩)
            · rw [failure] at isSuccess
              cases isSuccess
            · exact absurd told untold
            · rw [read] at readable
              cases readable

end Answers

section Lines

variable {line : Text} {connection : Connection} {action : Action} {url : Url} {written : Text}
  {reply : Http.Reply}

theorem interpret_outcome (acts : Action.ofLine line = .ok action)
    (prepared : connection.prepare action.segments action.body = .ok (url, written))
    (replied : connection.script.head? = some reply) :
    (Engine.interpret engine line connection).outcome = match receive url reply with
      | .error (.interruption interruption) => .error (.interruption interruption)
      | .error (.fault fault) => fault.answer
      | .ok received => answerOf (action.answerTo received) := by
  rw [Engine.interpret_outcome_eq, Engine.execute_of_action acts, perform_outcome prepared replied]
  cases receive url reply with
  | error abort => cases abort with
      | fault fault => rfl
      | interruption interruption => rfl
  | ok received =>
      cases answered : action.answerTo received with
      | ok envelope => simp only [Except.mapError, answerOf, answered]
      | error fault => simp only [Except.mapError, answerOf, answered]

theorem status_of_receive {response : Http.Response} {received : Received}
    (came : receive url (.response response) = .ok received) :
    received.response.status = response.status := by
  rw [receive_eq] at came
  split at came
  · cases came
  next expanded delivers =>
    split at came
    · cases came
    · cases came
      exact status_of_delivered delivers

/-- A response that the HTTP client hands over and that does not nest too deep is classified
by its status and its body, exactly when what is reported of it can be read. -/
theorem response_is_classified_iff {request : Http.Request} {response : Http.Response}
    (sends : request ∈ sentBy line connection)
    (replied : connection.script.head? = some (.response response)) :
    ∃ action url, Action.ofLine line = .ok action ∧ request.method = action.method ∧
      request.url = url.write ∧
      match receive url (.response response) with
      | .ok received => received.response.status = response.status ∧ (received.IsShallow →
          ((∃ envelope, (Engine.interpret engine line connection).outcome = .ok envelope ∧
            IsClassified received action envelope) ↔ IsReportable received action))
      | .error abort => ∃ fault, abort = .fault fault ∧
          (Engine.interpret engine line connection).outcome =
            .ok (engineFailure fault.message) := by
  obtain ⟨action, url, written, acts, prepared, rfl⟩ := (mem_sentBy_iff _ _ _).mp sends
  refine ⟨action, url, acts, rfl, rfl, ?_⟩
  have outcome := interpret_outcome acts prepared replied
  cases came : receive url (.response response) with
  | error abort =>
      obtain ⟨fault, rfl, plain⟩ := receive_error_plain came
      rw [came] at outcome
      exact ⟨fault, rfl, outcome.trans (Fault.answer_of_isPlain plain)⟩
  | ok received =>
      refine ⟨status_of_receive came, ?_⟩
      intro shallow
      rw [outcome, came]
      exact isClassified_iff_isReportable (action.class_answerTo shallow)

end Lines

def answeredBy (response : Http.Response) : Connection :=
  ⟨⟨text "localhost", 9200, text "docs", .ofRatio false 30 1⟩, true, [.response response], []⟩

def documentRequest : Http.Request :=
  ⟨.get, text "http://localhost:9200/logs/event/1", [], .ofRatio false 30 1⟩

def noIndex : Http.Response := ⟨404, [], Utf8.spell (text "\x7b\"error\":\"no such index\"\x7d")⟩

theorem missing_index_is_classified :
    documentRequest ∈ sentBy (text "get /logs/event/1") (answeredBy noIndex) ∧
      ∃ envelope, (Engine.interpret engine (text "get /logs/event/1")
          (answeredBy noIndex)).outcome = .ok envelope ∧
        IsClassified ⟨documentRequest.url, noIndex⟩
          (.get ⟨text "logs", text "event", text "1"⟩) envelope := by
  have sends : documentRequest ∈ sentBy (text "get /logs/event/1") (answeredBy noIndex) := by
    decide +kernel
  refine ⟨sends, ?_⟩
  obtain ⟨action, url, acts, -, same, isClassified⟩ := response_is_classified_iff sends rfl
  have isGet : Action.ofLine (text "get /logs/event/1") =
      .ok (.get ⟨text "logs", text "event", text "1"⟩) := by rfl
  cases acts.symm.trans isGet
  have came : receive url (.response noIndex) = .ok ⟨url.write, noIndex⟩ := by rfl
  rw [came, ← same] at isClassified
  have readable : noIndex.content = .ok (text "\x7b\"error\":\"no such index\"\x7d") := by
    decide +kernel
  have isJson : (Received.json ⟨documentRequest.url, noIndex⟩).toOption.isSome = true := by
    decide +kernel
  refine (isClassified.2 ?_).mpr (Or.inr (Or.inr ⟨_, readable⟩))
  intro container tooDeep
  rw [tooDeep] at isJson
  cases isJson

/-- A failure whose text lacks the mark of its charset. -/
def unreadableFailure : Http.Response :=
  ⟨500, [(text "content-type", text "text/plain; charset=utf-16")], Utf8.spell (text "oops")⟩

/-- A rejection with a text that cannot be read gets no answer. -/
theorem unreadable_failure_is_not_answered :
    documentRequest ∈ sentBy (text "get /logs/event/1") (answeredBy unreadableFailure) ∧
      unreadableFailure.isSuccess = false ∧
      Received.IsShallow ⟨documentRequest.url, unreadableFailure⟩ ∧
      ¬∃ envelope, (Engine.interpret engine (text "get /logs/event/1")
        (answeredBy unreadableFailure)).outcome = .ok envelope := by
  have unanswered : (Engine.interpret engine (text "get /logs/event/1")
      (answeredBy unreadableFailure)).outcome =
        .error (.fault (.charset (.noMark (text "UTF-16")))) := by
    decide +kernel
  have noJson : Received.json ⟨documentRequest.url, unreadableFailure⟩ =
      .error (.json (.malformed .expectedValue ⟨1, 1, 0⟩)) := by
    rfl
  refine ⟨by decide +kernel, by decide, ?_, ?_⟩
  · intro container tooDeep
    rw [noJson] at tooDeep
    cases tooDeep
  · rintro ⟨envelope, answered⟩
    rw [unanswered] at answered
    cases answered

end Connection

end SearchShell
