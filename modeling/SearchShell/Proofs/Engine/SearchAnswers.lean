import SearchShell.Proofs.Command.Counting
import SearchShell.Proofs.Engine.Classification
import SearchShell.Proofs.Json.Proper

/-!
# Answers to searches

The answer to a search is read as a whole: each of its hits is a document, or else there is no
result.  A count reads the same answer as the search that it stands for, so that both succeed or
both fail, with the same error.
-/

set_option autoImplicit false

namespace SearchShell

open Http (Received)

namespace Hits

/-! ## What an answer says -/

inductive IsTotal (n : Int) : Json → Prop
  | plain : IsTotal n (.integer n)
  | wrapped {members : Members} (value : Members.get? (text "value") members = some (.integer n)) :
      IsTotal n (.object members)

inductive IsGiven (n : Int) (items : List Json) : Json → Prop
  | intro {answer hits : Members} {total : Json}
      (inAnswer : Members.get? (text "hits") answer = some (.object hits))
      (inHits : Members.get? (text "total") hits = some total) (isTotal : IsTotal n total)
      (listed : Members.get? (text "hits") hits = some (.array items)) :
      IsGiven n items (.object answer)

/-- The document of a hit is its source, or an empty one when that is absent or falsy. -/
inductive IsDocument : Json → Members → Prop
  | source {hit document : Members}
      (given : Members.get? (text "_source") hit = some (.object document)) :
      IsDocument (.object hit) document
  | absent {hit : Members} (absent : Members.get? (text "_source") hit = none) :
      IsDocument (.object hit) []
  | falsy {hit : Members} {source : Json} (given : Members.get? (text "_source") hit = some source)
      (falsy : source.isTruthy = false) : IsDocument (.object hit) []

/-- The hit is no object, or its source is neither an object nor falsy. -/
inductive IsUnusable : Json → Prop
  | noObject {item : Json} (noObject : ∀ hit, item ≠ .object hit) : IsUnusable item
  | noSource {hit : Members} {source : Json}
      (given : Members.get? (text "_source") hit = some source) (truthy : source.isTruthy = true)
      (noObject : ∀ document, source ≠ .object document) : IsUnusable (.object hit)

/-! ## Totals -/

theorem totalOf_eq {hits : Members} {total : Json} {n : Int}
    (inHits : Members.get? (text "total") hits = some total) (isTotal : IsTotal n total) :
    totalOf hits = .ok n := by
  cases isTotal with
  | plain =>
      simp only [totalOf, inHits, Json.isTruthy, Json.toInteger, decide_not, Bool.not_eq_true',
        decide_eq_false_iff_not, ite_not]
      split
      next zero => rw [zero]
      next => rfl
  | wrapped value =>
      simp only [totalOf, inHits, value, Option.getD_some, Json.toInteger]

/-! ## Documents -/

theorem sourceOf_of_absent {hit : Members} (absent : Members.get? (text "_source") hit = none) :
    sourceOf hit = .object [] := by
  simp [sourceOf, Members.getOrNull, absent, Json.isTruthy]

theorem sourceOf_of_source {hit : Members} {source : Json}
    (given : Members.get? (text "_source") hit = some source) :
    sourceOf hit = if source.isTruthy then source else .object [] := by
  simp [sourceOf, Members.getOrNull, given]

theorem sourceOf_eq_object_iff (hit document : Members) :
    sourceOf hit = .object document ↔ IsDocument (.object hit) document := by
  constructor
  · intro isSource
    cases found : Members.get? (text "_source") hit with
    | none =>
        rw [sourceOf_of_absent found] at isSource
        cases isSource
        exact .absent found
    | some source =>
        rw [sourceOf_of_source found] at isSource
        split at isSource
        next truthy =>
          subst isSource
          exact .source found
        next falsy =>
          cases isSource
          exact .falsy found (by simpa using falsy)
  · rintro (given | absent | ⟨given, falsy⟩)
    · rw [sourceOf_of_source given]
      cases document with
      | nil => rfl
      | cons member rest => rfl
    · exact sourceOf_of_absent absent
    · rw [sourceOf_of_source given, falsy]
      rfl

/-- A hit has one document at most. -/
theorem isDocument_rightUnique : Relator.RightUnique IsDocument := by
  intro item first second isFirst isSecond
  cases item with
  | object hit =>
      rw [← sourceOf_eq_object_iff] at isFirst isSecond
      exact Json.object.inj (isFirst.symm.trans isSecond)
  | _ => cases isFirst

theorem source_eq_object_iff (item : Json) (document : Members) :
    item.members.map sourceOf = .ok (.object document) ↔ IsDocument item document := by
  cases item with
  | object hit =>
      rw [← sourceOf_eq_object_iff]
      exact ⟨Except.ok.inj, congrArg Except.ok⟩
  | _ => exact ⟨nofun, nofun⟩

theorem isUnusable_iff (item : Json) : IsUnusable item ↔ ∀ document, ¬IsDocument item document := by
  constructor
  · rintro (noObject | ⟨given, truthy, noObject⟩) document isDocument
    · cases isDocument with
      | source | absent | falsy => exact noObject _ rfl
    · cases isDocument with
      | source other => exact noObject document (Option.some.inj (given.symm.trans other))
      | absent absent =>
          rw [absent] at given
          cases given
      | falsy other falsy =>
          cases given.symm.trans other
          rw [truthy] at falsy
          cases falsy
  · intro none
    cases item with
    | object hit =>
        cases found : Members.get? (text "_source") hit with
        | none => exact absurd (.absent found) (none [])
        | some source =>
            cases truthy : source.isTruthy with
            | false => exact absurd (.falsy found truthy) (none [])
            | true =>
                refine .noSource found truthy ?_
                rintro document rfl
                exact none document (.source found)
    | _ => exact .noObject nofun

/-- Nothing is wrong with sources exactly when all of them are objects. -/
theorem sourceDefects_eq_nil_iff : ∀ (place : Nat) (sources : List Json),
    sourceDefects place sources = [] ↔
      ∃ documents : List Members, sources = documents.map .object := by
  intro place sources
  induction sources generalizing place with
  | nil => exact ⟨fun _ => ⟨[], rfl⟩, fun _ => rfl⟩
  | cons source rest ih =>
      cases source with
      | object document =>
          rw [sourceDefects, ih]
          constructor
          · rintro ⟨documents, rfl⟩
            exact ⟨document :: documents, rfl⟩
          · rintro ⟨documents, same⟩
            cases documents with
            | nil => cases same
            | cons first others => exact ⟨others, (List.cons.inj same).2⟩
      | _ =>
          refine ⟨nofun, ?_⟩
          rintro ⟨documents, same⟩
          cases documents with
          | nil => cases same
          | cons first others => cases (List.cons.inj same).1

theorem documentsOf_map_object (documents : List Members) :
    documentsOf (documents.map .object) = .ok documents := by
  have none := (sourceDefects_eq_nil_iff 0 _).mpr ⟨documents, rfl⟩
  simp only [documentsOf, none, List.isEmpty_nil, if_true, List.filterMap_map]
  exact congrArg Except.ok List.filterMap_some

theorem documentsOf_eq_ok_iff (sources : List Json) (documents : List Members) :
    documentsOf sources = .ok documents ↔ sources = documents.map .object := by
  constructor
  · intro read
    by_cases none : sourceDefects 0 sources = []
    · obtain ⟨others, rfl⟩ := (sourceDefects_eq_nil_iff 0 sources).mp none
      rw [documentsOf_map_object] at read
      rw [Except.ok.inj read]
    · simp [documentsOf, none] at read
  · rintro rfl
    exact documentsOf_map_object documents

/-- The hits of an answer are its total and one document for each item, in order. -/
theorem ofJson_eq_ok_iff {answer : Json} {n : Int} {items : List Json}
    (isGiven : IsGiven n items answer) (hits : Hits) :
    ofJson answer = .ok hits ↔ hits.total = n ∧ List.Forall₂ IsDocument items hits.documents := by
  obtain ⟨inAnswer, inHits, isTotal, listed⟩ := isGiven
  obtain ⟨total, documents⟩ := hits
  have each : List.Forall₂ IsDocument items documents ↔
      List.Forall₂ (fun item source => item.members.map sourceOf = .ok source) items
        (documents.map .object) := by
    simp only [List.forall₂_map_right_iff, source_eq_object_iff]
  simp only [ofJson, Json.members, inAnswer, Option.getD_some, totalOf_eq inHits isTotal, listed,
    Json.items, Outcome.bind_eq_ok_iff, Outcome.mapM_eq_ok_iff, documentsOf_eq_ok_iff,
    Except.ok.injEq, exists_eq_left', Hits.mk.injEq, each]
  constructor
  · rintro ⟨sources, read, others, rfl, rfl, rfl⟩
    exact ⟨rfl, read⟩
  · rintro ⟨rfl, read⟩
    exact ⟨_, read, _, rfl, rfl, rfl⟩

theorem exists_documents {items : List Json}
    (each : ∀ item ∈ items, ∃ document, IsDocument item document) :
    ∃ documents, List.Forall₂ IsDocument items documents := by
  induction items with
  | nil => exact ⟨[], .nil⟩
  | cons item rest ih =>
      obtain ⟨⟨document, isDocument⟩, others⟩ := List.forall_mem_cons.mp each
      obtain ⟨documents, areDocuments⟩ := ih others
      exact ⟨document :: documents, .cons isDocument areDocuments⟩

theorem not_documents_of_isUnusable {item : Json} (unusable : IsUnusable item) {items : List Json}
    (member : item ∈ items) (documents : List Members) :
    ¬List.Forall₂ IsDocument items documents := by
  intro each
  induction each with
  | nil => cases member
  | cons isDocument others ih =>
      rcases List.mem_cons.mp member with rfl | later
      · exact (isUnusable_iff item).mp unusable _ isDocument
      · exact ih later

theorem ofJson_error_of_isUnusable {answer item : Json} {n : Int} {items : List Json}
    (isGiven : IsGiven n items answer) (member : item ∈ items) (unusable : IsUnusable item) :
    ∃ fault, ofJson answer = .error fault := by
  cases read : ofJson answer with
  | error fault => exact ⟨fault, rfl⟩
  | ok hits =>
      have each := ((ofJson_eq_ok_iff isGiven hits).mp read).2
      exact absurd each (not_documents_of_isUnusable unusable member hits.documents)

end Hits

namespace Connection

/-! ## What is read of a response -/

/-- The JSON value that a response holds, whatever address it came from. -/
def jsonOf (response : Http.Response) : Except Fault Json :=
  delivered response >>= fun expanded => Received.json ⟨[], expanded⟩

theorem isSuccess_of_delivered {response expanded : Http.Response}
    (came : delivered response = .ok expanded) : expanded.isSuccess = response.isSuccess := by
  simp only [Http.Response.isSuccess, status_of_delivered came]

theorem redirectFault?_of_isSuccess {response : Http.Response}
    (success : response.isSuccess = true) (url : Url) : redirectFault? url response = none := by
  have stays : response.status ∉ Http.redirectStatuses := by
    simp only [Http.Response.isSuccess, Bool.and_eq_true, decide_eq_true_eq] at success
    simp only [Http.redirectStatuses, List.mem_cons, List.not_mem_nil, or_false]
    omega
  simp [redirectFault?, Http.Response.redirect?, stays]

/-- A successful response is handed over wherever it came from. -/
theorem receive_of_isSuccess {response : Http.Response} (success : response.isSuccess = true)
    (url : Url) : receive url (.response response) = match delivered response with
      | .error fault => .error (.fault fault)
      | .ok expanded => .ok ⟨url.write, expanded⟩ := by
  rw [receive_eq]
  cases came : delivered response with
  | error fault => rfl
  | ok expanded =>
      have passes := (isSuccess_of_delivered came).trans success
      simp only [redirectFault?_of_isSuccess passes]

theorem answerTo_of_isSuccess {received : Received} {action : Action}
    (other : action.isForOne = false) (success : received.response.isSuccess = true) :
    action.answerTo received = received.json >>= action.answerIn := by
  simp [Action.answerTo, Action.looksForAbsence, other, Received.requireSuccess, success, bind,
    Except.bind]

def hitsOf (response : Http.Response) : Except Fault Hits := jsonOf response >>= Hits.ofJson

theorem hitsOf_of_jsonOf {response : Http.Response} {answer : Json}
    (isJson : jsonOf response = .ok answer) : hitsOf response = Hits.ofJson answer := by
  rw [hitsOf, isJson]
  rfl

theorem exists_read_of_hitsOf {response : Http.Response} {hits : Hits}
    (given : hitsOf response = .ok hits) : ∃ answer,
      answer.IsReadable JsonReader.nestingLimit ∧ Hits.ofJson answer = .ok hits := by
  obtain ⟨answer, isJson, read⟩ := (Outcome.bind_eq_ok_iff _ _ _).mp given
  obtain ⟨expanded, -, came⟩ := (Outcome.bind_eq_ok_iff _ _ _).mp isJson
  exact ⟨answer, Received.json_isReadable came, read⟩

theorem hitsOf_error_plain {response : Http.Response} {fault : Fault}
    (failed : hitsOf response = .error fault) : fault.isPlain = true := by
  rcases (Outcome.bind_eq_error_iff _ _ _).mp failed with noJson | ⟨answer, -, noHits⟩
  · rcases (Outcome.bind_eq_error_iff _ _ _).mp noJson with undelivered | ⟨expanded, -, noJson⟩
    · exact delivered_error_plain undelivered
    · exact Received.json_error_plain noJson
  · exact Hits.ofJson_error_plain noHits

/-! ## Searches and counts -/

section Searches

variable {connection : Connection} {request : Url × Text} {response : Http.Response}
  (replied : connection.script.head? = some (.response response))
  (success : response.isSuccess = true)

include replied success

theorem search_outcome {scope : SearchScope} {body : Members}
    (prepared : connection.prepare (searchSegments scope) (some (.object body)) = .ok request) :
    (engine.search scope body connection).outcome = (hitsOf response).mapError .fault := by
  obtain ⟨url, written⟩ := request
  simp only [engine, search, exchange, prepared, send, replied, Option.getD_some,
    receive_of_isSuccess success, hitsOf, jsonOf]
  cases came : delivered response with
  | error fault => rfl
  | ok expanded =>
      have passes := (isSuccess_of_delivered came).trans success
      simp only [readAnswer, Received.requireSuccess, passes]
      rfl

/-- An action that asks for hits is answered by what it shows of the hits that the response
gives, or by the error that there is in them. -/
theorem interpret_of_hitsOf {line : Text} {action : Action} (acts : Action.ofLine line = .ok action)
    (prepared : connection.prepare action.segments action.body = .ok request)
    (other : action.isForOne = false) {shown : Hits → Except Fault Envelope}
    (shows : ∀ answer, action.answerIn answer = Hits.ofJson answer >>= shown) :
    (Engine.interpret engine line connection).outcome =
      answerOf (hitsOf response >>= shown) := by
  obtain ⟨url, written⟩ := request
  rw [interpret_outcome acts prepared replied, receive_of_isSuccess success, hitsOf, jsonOf]
  cases came : delivered response with
  | error fault => rfl
  | ok expanded =>
      have passes := (isSuccess_of_delivered came).trans success
      dsimp only
      rw [answerTo_of_isSuccess other passes]
      change answerOf (Received.json ⟨[], expanded⟩ >>= action.answerIn) =
        answerOf ((Received.json ⟨[], expanded⟩ >>= Hits.ofJson) >>= shown)
      cases Received.json ⟨[], expanded⟩ with
      | error fault => rfl
      | ok answer => exact congrArg answerOf (shows answer)

end Searches

/-- The first line has the path and the payload of the second one, and counts where that one
searches. -/
structure IsCountFor (countLine searchLine : Text) : Prop where
  paths : ∃ parts, asked? countLine = some (.count, parts) ∧
    asked? searchLine = some (.search, parts)
  payloads : payloadOf? countLine = payloadOf? searchLine

theorem IsCountFor.ofLine {countLine searchLine : Text} {scope : SearchScope} {body : Members}
    (isCount : IsCountFor countLine searchLine)
    (searches : Action.ofLine searchLine = .ok (.search scope body)) :
    Action.ofLine countLine =
      .ok (.count scope (Members.put (text "size") (.integer 0) body)) := by
  obtain ⟨parts, counted, searched⟩ := isCount.paths
  obtain ⟨verb, others, asked, chosen⟩ := (ofLine_eq_ok_iff _ _).mp searches
  cases searched.symm.trans asked
  refine (ofLine_eq_ok_iff _ _).mpr ⟨.count, parts, counted, ?_⟩
  simp only [Action.ofCommand, isCount.payloads, Outcome.bind_eq_ok_iff] at chosen ⊢
  obtain ⟨found, isScope, spec, isSpec, same⟩ := chosen
  cases same
  exact ⟨scope, isScope, spec, isSpec, by rw [requestBody_forTotal]⟩

theorem prepare_put {connection : Connection} {segments : List Text} {d : Members} {name : Text}
    {request : Url × Text} (named : name.IsProper) (n : Int)
    (prepared : connection.prepare segments (some (.object d)) = .ok request) :
    ∃ other, connection.prepare segments (some (.object (Members.put name (.integer n) d))) =
      .ok other := by
  obtain ⟨url, written⟩ := request
  obtain ⟨opened, isBody, address⟩ := (prepare_eq_ok_iff _ _ _ _ _).mp prepared
  obtain ⟨other, alsoBody⟩ := bodyText_put isBody named n
  exact ⟨(url, other), (prepare_eq_ok_iff _ _ _ _ _).mpr ⟨opened, alsoBody, address⟩⟩

section Answered

variable {connection : Connection} {scope : SearchScope} {body : Members} {request : Url × Text}
  {response : Http.Response}
  (prepared : connection.prepare (searchSegments scope) (some (.object body)) = .ok request)
  (replied : connection.script.head? = some (.response response))
  (success : response.isSuccess = true)

include prepared replied success

/-- What both lines are answered with: the documents and their total, or the same error. -/
inductive AreAnswers (response : Http.Response) :
    Except Abort Envelope → Except Abort Envelope → Prop
  | hits {hits : Hits} {table : Text} (given : hitsOf response = .ok hits)
      (shown : tableText cellRoom hits.documents = .ok table) :
      AreAnswers response (.ok (.success .table table))
        (.ok (.success .text (Text.ofInt hits.total)))
  | failure {fault : Fault} (failed : hitsOf response = .error fault) :
      AreAnswers response (.ok (engineFailure fault.message)) (.ok (engineFailure fault.message))

theorem interpret_of_isCountFor {countLine searchLine : Text}
    (searches : Action.ofLine searchLine = .ok (.search scope body))
    (isCount : IsCountFor countLine searchLine) :
    AreAnswers response (Engine.interpret engine searchLine connection).outcome
      (Engine.interpret engine countLine connection).outcome := by
  obtain ⟨other, alsoPrepared⟩ := prepare_put (Text.isProper_text "size") 0 prepared
  have searched : (Engine.interpret engine searchLine connection).outcome = answerOf (do
      Action.written .table (tableText cellRoom (← hitsOf response).documents)) :=
    interpret_of_hitsOf replied success searches prepared rfl fun answer => rfl
  have counted : (Engine.interpret engine countLine connection).outcome = answerOf (do
      Action.written .text (integerText (← hitsOf response).total)) :=
    interpret_of_hitsOf replied success (isCount.ofLine searches) alsoPrepared rfl
      fun answer => rfl
  rw [searched, counted]
  cases given : hitsOf response with
  | ok hits =>
      obtain ⟨answer, readable, read⟩ := exists_read_of_hitsOf given
      obtain ⟨table, shown⟩ := Hits.exists_tableText readable read
      simp only [bind, Except.bind, shown, Hits.integerText_total readable read]
      exact .hits given shown
  | error fault =>
      have reported := Fault.answer_of_isPlain (hitsOf_error_plain given)
      simp only [bind, Except.bind, answerOf, reported]
      exact .failure given

/-- A search that is answered with a total and a list of hits gives this total and the document of
each hit, or no result if one of them is unusable.  Its line shows these documents and the count for
it this total, or both the same error; and whatever the answer is, one succeeds when the other
does. -/
theorem search_answer_is_whole :
    (∀ answer n items, jsonOf response = .ok answer → Hits.IsGiven n items answer →
      ((∀ item ∈ items, ∃ document, Hits.IsDocument item document) →
        ∃ documents, List.Forall₂ Hits.IsDocument items documents ∧
          (engine.search scope body connection).outcome = .ok ⟨n, documents⟩) ∧
      ((∃ item ∈ items, Hits.IsUnusable item) →
        ∃ fault, (engine.search scope body connection).outcome = .error (.fault fault))) ∧
    ∀ searchLine countLine, Action.ofLine searchLine = .ok (.search scope body) →
      IsCountFor countLine searchLine →
      let searched := (Engine.interpret engine searchLine connection).outcome
      let counted := (Engine.interpret engine countLine connection).outcome
      ((∃ form shown, counted = .ok (.success form shown)) ↔
        ∃ form shown, searched = .ok (.success form shown)) ∧
      ∀ answer n items, jsonOf response = .ok answer → Hits.IsGiven n items answer →
        (∀ documents, List.Forall₂ Hits.IsDocument items documents →
          (∃ table, tableText cellRoom documents = .ok table ∧
            searched = .ok (.success .table table)) ∧
            counted = .ok (.success .text (Text.ofInt n))) ∧
        ((∃ item ∈ items, Hits.IsUnusable item) → ∃ message,
          searched = .ok (engineFailure message) ∧ counted = .ok (engineFailure message)) := by
  have found := search_outcome replied success prepared
  constructor
  · intro answer n items isJson isGiven
    rw [found, hitsOf_of_jsonOf isJson]
    constructor
    · intro each
      obtain ⟨documents, areDocuments⟩ := Hits.exists_documents each
      have isRead := (Hits.ofJson_eq_ok_iff isGiven ⟨n, documents⟩).mpr ⟨rfl, areDocuments⟩
      exact ⟨documents, areDocuments, by rw [isRead]; rfl⟩
    · rintro ⟨item, member, unusable⟩
      obtain ⟨fault, failed⟩ := Hits.ofJson_error_of_isUnusable isGiven member unusable
      exact ⟨fault, by rw [failed]; rfl⟩
  · intro searchLine countLine searches isCount searched counted
    have answers : AreAnswers response searched counted :=
      interpret_of_isCountFor prepared replied success searches isCount
    clear_value searched counted
    constructor
    · cases answers with
      | hits given shown => exact ⟨fun _ => ⟨_, _, rfl⟩, fun _ => ⟨_, _, rfl⟩⟩
      | failure failed => exact ⟨nofun, nofun⟩
    · intro answer n items isJson isGiven
      have isRead := hitsOf_of_jsonOf isJson
      constructor
      · intro documents each
        have isHits := (Hits.ofJson_eq_ok_iff isGiven ⟨n, documents⟩).mpr ⟨rfl, each⟩
        cases answers with
        | hits given shown =>
            cases given.symm.trans (isRead.trans isHits)
            exact ⟨⟨_, shown, rfl⟩, rfl⟩
        | failure failed => cases failed.symm.trans (isRead.trans isHits)
      · rintro ⟨item, member, unusable⟩
        obtain ⟨fault, noHits⟩ := Hits.ofJson_error_of_isUnusable isGiven member unusable
        cases answers with
        | hits given shown => cases given.symm.trans (isRead.trans noHits)
        | failure failed => exact ⟨_, rfl, rfl⟩

end Answered

def twoHits : Http.Response :=
  ⟨200, [], Utf8.spell (text ("\x7b\"hits\":\x7b\"total\":\x7b\"value\":2\x7d,\"hits\":" ++
    "[\x7b\"_source\":\x7b\"a\":1\x7d\x7d,\x7b\"_source\":null\x7d]\x7d\x7d"))⟩

def stringHit : Http.Response :=
  ⟨200, [], Utf8.spell
    (text "\x7b\"hits\":\x7b\"total\":1,\"hits\":[\x7b\"_source\":\"a\"\x7d]\x7d\x7d")⟩

theorem two_hits_are_whole :
    (engine.search ⟨[text "logs"], []⟩ [] (answeredBy twoHits)).outcome =
        .ok ⟨2, [[(text "a", .integer 1)], []]⟩ ∧
      (Engine.interpret engine (text "count /logs") (answeredBy twoHits)).outcome =
        .ok (.success .text (text "2")) ∧
      (∃ fault, (engine.search ⟨[text "logs"], []⟩ [] (answeredBy stringHit)).outcome =
        .error (.fault fault)) ∧
      ∃ message, (Engine.interpret engine (text "count /logs") (answeredBy stringHit)).outcome =
        .ok (engineFailure message) := by
  let hits : List Json := [.object [(text "_source", .object [(text "a", .integer 1)])],
    .object [(text "_source", .null)]]
  let unusable : Json := .object [(text "_source", .string (text "a"))]
  have searches : Action.ofLine (text "search /logs") = .ok (.search ⟨[text "logs"], []⟩ []) := rfl
  have isCount : IsCountFor (text "count /logs") (text "search /logs") :=
    ⟨⟨[text "logs"], by decide +kernel, by decide +kernel⟩, by decide +kernel⟩
  obtain ⟨first, prepared⟩ := Outcome.exists_ok_of_toOption (x := (answeredBy twoHits).prepare
    (searchSegments ⟨[text "logs"], []⟩) (some (.object []))) (by decide +kernel)
  obtain ⟨second, alsoPrepared⟩ := Outcome.exists_ok_of_toOption
    (x := (answeredBy stringHit).prepare (searchSegments ⟨[text "logs"], []⟩) (some (.object [])))
    (by decide +kernel)
  obtain ⟨answer, isJson, isGiven⟩ :
      ∃ answer, jsonOf twoHits = .ok answer ∧ Hits.IsGiven 2 hits answer :=
    ⟨_, rfl, .intro rfl rfl (.wrapped rfl) rfl⟩
  obtain ⟨other, alsoJson, alsoGiven⟩ :
      ∃ answer, jsonOf stringHit = .ok answer ∧ Hits.IsGiven 1 [unusable] answer :=
    ⟨_, rfl, .intro rfl rfl .plain rfl⟩
  have each : List.Forall₂ Hits.IsDocument hits [[(text "a", .integer 1)], []] :=
    .cons (.source rfl) (.cons (.falsy rfl rfl) .nil)
  have broken : Hits.IsUnusable unusable := .noSource rfl rfl nofun
  obtain ⟨found, lines⟩ := search_answer_is_whole prepared rfl (by decide)
  obtain ⟨notFound, noLines⟩ := search_answer_is_whole alsoPrepared rfl (by decide)
  refine ⟨?_, ?_, ?_, ?_⟩
  · obtain ⟨documents, areDocuments, isFound⟩ := (found _ _ _ isJson isGiven).1 (by
      intro hit member
      rcases List.mem_pair.mp member with rfl | rfl
      · exact ⟨_, .source rfl⟩
      · exact ⟨_, .falsy rfl rfl⟩)
    cases List.right_unique_forall₂' Hits.isDocument_rightUnique areDocuments each
    exact isFound
  · exact (((lines _ _ searches isCount).2 _ _ _ isJson isGiven).1 _ each).2
  · exact (notFound _ _ _ alsoJson alsoGiven).2 ⟨unusable, List.mem_singleton_self _, broken⟩
  · obtain ⟨message, -, counted⟩ := ((noLines _ _ searches isCount).2 _ _ _ alsoJson alsoGiven).2
      ⟨unusable, List.mem_singleton_self _, broken⟩
    exact ⟨message, counted⟩

end Connection

end SearchShell
