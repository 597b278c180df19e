import SearchShell.Proofs.Engine.Addressing
import SearchShell.Proofs.Engine.Lifecycle
import SearchShell.Proofs.Engine.Reports

/-!
# What lines may ask for

A line asks the server at most once, whatever comes of it, and its verb decides how.  Whoever only
reads never puts or deletes anything, and posts only to where searches are made: no name in a path
leads away from there.  A host that brings a query is the exception, as it takes the names of the
path into its query.
-/

set_option autoImplicit false

namespace SearchShell

def Verb.isReading : Verb → Bool
  | get | count | search => true
  | index | delete => false

namespace Connection

/-- The last thing that the address names is the mark of a search. -/
inductive IsSearchAddress (settings : Settings) (address : Text) : Prop
  | path {resource : List Text} {base url : Url} (made : IsAddress settings resource base url)
      (written : address = url.write) (ends : Path.lastPart? url.path = some (text "_search"))
  /-- The host brings a query, in which the names of the path stand. -/
  | query {resource : List Text} {base url : Url} {query : Text}
      (marked : CodePoint.ofChar '?' ∈ settings.host)
      (made : IsAddress settings resource base url) (written : address = url.write)
      (given : url.query = some query) (ends : Path.lastPart? query = some (text "_search"))

def Permits (settings : Settings) (verb : Verb) (parts : List Text) (request : Http.Request) :
    Prop :=
  match verb with
  | .get => request.method = .get
  | .count | .search => request.method = .post ∧ IsSearchAddress settings request.url
  | .index =>
      request.method = .put ∧ parts.length = 3 ∨ request.method = .post ∧ parts.length = 2
  | .delete => request.method = .delete

def IsReadRequest (settings : Settings) (request : Http.Request) : Prop :=
  request.method = .get ∨ request.method = .post ∧ IsSearchAddress settings request.url

/-! ## Addresses of searches -/

theorem searchedParts_concat (containers collections : List Text) :
    ∃ before, searchedParts containers collections = before ++ [text "_search"] := by
  unfold searchedParts
  split
  · split
    · exact ⟨[], rfl⟩
    · exact ⟨[_], rfl⟩
  · exact ⟨[_, _], rfl⟩

theorem isSearchAddress_of_isAddress {settings : Settings} {before : List Text} {base url : Url}
    (address : IsAddress settings (before ++ [text "_search"]) base url)
    (named : ∀ segment ∈ before ++ [text "_search"], segment ≠ []) :
    IsSearchAddress settings url.write := by
  obtain ⟨parts, reference, escapes, isReference, asked, below⟩ :=
    address.reference (by simp) named
  obtain ⟨first, rfl⟩ : ∃ first, parts = first ++ [text "_search"] := escapes.concat (by decide)
  have isBase := isBase_of_base address.isBase
  have undotted : ¬Path.IsDotSegment (text "_search") := by decide
  -- A query of the base takes all names of the path in, and none is resolved there.
  cases given : base.query with
  | none =>
      exact .path address rfl
        (Url.lastPart?_path_of_below isBase isReference undotted given asked below)
  | some query =>
      obtain ⟨marked, front, rfl⟩ := query_of_base address.isBase given
      obtain ⟨whole, isQuery, ends⟩ :=
        Url.lastPart?_query_of_below isBase isReference given asked below
      exact .query marked address rfl isQuery ends

/-! ## Requests of lines -/

theorem interpret_sent (line : Text) (connection : Connection) :
    (Engine.interpret engine line connection).state.sent =
      connection.sent ++ sentBy line connection := by
  rw [sentBy, Engine.interpret_state_eq, Engine.execute_state]
  cases Action.ofLine line with
  | error fault => simp
  | ok action =>
      simp only [perform_state]
      cases connection.prepare action.segments action.body with
      | error fault => simp
      | ok prepared => simp [send]

theorem permits_of_prepare {line : Text} {action : Action} {connection : Connection} {url : Url}
    {written : Text} (decided : Action.ofLine line = .ok action)
    (prepared : connection.prepare action.segments action.body = .ok (url, written)) :
    ∃ parts, asked? line = some (action.verb, parts) ∧ Permits connection.settings action.verb parts
      ⟨action.method, url.write, written, connection.settings.timeout⟩ := by
  obtain ⟨base, address⟩ := isAddress_of_prepare prepared
  have named := (resourceOf?_of_ofLine decided).2
  have searched {containers collections : List Text}
      (segments : action.segments = searchedParts containers collections) :
      IsSearchAddress connection.settings url.write := by
    obtain ⟨before, marked⟩ := searchedParts_concat containers collections
    rw [segments, marked] at address named
    exact isSearchAddress_of_isAddress address named
  cases asks_of_ofLine decided with
  | get asked => exact ⟨_, asked, rfl⟩
  | delete asked => exact ⟨_, asked, rfl⟩
  | count asked =>
      exact ⟨_, asked, rfl, searched (searchSegments_eq _ fun _ => listedNames_ne_nil)⟩
  | search asked =>
      exact ⟨_, asked, rfl, searched (searchSegments_eq _ fun _ => listedNames_ne_nil)⟩
  | @index _ _ id _ asked payload =>
      refine ⟨_, asked, ?_⟩
      cases id with
      | none => exact .inr ⟨rfl, rfl⟩
      | some id => exact .inl ⟨rfl, rfl⟩

theorem sentBy_permitted (line : Text) (connection : Connection) :
    sentBy line connection = [] ∨ ∃ request verb parts, sentBy line connection = [request] ∧
      asked? line = some (verb, parts) ∧ Permits connection.settings verb parts request := by
  cases decided : Action.ofLine line with
  | error fault =>
      left
      rw [List.eq_nil_iff_forall_not_mem]
      intro request sends
      obtain ⟨action, _, _, acts, -⟩ := (mem_sentBy_iff line connection request).mp sends
      rw [decided] at acts
      cases acts
  | ok action =>
      rw [sentBy_of_action decided]
      cases prepared : connection.prepare action.segments action.body with
      | error fault => exact .inl rfl
      | ok ready =>
          obtain ⟨parts, asked, permits⟩ := permits_of_prepare decided prepared
          exact .inr ⟨_, action.verb, parts, rfl, asked, permits⟩

/-! ## Reading -/

theorem Permits.isReadRequest {settings : Settings} {verb : Verb} {parts : List Text}
    {request : Http.Request} (permits : Permits settings verb parts request)
    (reads : verb.isReading = true) : IsReadRequest settings request := by
  cases verb with
  | get => exact .inl permits
  | count | search => exact .inr permits
  | index | delete => cases reads

def IsReadingLine (line : Text) : Prop :=
  ∀ verb parts, asked? line = some (verb, parts) → verb.isReading = true

def Step.IsReading : Step → Prop
  | connect | close | check => True
  | within line => ∀ read ∈ line, IsReadingLine read
  | interpret line => IsReadingLine line
  | handle _ _ | get _ | search _ _ | index _ _ | delete _ => False

/-- What the second connection has sent beyond the first are read requests. -/
def Reads (before after : Connection) : Prop :=
  ∀ request ∈ after.sent, request ∈ before.sent ∨ IsReadRequest before.settings request

theorem interpret_reads {line : Text} (reading : IsReadingLine line) (connection : Connection) :
    Reads connection (Engine.interpret engine line connection).state := by
  intro request member
  rw [interpret_sent, List.mem_append] at member
  refine member.imp id fun sends => ?_
  rcases sentBy_permitted line connection with none | ⟨sent, verb, parts, one, asked, permits⟩
  · rw [none] at sends
    cases sends
  · rw [one, List.mem_singleton] at sends
    exact sends ▸ permits.isReadRequest (reading verb parts asked)

theorem connect_reads (connection : Connection) : Reads connection connection.connect.state := by
  have root : Reads connection (askRoot { connection with isOpen := true }).state := by
    unfold askRoot
    split
    · exact fun request => .inl
    · split
      · exact fun request => .inl
      · intro request member
        rcases List.mem_append.mp member with before | now
        · exact .inl before
        · rw [List.mem_singleton.mp now]
          exact .inr (.inl rfl)
  unfold connect
  split
  · exact fun request => .inl
  · simp only
    split
    · exact root
    · exact root
    · exact root

theorem Reads.trans {first second third : Connection} (before : Reads first second)
    (after : Reads second third) (settings : second.settings = first.settings) :
    Reads first third := by
  intro request member
  rcases after request member with inSecond | now
  · exact before request inSecond
  · exact .inr (settings ▸ now)

theorem Step.run_reads {step : Step} (reading : step.IsReading) (connection : Connection) :
    Reads connection (step.run connection).state := by
  cases step with
  | connect => exact connect_reads connection
  | close | check => exact fun request => .inl
  | interpret line => exact interpret_reads reading connection
  | within line =>
      have opening := connect_reads connection
      simp only [run]
      split
      · exact opening
      · cases line with
        | none => exact opening
        | some line =>
            exact opening.trans (interpret_reads (reading line rfl) connection.connect.state)
              (connect_settings connection)
  | handle | get | search | index | delete => exact reading.elim

def sentDuring (steps : List (Step × List Http.Reply)) (connection : Connection) :
    List Http.Request :=
  (runSteps steps connection).flatMap fun done => done.state.sent

theorem sentDuring_reads : ∀ {steps : List (Step × List Http.Reply)} {connection : Connection},
    (∀ step ∈ steps, step.1.IsReading) →
      ∀ request ∈ sentDuring steps connection, IsReadRequest connection.settings request := by
  -- What a search address is depends on the settings, which every step keeps.
  intro steps
  induction steps with
  | nil => exact fun _ _ none => nomatch none
  | cons first rest ih =>
      obtain ⟨step, script⟩ := first
      intro connection reading request member
      have settings : (step.run (connection.withScript script)).state.settings =
          connection.settings := Step.run_settings step (connection.withScript script)
      rcases List.mem_append.mp member with now | later
      · have reads := Step.run_reads (reading (step, script) (by simp))
          (connection.withScript script)
        exact (reads request now).resolve_left (by simp [withScript])
      · have read := ih (fun next inRest => reading next (by simp [inRest])) request later
        exact settings ▸ read

/-- Whatever the state of a connection and the replies to come, a line sends at most one request,
which is one that its verb may make.  In no run of steps that read is anything sent but what reads,
whatever the paths and payloads of the lines and whatever is replied. -/
theorem lines_send_permitted_requests (line : Text) (connection : Connection)
    (steps : List (Step × List Http.Reply)) (reading : ∀ step ∈ steps, step.1.IsReading) :
    (∃ sent, (Engine.interpret engine line connection).state.sent = connection.sent ++ sent ∧
      (sent = [] ∨ ∃ request verb parts, sent = [request] ∧ asked? line = some (verb, parts) ∧
        Permits connection.settings verb parts request)) ∧
      ∀ request ∈ sentDuring steps connection, IsReadRequest connection.settings request :=
  ⟨⟨_, interpret_sent line connection, sentBy_permitted line connection⟩, sentDuring_reads reading⟩

/-- A search below dots is still a search, and its failure is not followed by another try. -/
theorem search_below_dots_only_reads :
    let steps : List (Step × List Http.Reply) :=
      [(.interpret (text "count /../.."), [unforeseenReply]),
        (.interpret (text "get /logs/event/1"), [])]
    (∀ step ∈ steps, step.1.IsReading) ∧
      sentDuring steps atLocalhost =
        [⟨.post, text "http://localhost:9200/_search", text "\x7b\"size\":0\x7d",
            .ofRatio false 30 1⟩,
          ⟨.get, text "http://localhost:9200/logs/event/1", [], .ofRatio false 30 1⟩] ∧
      ∀ request ∈ sentDuring steps atLocalhost, IsReadRequest atLocalhost.settings request := by
  intro steps
  have counts : asked? (text "count /../..") = some (.count, [text "..", text ".."]) := by
    decide +kernel
  have gets : asked? (text "get /logs/event/1") =
      some (.get, [text "logs", text "event", text "1"]) := by decide +kernel
  have reads {line : Text} {verb : Verb} {parts : List Text}
      (asked : asked? line = some (verb, parts)) (isReading : verb.isReading = true) :
      IsReadingLine line := by
    intro other otherParts same
    cases asked.symm.trans same
    exact isReading
  have reading : ∀ step ∈ steps, step.1.IsReading := by
    intro step member
    simp only [steps, List.mem_cons, List.not_mem_nil, or_false] at member
    rcases member with rfl | rfl
    · exact reads counts rfl
    · exact reads gets rfl
  exact ⟨reading, by decide +kernel,
    (lines_send_permitted_requests (text "count /../..") atLocalhost steps reading).2⟩

/-- If the host brings a query, a search is posted to the root. -/
theorem search_is_posted_to_root :
    let settings : Settings := ⟨text "es?x=1", 9200, text "docs", .ofRatio false 30 1⟩
    asked? (text "count /a") = some (.count, [text "a"]) ∧
      ∃ request ∈ sentBy (text "count /a") ⟨settings, true, [], []⟩, request.method = .post ∧
        ∃ url, Url.read request.url = .ok url ∧ url.path = text "/" ∧
          Path.lastPart? url.path ≠ some (text "_search") := by
  intro settings
  have sends : ⟨.post, text "http://es/?x=1:9200/a/_search", text "\x7b\"size\":0\x7d",
      .ofRatio false 30 1⟩ ∈ sentBy (text "count /a") ⟨settings, true, [], []⟩ := by
    decide +kernel
  refine ⟨by decide +kernel, _, sends, rfl,
    ⟨text "http", [], text "es", none, text "/", some (text "x=1:9200/a/_search"), none⟩, ?_⟩
  exact ⟨by decide +kernel, rfl, by decide +kernel⟩

end Connection

end SearchShell
