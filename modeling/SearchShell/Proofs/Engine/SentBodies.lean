import SearchShell.Proofs.Command.Payloads
import SearchShell.Proofs.Engine.Addressing
import SearchShell.Proofs.Http.Room
import SearchShell.Proofs.Json.Blanks
import SearchShell.Proofs.Json.Proper

/-!
# What is sent reads as what was typed

The body of the one request that is sent for a document or for a search with a size and a query
reads as the object that the line carries, with the size in it.  Only an address that gets too long
keeps the request from being sent.
-/

set_option autoImplicit false

namespace SearchShell

/-! ## Lines that carry objects -/

inductive IsSized : Text → Nat → Members → Prop
  | intro {digits blanks query : Text} {d : Members} (number : digits.isAsciiDigits = true)
      (short : digits.length ≤ digitLimit) (apart : blanks ≠ [])
      (blank : ∀ c ∈ blanks, c.isBlank = true) (read : readObject query = .ok d) :
      IsSized (digits ++ blanks ++ query) digits.asciiNumber d

/-- A line with the parts of its path, the object in its payload, and the object that is to be sent
for it: the same for a document, and the one with the size for a search. -/
inductive Carries (line : Text) : List Text → Members → Members → Prop
  | document {parts : List Text} {payload : Text} {d : Members}
      (asked : asked? line = some (.index, parts)) (arity : parts.length = 2 ∨ parts.length = 3)
      (given : payloadOf? line = some payload) (read : readObject payload = .ok d) :
      Carries line parts d d
  | query {parts : List Text} {payload : Text} {n : Nat} {d : Members}
      (asked : asked? line = some (.search, parts)) (arity : parts.length ≤ 2)
      (given : payloadOf? line = some payload) (sized : IsSized payload n d) :
      Carries line parts d (Members.put (text "size") (.integer n) d)

theorem isShort_asciiNumber {digits : Text} (number : digits.isAsciiDigits = true)
    (short : digits.length ≤ digitLimit) : JsonReader.IsShort digits.asciiNumber := by
  have isRun := (Text.isAsciiDigits_iff digits).mp number
  exact Nat.lt_of_lt_of_le (Text.asciiNumber_lt isRun.2)
    (Nat.pow_le_pow_right (by decide) short)

theorem ofPayload_sized {payload : Text} {n : Nat} {d : Members} (sized : IsSized payload n d)
    (tight : payload.IsTight) : SearchPayload.ofPayload (some payload) = .ok ⟨some n, some d⟩ := by
  cases sized with
  | @intro digits blanks query _ number short apart blank read =>
      have isRun := (Text.isAsciiDigits_iff digits).mp number
      have unbroken : ∀ c ∈ digits, c.isBlank = false := fun c member =>
        CodePoint.isBlank_of_isAsciiDigit (isRun.2 c member)
      have suffix : query.dropWhile CodePoint.isBlank <:+ digits ++ blanks ++ query :=
        (List.dropWhile_suffix _).trans (List.suffix_append _ query)
      have rest : Text.IsTight (query.dropWhile CodePoint.isBlank) :=
        ⟨Text.isLed_dropWhile query, Text.closed_of_suffix suffix tight.closed⟩
      have spaced : Text.IsSpaced [digits] (query.dropWhile CodePoint.isBlank)
          (digits ++ blanks ++ query) := by
        have none : Text.IsGap [] := nofun
        have isGap : Text.IsGap (blanks ++ query.takeWhile CodePoint.isBlank) :=
          Text.IsGap.append blank fun c => List.mem_takeWhile_imp
        have between : blanks ++ query.takeWhile CodePoint.isBlank ≠ [] :=
          List.append_ne_nil_of_left_ne_nil apart _
        have layout := Text.IsSpaced.intro none (.word isRun.1 unbroken isGap
          (fun touching => absurd touching between) (.rest rest none))
        rwa [List.nil_append, List.append_nil, List.append_assoc,
          List.takeWhile_append_dropWhile, ← List.append_assoc] at layout
      have reads := readObject_dropBlanks read
      rw [searchPayload_ofPayload, demandedSearch_eq_ok_iff spaced]
      refine ⟨_, some d, ⟨number, short, rfl⟩, .object ?_ ?_, rfl⟩
      · rw [Text.trim_of_tight rest]
        exact readObject_nonempty reads
      · rw [Text.trim_of_tight rest]
        exact reads

theorem isShort_of_sized {payload : Text} {n : Nat} {d : Members} (sized : IsSized payload n d) :
    JsonReader.IsShort n ∧ Json.IsReadable JsonReader.nestingLimit (.object d) := by
  cases sized with
  | intro number short apart blank read =>
      exact ⟨isShort_asciiNumber number short, readObjectWithin_isReadable read⟩

section Lines

variable {line : Text} {parts : List Text} {d sent : Members}

theorem segments_of_asked {action : Action} {verb : Verb} (acts : Action.ofLine line = .ok action)
    (asked : asked? line = some (verb, parts)) : action.segments = verb.resource parts := by
  have names := (resourceOf?_of_ofLine acts).1
  rw [resourceOf?, asked] at names
  exact (Option.some.inj names).symm

/-- The action of a line that carries an object. -/
theorem Carries.action (carries : Carries line parts d sent) :
    ∃ action verb, Action.ofLine line = .ok action ∧ action.body = some (.object sent) ∧
      asked? line = some (verb, parts) := by
  cases carries with
  | document asked arity given read =>
      have target := @writeTarget_ofSegments parts
      rw [if_pos arity] at target
      refine ⟨.index ⟨parts[0]?.getD [], parts[1]?.getD [], parts[2]?⟩ d, .index, ?_, rfl, asked⟩
      refine (ofLine_eq_ok_iff line _).mpr ⟨_, _, asked, ?_⟩
      have document : readDocument (payloadOf? line) = .ok d := by
        obtain ⟨c, rest, rfl⟩ := List.exists_cons_of_ne_nil (readObject_nonempty read)
        rw [given]
        exact read
      simp only [Action.ofCommand, target, document]
      rfl
  | query asked arity given sized =>
      have scope := @searchScope_ofSegments parts
      rw [if_pos arity] at scope
      refine ⟨.search ⟨listedNames parts[0]?, listedNames parts[1]?⟩ _, .search, ?_, rfl, asked⟩
      refine (ofLine_eq_ok_iff line _).mpr ⟨_, _, asked, ?_⟩
      have spec := ofPayload_sized sized (payloadOf?_eq_some given).2
      simp only [Action.ofCommand, scope, given, spec]
      rfl

/-- What is to be sent can be read, and it is finite and proper if the typed object is. -/
theorem Carries.sendable (carries : Carries line parts d sent)
    (finite : (Json.object d).isFinite = true) (proper : (Json.object d).IsProper) :
    Json.IsReadable JsonReader.nestingLimit (.object sent) ∧
      (Json.object sent).isFinite = true ∧ (Json.object sent).IsProper := by
  cases carries with
  | document asked arity given read => exact ⟨readObjectWithin_isReadable read, finite, proper⟩
  | query asked arity given sized =>
      obtain ⟨short, readable⟩ := isShort_of_sized sized
      exact ⟨readable.put (text "size") short, Json.isFinite_put finite _ _,
        proper.put (Text.isProper_text "size") _⟩

/-! ## Proper paths -/

theorem isProper_listedNames {list : Option Text} (proper : ∀ names ∈ list, names.IsProper) :
    ∀ name ∈ listedNames list, name.IsProper := by
  intro name member c inName
  cases list with
  | none => simp [listedNames, Text.pieces] at member
  | some names =>
      have inNames := (Text.mem_of_mem_splitOn (List.mem_filter.mp member).1 inName).1
      exact proper names rfl c inNames

theorem isProper_searchedParts {containers collections : List Text}
    (first : ∀ name ∈ containers, name.IsProper) (second : ∀ name ∈ collections, name.IsProper) :
    ∀ part ∈ searchedParts containers collections, part.IsProper := by
  have all : (text "_all").IsProper := Text.isProper_text _
  have mark : (text "_search").IsProper := Text.isProper_text _
  have listed {names : List Text} (each : ∀ name ∈ names, name.IsProper) :
      (listedPart names).IsProper :=
    (Text.isProper_joined_iff (Text.isProper_text ",") names).mpr each
  unfold searchedParts
  split
  · split
    · exact List.forall_mem_singleton.mpr mark
    · exact List.forall_mem_cons.mpr ⟨listed first, List.forall_mem_singleton.mpr mark⟩
  · refine List.forall_mem_cons.mpr ⟨?_, ?_⟩
    · split
      · exact all
      · exact listed first
    · exact List.forall_mem_cons.mpr ⟨listed second, List.forall_mem_singleton.mpr mark⟩

theorem Verb.isProper_resource (verb : Verb) (proper : ∀ part ∈ parts, part.IsProper) :
    ∀ segment ∈ verb.resource parts, segment.IsProper := by
  have listed (n : Nat) : ∀ name ∈ listedNames parts[n]?, name.IsProper :=
    isProper_listedNames fun names isPart => proper names (List.mem_of_getElem? isPart)
  cases verb with
  | get | index | delete => exact proper
  | count | search => exact isProper_searchedParts (listed 0) (listed 1)

end Lines

namespace Connection

/-! ## Addresses with room -/

/-- The path of a resource is short enough, alone and after the base. -/
def Fits (base : Url) (path : Text) : Prop :=
  path.length ≤ Url.lengthLimit ∧ base.HasRoomFor (Path.withoutRoot path)

section Addresses

variable {settings : Settings} {base root : Url} {resource : List Text} {path : Text}

theorem exists_escapes : ∀ {segments : List Text}, (∀ segment ∈ segments, segment.IsProper) →
    ∃ parts, Path.Escapes segments parts := by
  intro segments
  induction segments with
  | nil => intro _; exact ⟨[], .nil⟩
  | cons segment rest ih =>
      intro proper
      obtain ⟨parts, each⟩ := ih fun other member => proper other (List.mem_cons_of_mem _ member)
      have first := (Path.escape_eq_ok_iff segment _).mpr
        ⟨rfl, proper segment List.mem_cons_self⟩
      exact ⟨_ :: parts, .cons first each⟩

theorem urlOf_of_base (isBase : Connection.base settings = .ok base) (reference : Text) :
    urlOf settings reference = Url.read reference >>= base.below := by
  rw [urlOf, isBase]
  rfl

/-- If the server can be asked at all, it can be asked for a resource whose path fits. -/
theorem urlOf_isOk_iff (isBase : Connection.base settings = .ok base)
    (reachable : urlOf settings (text "/") = .ok root)
    (written : Path.ofSegments resource = .ok path) (nonempty : resource ≠ [])
    (named : ∀ segment ∈ resource, segment ≠ []) :
    (∃ url, urlOf settings path = .ok url) ↔ Fits base path := by
  obtain ⟨parts, escapes, rfl⟩ := (Path.ofSegments_eq_ok_iff resource path).mp written
  have isReference : Url.IsReference parts := by
    refine ⟨?_, escapes.isSafe, escapes.ne_nil named⟩
    rintro rfl
    exact nonempty (List.length_eq_zero_iff.mp escapes.length_eq)
  -- The root is asked for at the base itself: nothing comes behind its target.
  have asked : base.withTarget base.target = .ok root := by
    have slash : Url.read (text "/") = .ok ⟨[], [], [], none, text "/", none, none⟩ := rfl
    have target : base.target = base.target ++ Path.withoutRoot (text "/") := by
      rw [show Path.withoutRoot (text "/") = [] from rfl, List.append_nil]
    rw [urlOf_of_base isBase, slash] at reachable
    rw [target]
    exact reachable
  have follows {reference : Url}
      (isRead : Url.read (Path.slash :: Text.joined [Path.slash] parts) = .ok reference) :
      base.below reference = base.withTarget (base.target ++ Text.joined [Path.slash] parts) := by
    rw [Url.below, Url.target_of_read isReference isRead, Url.withoutRoot_reference isReference]
  have room := Url.withTarget_isOk_iff (isBase_of_base isBase) asked isReference.quoted
  rw [Fits, Url.withoutRoot_reference isReference, ← Url.read_isOk_iff isReference, ← room,
    urlOf_of_base isBase]
  constructor
  · rintro ⟨url, found⟩
    obtain ⟨reference, isRead, below⟩ := (Outcome.bind_eq_ok_iff _ _ _).mp found
    exact ⟨⟨reference, isRead⟩, url, follows isRead ▸ below⟩
  · rintro ⟨⟨reference, isRead⟩, url, found⟩
    exact ⟨url, (Outcome.bind_eq_ok_iff _ _ _).mpr ⟨reference, isRead, follows isRead ▸ found⟩⟩

end Addresses

/-! ## What is sent -/

section Sending

variable {line : Text} {action : Action} {connection : Connection} {base root : Url} {path : Text}

theorem exists_sentBy_of_fits {written : Text} (acts : Action.ofLine line = .ok action)
    (isOpen : connection.isOpen = true) (isBase : Connection.base connection.settings = .ok base)
    (reachable : urlOf connection.settings (text "/") = .ok root)
    (isPath : Path.ofSegments action.segments = .ok path)
    (isBody : bodyText action.body = .ok written) (fits : Fits base path) :
    ∃ request, sentBy line connection = [request] ∧ request.body = written := by
  obtain ⟨-, named⟩ := resourceOf?_of_ofLine acts
  obtain ⟨url, found⟩ :=
    (urlOf_isOk_iff isBase reachable isPath (segments_ne_nil action) named).mpr fits
  have prepared : connection.prepare action.segments action.body = .ok (url, written) :=
    (prepare_eq_ok_iff _ _ _ _ _).mpr ⟨isOpen, isBody, path, isPath, found⟩
  refine ⟨⟨action.method, url.write, written, connection.settings.timeout⟩, ?_, rfl⟩
  rw [sentBy_of_action acts, prepared]

theorem sentBy_of_not_fits (acts : Action.ofLine line = .ok action)
    (isBase : Connection.base connection.settings = .ok base)
    (reachable : urlOf connection.settings (text "/") = .ok root)
    (isPath : Path.ofSegments action.segments = .ok path) (long : ¬Fits base path) :
    sentBy line connection = [] := by
  obtain ⟨-, named⟩ := resourceOf?_of_ofLine acts
  rw [sentBy_of_action acts]
  cases prepared : connection.prepare action.segments action.body with
  | error fault => rfl
  | ok ready =>
      obtain ⟨url, written⟩ := ready
      obtain ⟨-, -, other, isOther, found⟩ := (prepare_eq_ok_iff _ _ _ _ _).mp prepared
      cases isPath.symm.trans isOther
      exact absurd ((urlOf_isOk_iff isBase reachable isPath (segments_ne_nil action) named).mp
        ⟨url, found⟩) long

end Sending

/-- For a line that carries an object of finite numbers and without surrogates, one request is
sent, whose body reads as what is to be sent.  Only a path that does not fit keeps it back. -/
theorem sent_body_reads_back {line : Text} {parts : List Text} {d sent : Members}
    {connection : Connection} {root : Url} (carries : Carries line parts d sent)
    (finite : (Json.object d).isFinite = true) (proper : (Json.object d).IsProper)
    (properPath : ∀ part ∈ parts, part.IsProper) (isOpen : connection.isOpen = true)
    (reachable : urlOf connection.settings (text "/") = .ok root) :
    ∃ resource base path, resourceOf? line = some resource ∧
      Connection.base connection.settings = .ok base ∧ Path.ofSegments resource = .ok path ∧
      (Fits base path → ∃ request, sentBy line connection = [request] ∧
        readObject request.body = .ok sent) ∧
      (¬Fits base path → sentBy line connection = []) := by
  obtain ⟨action, verb, acts, hasBody, asked⟩ := carries.action
  obtain ⟨readable, finiteSent, properSent⟩ := carries.sendable finite proper
  have properResource : ∀ segment ∈ action.segments, segment.IsProper := by
    rw [segments_of_asked acts asked]
    exact verb.isProper_resource properPath
  obtain ⟨escaped, escapes⟩ := exists_escapes properResource
  have isPath := (Path.ofSegments_eq_ok_iff _ _).mpr ⟨escaped, escapes, rfl⟩
  obtain ⟨written, isBody, reads⟩ := bodyText_object finiteSent properSent readable
  obtain ⟨base, isBase, -⟩ := (Outcome.bind_eq_ok_iff _ _ _).mp reachable
  refine ⟨_, base, _, (resourceOf?_of_ofLine acts).1, isBase, isPath, ?_, ?_⟩
  · intro fits
    obtain ⟨request, sent, same⟩ :=
      exists_sentBy_of_fits acts isOpen isBase reachable isPath (hasBody ▸ isBody) fits
    exact ⟨request, sent, same ▸ reads⟩
  · intro long
    exact sentBy_of_not_fits acts isBase reachable isPath long

def localhost : Url := ⟨text "http", [], text "localhost", some 9200, [], none, none⟩

theorem reachable_atLocalhost : urlOf atLocalhost.settings (text "/") =
    .ok { localhost with path := text "/" } := by
  decide +kernel

theorem base_atLocalhost : Connection.base atLocalhost.settings = .ok localhost := by
  decide +kernel

/-- The size takes the place of the one in the query. -/
theorem sized_query_is_sent :
    let line := text "search /logs,b/ 007 \t\x7b\"size\":1,\"q\":[1.0,\"\u00e9\"]\x7d"
    let d := [(text "size", Json.integer 1),
      (text "q", .array [.float (Binary64.ofDecimal false 10 (-1)), .string (text "\u00e9")])]
    Carries line [text "logs,b"] d (Members.put (text "size") (.integer 7) d) ∧
      (Json.object d).isFinite = true ∧ (Json.object d).IsProper ∧ (text "logs,b").IsProper ∧
      atLocalhost.isOpen = true ∧
      urlOf atLocalhost.settings (text "/") = .ok { localhost with path := text "/" } ∧
      ∃ request, sentBy line atLocalhost = [request] ∧
        readObject request.body = .ok (Members.put (text "size") (.integer 7) d) := by
  intro line d
  have query : readObject (text "\x7b\"size\":1,\"q\":[1.0,\"\u00e9\"]\x7d") = .ok d := by rfl
  have seven : (text "007").asciiNumber = 7 := by decide
  have sized : IsSized (text "007" ++ text " \t" ++
      text "\x7b\"size\":1,\"q\":[1.0,\"\u00e9\"]\x7d") 7 d :=
    seven ▸ .intro (by decide) (by decide) (by decide) (by decide) query
  have carries : Carries line [text "logs,b"] d (Members.put (text "size") (.integer 7) d) :=
    .query (by decide +kernel) (by decide) (by decide +kernel) sized
  have finite : (Json.object d).isFinite = true := by decide +kernel
  have proper : (Json.object d).IsProper := by
    refine .object ?_ ?_
    · simp [d]
    · simp only [d, List.mem_cons, List.not_mem_nil, or_false, forall_eq_or_imp, forall_eq]
      refine ⟨.integer 1, .array ?_⟩
      simp only [List.mem_cons, List.not_mem_nil, or_false, forall_eq_or_imp, forall_eq]
      exact ⟨.float _, .string (Text.isProper_text _)⟩
  refine ⟨carries, finite, proper, Text.isProper_text _, rfl, reachable_atLocalhost, ?_⟩
  obtain ⟨resource, base, path, names, isBase, isPath, sends, -⟩ :=
    sent_body_reads_back carries finite proper (by simp) rfl reachable_atLocalhost
  have isResource : resourceOf? line = some [text "logs,b", text "_search"] := by decide +kernel
  cases names.symm.trans isResource
  have written : Path.ofSegments [text "logs,b", text "_search"] =
      .ok (text "/logs,b/_search") := by
    decide +kernel
  cases isPath.symm.trans written
  cases isBase.symm.trans base_atLocalhost
  have fits : Fits localhost (text "/logs,b/_search") := by
    refine ⟨by decide +kernel, ?_⟩
    change (localhost.rootedPath ++ Path.withoutRoot (text "/logs,b/_search")).length ≤ 65536
    decide +kernel
  exact sends fits

theorem sentBy_of_long_segment {line : Text} {action : Action} {connection : Connection}
    {base root : Url} {segment : Text} (acts : Action.ofLine line = .ok action)
    (proper : ∀ segment ∈ action.segments, segment.IsProper)
    (isBase : Connection.base connection.settings = .ok base)
    (reachable : urlOf connection.settings (text "/") = .ok root)
    (member : segment ∈ action.segments) (long : Url.lengthLimit ≤ segment.length) :
    sentBy line connection = [] := by
  obtain ⟨escaped, escapes⟩ := exists_escapes proper
  have isPath := (Path.ofSegments_eq_ok_iff _ _).mpr ⟨escaped, escapes, rfl⟩
  refine sentBy_of_not_fits acts isBase reachable isPath ?_
  intro fits
  have longer := Path.length_lt_ofSegments isPath member
  have := fits.1
  omega

def emptyDocumentLine (id : Text) : Text :=
  payloadLine .index [text "logs", text "event", id] (text "\x7b\x7d")

section LongId

variable {id : Text} (part : IsPart id)

include part

theorem isPart_emptyDocumentLine : ∀ part ∈ [text "logs", text "event", id], IsPart part := by
  simp only [List.forall_mem_cons, List.not_mem_nil, false_imp_iff, implies_true, and_true]
  exact ⟨by decide, by decide, part⟩

theorem asked?_emptyDocumentLine :
    asked? (emptyDocumentLine id) = some (.index, [text "logs", text "event", id]) :=
  asked?_payloadLine .index (List.cons_ne_nil _ _) (isPart_emptyDocumentLine part) _

theorem carries_emptyDocumentLine :
    Carries (emptyDocumentLine id) [text "logs", text "event", id] [] [] := by
  have tight : (text "\x7b\x7d").IsTight := by decide
  exact .document (asked?_emptyDocumentLine part) (Or.inr rfl)
    (payloadOf?_payloadLine .index (List.cons_ne_nil _ _) (isPart_emptyDocumentLine part)
      (by decide) tight) rfl

theorem sentBy_emptyDocumentLine (proper : id.IsProper) (long : Url.lengthLimit ≤ id.length) :
    sentBy (emptyDocumentLine id) atLocalhost = [] := by
  obtain ⟨action, verb, acts, -, asked⟩ := (carries_emptyDocumentLine part).action
  cases asked.symm.trans (asked?_emptyDocumentLine part)
  have segments : action.segments = [text "logs", text "event", id] := segments_of_asked acts asked
  have properSegments : ∀ segment ∈ action.segments, segment.IsProper := by
    rw [segments]
    simp only [List.forall_mem_cons, List.not_mem_nil, false_imp_iff, implies_true, and_true]
    exact ⟨Text.isProper_text _, Text.isProper_text _, proper⟩
  have member : id ∈ action.segments := by
    rw [segments]
    simp
  exact sentBy_of_long_segment acts properSegments base_atLocalhost reachable_atLocalhost member
    long

end LongId

/-- For a document with a very long id nothing is sent. -/
theorem long_id_is_not_sent :
    let id : Text := List.replicate 65536 'a'
    Carries (emptyDocumentLine id) [text "logs", text "event", id] [] [] ∧
      (Json.object []).isFinite = true ∧ (Json.object []).IsProper ∧ id.IsProper ∧
      atLocalhost.isOpen = true ∧
      urlOf atLocalhost.settings (text "/") = .ok { localhost with path := text "/" } ∧
      sentBy (emptyDocumentLine id) atLocalhost = [] := by
  intro id
  have letters : ∀ c ∈ id, c = CodePoint.ofChar 'a' :=
    fun c member => (List.mem_replicate.mp member).2
  have length : id.length = 65536 := List.length_replicate
  have part : IsPart id := by
    refine ⟨?_, ?_, ?_⟩
    · rintro empty
      rw [empty] at length
      cases length
    · intro c member
      rw [letters c member]
      decide
    · intro member
      exact absurd (letters _ member) (by decide)
  have proper : id.IsProper := by
    intro c member
    rw [letters c member]
    decide
  have long : Url.lengthLimit ≤ id.length := Nat.le_of_eq length.symm
  exact ⟨carries_emptyDocumentLine part, rfl, .object nofun nofun, proper, rfl,
    reachable_atLocalhost, sentBy_emptyDocumentLine part proper long⟩

end Connection

end SearchShell
