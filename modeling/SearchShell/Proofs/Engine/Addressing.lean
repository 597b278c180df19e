import SearchShell.Proofs.Command.Asking
import SearchShell.Proofs.Engine.Requests
import SearchShell.Proofs.Engine.ServerBase

/-!
# Which resource a line reaches

What is sent for a line asks for the resource that the line names: its segments, or for a
search the listed containers and collections.  The address shows the resource, and
different resources have different addresses, unless one of the parts is a dot segment,
which is not escaped and leads somewhere else.
-/

set_option autoImplicit false

namespace SearchShell

/-! ## Resources of lines -/

def listedPart (names : List Text) : Text := Text.joined (text ",") names

/-- The parts of a search's path: what is searched, and that it is searched.  Collections alone
are looked for everywhere. -/
def searchedParts (containers collections : List Text) : List Text :=
  if collections = [] then
    if containers = [] then [text "_search"] else [listedPart containers, text "_search"]
  else [if containers = [] then text "_all" else listedPart containers,
    listedPart collections, text "_search"]

def Verb.resource (verb : Verb) (parts : List Text) : List Text :=
  match verb with
  | get | index | delete => parts
  | count | search => searchedParts (listedNames parts[0]?) (listedNames parts[1]?)

def resourceOf? (line : Text) : Option (List Text) :=
  (asked? line).map fun (verb, parts) => verb.resource parts

theorem listedNames_ne_nil {list : Option Text} {name : Text} (member : name ∈ listedNames list) :
    name ≠ [] :=
  Text.piece_ne_nil member

theorem listedPart_eq_nil_iff {names : List Text} (named : ∀ name ∈ names, name ≠ []) :
    listedPart names = [] ↔ names = [] := by
  constructor
  · intro empty
    cases names with
    | nil => rfl
    | cons name rest =>
        have nonempty := named name (by simp)
        by_cases alone : rest = []
        · simp [alone, listedPart, Text.joined, nonempty] at empty
        · simp [listedPart, Text.joined, List.intercalate_cons_of_ne_nil alone, nonempty] at empty
  · rintro rfl
    rfl

theorem searchSegments_eq (scope : SearchScope) (named : ∀ name ∈ scope.indices, name ≠ []) :
    Connection.searchSegments scope = searchedParts scope.indices scope.types := by
  have emptyPart := listedPart_eq_nil_iff named
  unfold listedPart at emptyPart
  unfold Connection.searchSegments searchedParts listedPart
  by_cases noTypes : scope.types = []
  · by_cases noIndices : scope.indices = []
    · simp [noTypes, noIndices]
    · simp [noTypes, noIndices, emptyPart]
  · by_cases noIndices : scope.indices = []
    · simp [noTypes, noIndices, Text.joined]
    · simp [noTypes, noIndices, emptyPart]

theorem segments_ne_nil (action : Action) : action.segments ≠ [] := by
  cases action with
  | get | delete | index => simp [Action.segments]
  | count | search => simp [Action.segments, Connection.searchSegments]

theorem resource_ne_nil {verb : Verb} {parts : List Text} (named : ∀ part ∈ parts, part ≠ []) :
    ∀ part ∈ verb.resource parts, part ≠ [] := by
  have listed {list : Option Text} (nonempty : listedNames list ≠ []) :
      listedPart (listedNames list) ≠ [] := by
    rw [ne_eq, listedPart_eq_nil_iff fun name => listedNames_ne_nil]
    exact nonempty
  have all : text "_all" ≠ [] := by decide
  have mark : text "_search" ≠ [] := by decide
  have searched : ∀ part ∈ searchedParts (listedNames parts[0]?) (listedNames parts[1]?),
      part ≠ [] := by
    intro part member
    unfold searchedParts at member
    split at member
    · split at member
      · rw [List.mem_singleton] at member
        exact member ▸ mark
      · next containers =>
        simp only [List.mem_cons, List.not_mem_nil, or_false] at member
        rcases member with rfl | rfl
        · exact listed containers
        · exact mark
    · next collections =>
      simp only [List.mem_cons, List.not_mem_nil, or_false] at member
      rcases member with rfl | rfl | rfl
      · split
        · exact all
        · next containers => exact listed containers
      · exact listed collections
      · exact mark
  cases verb with
  | get | index | delete => exact named
  | count | search => exact searched

theorem segments_of_asks {line : Text} {action : Action} (asks : Asks line action) :
    ∃ verb parts, asked? line = some (verb, parts) ∧ action.segments = verb.resource parts := by
  have listed (list : Option Text) : ∀ name ∈ listedNames list, name ≠ [] :=
    fun name member => listedNames_ne_nil member
  cases asks with
  | get asked => exact ⟨_, _, asked, rfl⟩
  | count asked => exact ⟨_, _, asked, searchSegments_eq _ (listed _)⟩
  | search asked => exact ⟨_, _, asked, searchSegments_eq _ (listed _)⟩
  | index asked => exact ⟨_, _, asked, rfl⟩
  | delete asked => exact ⟨_, _, asked, rfl⟩

/-- An action's request asks for the resource that its line names. -/
theorem resourceOf?_of_ofLine {line : Text} {action : Action}
    (ok : Action.ofLine line = .ok action) :
    resourceOf? line = some action.segments ∧ ∀ segment ∈ action.segments, segment ≠ [] := by
  obtain ⟨verb, parts, asked, segments⟩ := segments_of_asks (asks_of_ofLine ok)
  rw [segments]
  exact ⟨by rw [resourceOf?, asked]; rfl,
    resource_ne_nil fun part member => (asked?_parts asked part member).1⟩

namespace Connection

/-! ## Addresses of requests -/

/-- The path of an address below the base can show the resource: the base leaves the path to it,
and no part is a dot segment. -/
def IsShown (base : Url) (resource : List Text) : Prop :=
  base.query = none ∧ ∀ segment ∈ resource, ¬Path.IsDotSegment segment

structure IsAddress (settings : Settings) (resource : List Text) (base url : Url) : Prop where
  isBase : Connection.base settings = .ok base
  isBelow : ∃ reference, Path.ofSegments resource = .ok reference ∧
    urlOf settings reference = .ok url

variable {settings : Settings} {resource : List Text} {base url : Url}

theorem isAddress_of_prepare {segments : List Text} {body : Option Json} {connection : Connection}
    {written : Text} (prepared : connection.prepare segments body = .ok (url, written)) :
    ∃ base, IsAddress connection.settings segments base url := by
  obtain ⟨-, -, reference, path, found⟩ := (prepare_eq_ok_iff _ _ connection url written).mp
    prepared
  have address := found
  simp only [urlOf, Outcome.bind_eq_ok_iff] at found
  obtain ⟨base, isBase, -⟩ := found
  exact ⟨base, isBase, reference, path, address⟩

/-- What there is to know about the reference of an address. -/
theorem IsAddress.reference (address : IsAddress settings resource base url)
    (nonempty : resource ≠ []) (named : ∀ segment ∈ resource, segment ≠ []) :
    ∃ parts reference, Path.Escapes resource parts ∧ Url.IsReference parts ∧
      reference.target = Path.slash :: Text.joined [Path.slash] parts ∧
      base.below reference = .ok url := by
  obtain ⟨path, written, found⟩ := address.isBelow
  obtain ⟨parts, escapes, rfl⟩ := (Path.ofSegments_eq_ok_iff resource path).mp written
  have isReference : Url.IsReference parts := by
    refine ⟨?_, escapes.isSafe, escapes.ne_nil named⟩
    rintro rfl
    exact nonempty (List.length_eq_zero_iff.mp escapes.length_eq)
  simp only [urlOf, address.isBase, Outcome.bind_eq_ok_iff] at found
  obtain ⟨other, isBase, reference, read, below⟩ := found
  cases isBase
  exact ⟨parts, reference, escapes, isReference, Url.target_of_read isReference read, below⟩

theorem IsAddress.resourceBelow?_iff (address : IsAddress settings resource base url)
    (nonempty : resource ≠ []) (named : ∀ segment ∈ resource, segment ≠ []) :
    url.resourceBelow? base = some resource ↔ IsShown base resource := by
  obtain ⟨parts, reference, escapes, isReference, asked, below⟩ :=
    address.reference nonempty named
  exact Url.resourceBelow?_eq_some_iff (isBase_of_base address.isBase) isReference escapes asked
    below

theorem IsAddress.query_eq_none (address : IsAddress settings resource base url)
    (nonempty : resource ≠ []) (named : ∀ segment ∈ resource, segment ≠ [])
    (noQuery : base.query = none) : url.query = none := by
  obtain ⟨parts, reference, -, isReference, asked, below⟩ := address.reference nonempty named
  have isBase := isBase_of_base address.isBase
  obtain ⟨directory, target⟩ := isBase.closed noQuery
  exact (Url.path_of_below isBase isReference target noQuery asked below).2

/-- At one server, resources that show have different addresses. -/
theorem IsAddress.resource_injective {otherResource : List Text} {otherUrl : Url}
    (address : IsAddress settings resource base url)
    (other : IsAddress settings otherResource base otherUrl)
    (nonempty : resource ≠ []) (named : ∀ segment ∈ resource, segment ≠ [])
    (otherNonempty : otherResource ≠ []) (otherNamed : ∀ segment ∈ otherResource, segment ≠ [])
    (shown : IsShown base resource) (otherShown : IsShown base otherResource)
    (written : otherUrl.write = url.write) : otherResource = resource := by
  obtain ⟨_, _, _, _, _, below⟩ := address.reference nonempty named
  obtain ⟨_, _, _, _, _, otherBelow⟩ := other.reference otherNonempty otherNamed
  obtain ⟨scheme, authority, fragment⟩ := Url.sameServer_of_below otherBelow below
  have path : otherUrl.path = url.path :=
    Url.path_eq_of_write_eq scheme authority fragment
      (other.query_eq_none otherNonempty otherNamed shown.1)
      (address.query_eq_none nonempty named shown.1) written
  have otherNames := (other.resourceBelow?_iff otherNonempty otherNamed).mpr otherShown
  have names := (address.resourceBelow?_iff nonempty named).mpr shown
  unfold Url.resourceBelow? at names otherNames
  rw [path] at otherNames
  exact Option.some.inj (otherNames.symm.trans names)

/-- Whatever is sent for a line goes to the address of the line's resource. -/
theorem address_of_mem_sentBy {line : Text} {connection : Connection} {request : Http.Request}
    (sends : request ∈ sentBy line connection) :
    ∃ resource base url, resourceOf? line = some resource ∧ resource ≠ [] ∧
      (∀ segment ∈ resource, segment ≠ []) ∧
      IsAddress connection.settings resource base url ∧ request.url = url.write := by
  obtain ⟨action, url, written, ok, prepared, rfl⟩ := (mem_sentBy_iff line connection request).mp
    sends
  obtain ⟨names, named⟩ := resourceOf?_of_ofLine ok
  obtain ⟨base, address⟩ := isAddress_of_prepare prepared
  exact ⟨action.segments, base, url, names, segments_ne_nil action, named, address, rfl⟩

/-- The address of a request shows the resource that the line names exactly when the base
leaves the path to it and none of its parts is a dot segment.  Then no other such resource has
this address.  Below a host that is no more than a host, resources begin after the first
slash. -/
theorem request_shows_resource_iff (line : Text) (connection : Connection)
    (request : Http.Request) (sends : request ∈ sentBy line connection) :
    ∃ resource base url, resourceOf? line = some resource ∧
      IsAddress connection.settings resource base url ∧ request.url = url.write ∧
      (url.resourceBelow? base = some resource ↔ IsShown base resource) ∧
      (∀ otherLine otherConnection otherRequest otherResource,
        otherRequest ∈ sentBy otherLine otherConnection →
        otherConnection.settings = connection.settings →
        resourceOf? otherLine = some otherResource →
        IsShown base resource → IsShown base otherResource →
        otherRequest.url = request.url → otherResource = resource) ∧
      ((∀ c ∈ connection.settings.host, (text "/?#").contains c = false) →
        base.target = [Path.slash] ∧ base.query = none) := by
  obtain ⟨resource, base, url, names, nonempty, named, address, sent⟩ :=
    address_of_mem_sentBy sends
  refine ⟨resource, base, url, names, address, sent, address.resourceBelow?_iff nonempty named,
    ?_, base_of_plainHost address.isBase⟩
  intro otherLine otherConnection otherRequest otherResource otherSends sameSettings otherNames
    shown otherShown sameUrl
  obtain ⟨found, otherBase, otherUrl, foundNames, otherNonempty, otherNamed, other, otherSent⟩ :=
    address_of_mem_sentBy otherSends
  have same : found = otherResource := Option.some.inj (foundNames.symm.trans otherNames)
  subst same
  rw [sameSettings] at other
  have sameBase : otherBase = base := Except.ok.inj (other.isBase.symm.trans address.isBase)
  subst sameBase
  exact address.resource_injective other nonempty named otherNonempty otherNamed shown otherShown
    (by rw [← otherSent, sameUrl, sent])

def atLocalhost : Connection :=
  ⟨⟨text "localhost", 9200, text "elasticsearch", .ofRatio false 30 1⟩, true, [], []⟩

theorem document_request_shows_resource :
    ∃ request ∈ sentBy (text "get /logs/event/a%b") atLocalhost, ∃ base url : Url,
      request.url = url.write ∧
        url.resourceBelow? base = some [text "logs", text "event", text "a%b"] := by
  have sends : ⟨.get, text "http://localhost:9200/logs/event/a%25b", [], .ofRatio false 30 1⟩ ∈
      sentBy (text "get /logs/event/a%b") atLocalhost := by
    decide +kernel
  obtain ⟨resource, base, url, names, address, sent, shows_iff, -, plain⟩ :=
    request_shows_resource_iff _ _ _ sends
  have isResource : resourceOf? (text "get /logs/event/a%b") =
      some [text "logs", text "event", text "a%b"] := by decide +kernel
  have same := Option.some.inj (names.symm.trans isResource)
  subst same
  exact ⟨_, sends, base, url, sent, shows_iff.mpr ⟨(plain (by decide)).2, by decide⟩⟩

/-- A line for a document whose id is two dots deletes its index. -/
theorem parent_id_reaches_index :
    sentBy (text "delete /logs/event/..") atLocalhost =
        [⟨.delete, text "http://localhost:9200/logs", [], .ofRatio false 30 1⟩] ∧
      resourceOf? (text "delete /logs/event/..") =
        some [text "logs", text "event", text ".."] ∧
      sentBy (text "delete /logs/type/..") atLocalhost =
        sentBy (text "delete /logs/event/..") atLocalhost ∧
      ∃ base url, IsAddress atLocalhost.settings [text "logs", text "event", text ".."] base url ∧
        url.write = text "http://localhost:9200/logs" ∧ base.target = text "/" ∧
        url.resourceBelow? base = some [text "logs"] := by
  refine ⟨by decide +kernel, by decide +kernel, by decide +kernel,
    ⟨text "http", [], text "localhost", some 9200, [], none, none⟩,
    ⟨text "http", [], text "localhost", some 9200, text "/logs", none, none⟩,
    ⟨by decide +kernel, text "/logs/event/..", by decide +kernel, by decide +kernel⟩, ?_⟩
  exact ⟨by decide +kernel, by decide +kernel, by decide +kernel⟩

end Connection

end SearchShell
