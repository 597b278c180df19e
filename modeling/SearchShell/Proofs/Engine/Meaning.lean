import SearchShell.Engine.Connection
import SearchShell.Proofs.Engine.Showable

/-!
# What responses mean to actions

To an action that is for one document, a response can tell that there is none.  Of any other
successful response an action makes an answer, or finds that it is not what was expected.
-/

set_option autoImplicit false

namespace SearchShell

/-! ## What a response tells -/

namespace Http.Received

def HoldsObject (received : Received) : Prop := ∃ members, received.json = .ok (.object members)

/-- The status is that of something that is not there, and no object names an error. -/
def IsMissing (received : Received) : Prop :=
  received.response.status = 404 ∧
    ∀ members, received.json = .ok (.object members) →
      Members.hasName (text "error") members = false

def IsShallow (received : Received) : Prop :=
  ∀ container, received.json ≠ .error (.json (.tooDeep container))

end Http.Received

open Http (Received)

/-- An answer has no document in it, or none that was deleted. -/
def Action.FindsNothing (members : Members) : Action → Prop
  | get _ => ∀ found, Members.get? (text "found") members = some found → found.isTruthy = false
  | delete _ =>
      Members.get? (text "result") members = some (.string (text "not_found")) ∨
        ∃ found, Members.get? (text "found") members = some found ∧ found.isTruthy = false
  | count _ _ | search _ _ | index _ _ => False

/-- The action is for one document that can be absent. -/
def Action.isForOne : Action → Bool
  | get _ | delete _ => true
  | count _ _ | search _ _ | index _ _ => false

/-- The response tells that there is no such document: it is missing, or a successful answer
finds nothing. -/
def Action.IsToldAbsent (received : Received) (action : Action) : Prop :=
  action.isForOne = true ∧ (received.IsMissing ∨
    received.response.isSuccess = true ∧
      ∃ members, received.json = .ok (.object members) ∧ action.FindsNothing members)

/-! ## Faults of answers -/

section Faults

/-- The fault is neither a refusal nor a rejected request. -/
def Fault.isPlain : Fault → Bool
  | refused _ | rejected _ => false
  | _ => true

variable {received : Received} {fault : Fault}

theorem Http.Received.json_error (failed : received.json = .error fault) :
    (∃ undecodable, fault = .undecodable undecodable) ∨ ∃ json, fault = .json json := by
  unfold Received.json at failed
  split at failed
  · cases failed
    exact Or.inl ⟨_, rfl⟩
  next s _ =>
    cases read : Json.readDecoded JsonReader.nestingLimit s with
    | ok value =>
        rw [read] at failed
        cases failed
    | error json =>
        rw [read] at failed
        cases failed
        exact Or.inr ⟨json, rfl⟩

theorem Http.Received.json_error_plain (failed : received.json = .error fault) :
    fault.isPlain = true := by
  rcases Http.Received.json_error failed with ⟨undecodable, rfl⟩ | ⟨json, rfl⟩
  · rfl
  · rfl

theorem Json.members_error_plain {value : Json} (failed : value.members = .error fault) :
    fault.isPlain = true := by
  cases value with
  | object members => cases failed
  | _ => cases failed; rfl

theorem Json.toInteger_error_plain {value : Json} (failed : value.toInteger = .error fault) :
    fault.isPlain = true := by
  unfold Json.toInteger at failed
  split at failed
  · cases failed
  · cases failed
  · cases failed; rfl
  · cases failed; rfl
  · cases failed
  next s =>
    cases read : readInteger s with
    | ok n =>
        rw [read] at failed
        cases failed
    | error integer =>
        rw [read] at failed
        cases failed
        rfl
  · cases failed; rfl

theorem Hits.totalOf_error_plain {hits : Members} (failed : Hits.totalOf hits = .error fault) :
    fault.isPlain = true := by
  unfold Hits.totalOf at failed
  split at failed
  · cases failed
  · exact Json.toInteger_error_plain failed
  · split at failed
    · exact Json.toInteger_error_plain failed
    · cases failed

theorem Json.items_error_plain {value : Json} (failed : value.items = .error fault) :
    fault.isPlain = true := by
  cases value with
  | array items => cases failed
  | object members => cases failed
  | string s => cases failed
  | _ => cases failed; rfl

theorem mapM_error_plain {α β : Type} {f : α → Except Fault β}
    (each : ∀ item fault, f item = .error fault → fault.isPlain = true) : ∀ {items : List α},
    items.mapM f = .error fault → fault.isPlain = true := by
  intro items
  induction items with
  | nil => intro failed; cases failed
  | cons item rest ih =>
      intro failed
      rw [List.mapM_cons] at failed
      rcases (Outcome.bind_eq_error_iff _ _ _).mp failed with first | ⟨result, -, later⟩
      · exact each _ _ first
      · rcases (Outcome.bind_eq_error_iff _ _ _).mp later with others | ⟨results, -, done⟩
        · exact ih others
        · cases done

theorem Hits.ofJson_error_plain {value : Json} (failed : Hits.ofJson value = .error fault) :
    fault.isPlain = true := by
  unfold Hits.ofJson at failed
  simp only [Outcome.bind_eq_error_iff] at failed
  rcases failed with noMembers | ⟨members, -, noHits | ⟨hits, -, noTotal | ⟨total, -, noItems |
    ⟨items, -, noSources | ⟨sources, -, noDocuments | ⟨documents, -, done⟩⟩⟩⟩⟩⟩
  · exact Json.members_error_plain noMembers
  · exact Json.members_error_plain noHits
  · exact totalOf_error_plain noTotal
  · exact Json.items_error_plain noItems
  · refine mapM_error_plain ?_ noSources
    intro hit fault noHit
    exact Json.members_error_plain ((Outcome.map_eq_error_iff _ _ _).mp noHit)
  · unfold Hits.documentsOf at noDocuments
    simp only at noDocuments
    split at noDocuments
    · cases noDocuments
    · cases noDocuments; rfl
  · cases done

theorem Json.member_error_plain {name : Text} {value : Json}
    (failed : value.member name = .error fault) : fault.isPlain = true := by
  cases value with
  | object members =>
      rw [Json.member] at failed
      split at failed
      · cases failed
      · cases failed; rfl
  | _ => cases failed; rfl

theorem Json.writtenId_error_plain {value : Json} (failed : value.writtenId = .error fault) :
    fault.isPlain = true := by
  rcases (Outcome.bind_eq_error_iff _ _ _).mp failed with noId | ⟨id, -, done⟩
  · exact Json.member_error_plain noId
  · cases done

end Faults

theorem Http.Received.json_isReadable {received : Received} {answer : Json}
    (read : received.json = .ok answer) :
    answer.IsReadable JsonReader.nestingLimit := by
  unfold Received.json at read
  split at read
  next => cases read
  next s _ =>
    rw [Outcome.mapError_eq_ok_iff, Json.readDecoded] at read
    split at read
    next whole =>
      cases read
      exact JsonReader.readWhole_isReadable whole
    next => cases read

/-! ## Absence -/

section Absence

variable {received : Received}

theorem Http.Received.reportsAbsence_of_isMissing (shallow : received.IsShallow)
    (missing : received.IsMissing) :
    received.reportsAbsence = .ok true := by
  unfold Received.reportsAbsence
  rw [if_neg (not_not.mpr missing.1)]
  split
  next members isObject => rw [missing.2 members isObject]; rfl
  next => rfl
  next fault failed =>
    have isValue : fault.isValue = true := by
      rcases Http.Received.json_error failed with ⟨undecodable, rfl⟩ | ⟨json, rfl⟩
      · rfl
      · cases json with
        | malformed defect place => rfl
        | tooLong digits => rfl
        | tooDeep container => exact absurd failed (shallow container)
    rw [if_pos isValue]

theorem Http.Received.reportsAbsence_of_not_isMissing (there : ¬received.IsMissing) :
    received.reportsAbsence = .ok false := by
  unfold Received.reportsAbsence
  split
  · rfl
  next status =>
    have isStatus := not_not.mp status
    split
    next members isObject =>
      have named : Members.hasName (text "error") members = true := by
        by_contra unnamed
        refine there ⟨isStatus, ?_⟩
        intro others same
        rw [isObject] at same
        cases same
        exact Bool.not_eq_true _ ▸ unnamed
      rw [named]
      rfl
    next value noObject isValue =>
      refine absurd ⟨isStatus, ?_⟩ there
      intro members same
      rw [isValue] at same
      cases same
      exact absurd rfl (noObject members)
    next fault failed =>
      refine absurd ⟨isStatus, ?_⟩ there
      intro members same
      rw [failed] at same
      cases same

theorem Http.Received.isSuccess_of_isMissing (missing : received.IsMissing) :
    received.response.isSuccess = false := by
  simp [Http.Response.isSuccess, missing.1]

end Absence

/-! ## Answers of actions -/

namespace Action

def answerIn (answer : Json) : Action → Except Fault Envelope
  | get _ => do
      match ← answer.foundSource with
      | some document => written .json (documentText documentRoom document)
      | none => .error (.refused .notFound)
  | count _ _ => do written .text (integerText (← Hits.ofJson answer).total)
  | search _ _ => do written .table (tableText cellRoom (← Hits.ofJson answer).documents)
  | index _ _ => do .ok (.success .text (← answer.writtenId))
  | delete address => do
      if ← answer.wasDeleted then .ok (.success .text address.id)
      else .error (.refused .notFound)

def looksForAbsence (received : Received) (action : Action) : Except Fault Bool :=
  if action.isForOne then received.reportsAbsence else .ok false

def answerTo (received : Received) (action : Action) : Except Fault Envelope := do
  if ← action.looksForAbsence received then .error (.refused .notFound)
  else do
    received.requireSuccess
    action.answerIn (← received.json)

inductive Meaning (answer : Json) (action : Action) : Except Fault Envelope → Prop
  | nothing (members : Members) (isObject : answer = .object members) (one : action.isForOne = true)
      (finds : action.FindsNothing members) : Meaning answer action (.error (.refused .notFound))
  | something (form : ContentType) (body : Text)
      (finds : action.isForOne = true →
        ∃ members, answer = .object members ∧ ¬action.FindsNothing members) :
      Meaning answer action (.ok (.success form body))
  | unusable (fault : Fault) (plain : fault.isPlain = true)
      (noObject : action.isForOne = true → ∀ members, answer ≠ .object members) :
      Meaning answer action (.error fault)

theorem foundSource_object (members : Members) :
    Json.foundSource (.object members) =
      .ok (if (Members.getOrNull (text "found") members).isTruthy then
        some (Hits.sourceOf members) else none) := by
  simp only [Json.foundSource, Json.members, bind, Except.bind]
  split
  · rfl
  · rfl

theorem isTruthy_getOrNull_eq_false_iff (name : Text) (members : Members) :
    (Members.getOrNull name members).isTruthy = false ↔
      ∀ value, Members.get? name members = some value → value.isTruthy = false := by
  unfold Members.getOrNull
  cases Members.get? name members with
  | none => simp [Json.isTruthy]
  | some value => simp

theorem meaning_get {answer : Json} (readable : answer.IsReadable JsonReader.nestingLimit)
    (address : DocumentAddress) :
    Meaning answer (.get address) ((get address).answerIn answer) := by
  cases answer with
  | object members =>
      obtain ⟨body, shown⟩ := exists_documentText_sourceOf readable
      rw [answerIn, foundSource_object]
      cases truthy : (Members.getOrNull (text "found") members).isTruthy with
      | false =>
          exact .nothing members rfl rfl ((isTruthy_getOrNull_eq_false_iff _ _).mp truthy)
      | true =>
          simp only [if_true, bind, Except.bind, shown]
          refine .something _ _ fun _ => ⟨members, rfl, ?_⟩
          intro finds
          rw [(isTruthy_getOrNull_eq_false_iff _ _).mpr finds] at truthy
          cases truthy
  | _ => exact .unusable _ rfl fun _ members => nofun

theorem wasDeleted_object (address : DocumentAddress) (members : Members) :
    ∃ deleted, Json.wasDeleted (.object members) = .ok deleted ∧
      (deleted = false ↔ (delete address).FindsNothing members) := by
  have unfound : ((Members.get? (text "found") members).getD (.bool true)).isTruthy = false ↔
      ∃ found, Members.get? (text "found") members = some found ∧ found.isTruthy = false := by
    cases Members.get? (text "found") members with
    | none => simp [Json.isTruthy]
    | some value => simp
  simp only [Json.wasDeleted, Json.members, bind, Except.bind, FindsNothing]
  split
  next result isString =>
    split
    next same => exact ⟨false, rfl, by simp [isString, same]⟩
    next other => exact ⟨_, rfl, by simp [isString, other, unfound]⟩
  next noString =>
    refine ⟨_, rfl, unfound.trans ?_⟩
    constructor
    · exact Or.inr
    · rintro (isString | found)
      · exact absurd isString (noString _)
      · exact found

theorem meaning_delete (answer : Json) (address : DocumentAddress) :
    Meaning answer (.delete address) ((delete address).answerIn answer) := by
  cases answer with
  | object members =>
      obtain ⟨deleted, read, nothing_iff⟩ := wasDeleted_object address members
      rw [answerIn, read]
      cases deleted with
      | false => exact .nothing members rfl rfl (nothing_iff.mp rfl)
      | true =>
          refine .something _ _ fun _ => ⟨members, rfl, ?_⟩
          intro finds
          exact absurd (nothing_iff.mpr finds) (by decide)
  | _ => exact .unusable _ rfl fun _ members => nofun

/-- A reading that cannot find nothing shows what it gives. -/
theorem meaning_of_reading {α : Type} {answer : Json} {action : Action}
    (other : action.isForOne = false) {read : Except Fault α} {form : ContentType}
    {shown : α → Except Fault Envelope}
    (shows : ∀ result, read = .ok result → ∃ body, shown result = .ok (.success form body))
    (plain : ∀ fault, read = .error fault → fault.isPlain = true) :
    Meaning answer action (read >>= shown) := by
  have never : action.isForOne ≠ true := Bool.eq_false_iff.mp other
  cases read with
  | ok result =>
      obtain ⟨body, isShown⟩ := shows result rfl
      change Meaning answer action (shown result)
      rw [isShown]
      exact .something form body fun one => absurd one never
  | error fault => exact .unusable fault (plain fault rfl) fun one => absurd one never

theorem exists_written {form : ContentType} {body : Except WritingFault Text}
    (shown : ∃ s, body = .ok s) : ∃ s, written form body = .ok (.success form s) := by
  obtain ⟨s, rfl⟩ := shown
  exact ⟨s, rfl⟩

theorem meaning {answer : Json} (readable : answer.IsReadable JsonReader.nestingLimit)
    (action : Action) : Meaning answer action (action.answerIn answer) := by
  cases action with
  | get address => exact meaning_get readable address
  | delete address => exact meaning_delete answer address
  | count scope body =>
      exact meaning_of_reading rfl
        (fun hits read => exists_written ⟨_, Hits.integerText_total readable read⟩)
        fun _ => Hits.ofJson_error_plain
  | search scope body =>
      exact meaning_of_reading rfl
        (fun hits read => exists_written (Hits.exists_tableText readable read))
        fun _ => Hits.ofJson_error_plain
  | index target document =>
      exact meaning_of_reading rfl (fun id _ => ⟨id, rfl⟩) fun _ => Json.writtenId_error_plain

end Action

end SearchShell
