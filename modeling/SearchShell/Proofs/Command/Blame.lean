import SearchShell.Engine.Store
import SearchShell.Proofs.Command.Dispatch
import SearchShell.Proofs.Command.Typed
import SearchShell.Proofs.Json.Extent

/-!
# What an answer blames

A line that is answered with an error before any engine was asked is at fault itself, and the
kind of the error says so, unless the payload has too many digits in a row or nests too deep:
that is answered as if the engine had failed.
-/

set_option autoImplicit false

namespace SearchShell

def lineKinds : List ErrorKind :=
  [.missingArguments, .unknownMethod, .badPath, .invalidSize, .invalidJson]

def ExceedsLimit (line : Text) : Prop :=
  ∃ fault, demandOf line = .error fault ∧ fault.isLimit = true

/-- The payload of the line has too long a run of digits or too many opening brackets. -/
def IsOversized (line : Text) : Prop :=
  ∃ payload, payloadOf? line = some payload ∧
    (HasLongRun payload ∨ JsonReader.nestingLimit < bracketCount payload)

/-! ## Refusals -/

theorem readObject_blames {s : Text} {refusal : Refusal}
    (refused : readObject s = .error (.refused refusal)) : refusal.kind ∈ lineKinds := by
  unfold readObject readObjectWithin at refused
  split at refused
  · cases refused
  · cases refused
    simp [Refusal.kind, lineKinds]
  · cases refused
    simp [Refusal.kind, lineKinds]
  · cases refused

theorem demandedSearch_blames {payload : Option Text} {refusal : Refusal}
    (refused : demandedSearch payload = .error (.refused refusal)) : refusal.kind ∈ lineKinds := by
  unfold demandedSearch at refused
  split at refused
  · cases refused
  split at refused
  · cases refused
  split at refused
  · cases refused
    simp [Refusal.kind, lineKinds]
  rcases (Outcome.bind_eq_error_iff _ _ _).mp refused with inQuery | ⟨query, -, inSize⟩
  · unfold demandedQuery at inQuery
    split at inQuery
    · cases inQuery
    · exact readObject_blames ((Outcome.map_eq_error_iff _ _ _).mp inQuery)
  · split at inSize
    · cases inSize
    · cases inSize

theorem demandOf_blames {line : Text} {refusal : Refusal}
    (refused : demandOf line = .error (.refused refusal)) : refusal.kind ∈ lineKinds := by
  unfold demandOf at refused
  split at refused
  next word path rest _ =>
    split at refused
    · cases refused
      simp [Refusal.kind, lineKinds]
    next verb _ =>
      simp only at refused
      split at refused
      · cases verb with
        | get | delete => cases refused
        | count | search =>
            rw [Verb.demand] at refused
            exact demandedSearch_blames ((Outcome.map_eq_error_iff _ _ _).mp refused)
        | index =>
            rw [Verb.demand] at refused
            have inDocument := (Outcome.map_eq_error_iff _ _ _).mp refused
            unfold demandedDocument at inDocument
            split at inDocument
            · cases inDocument
              decide
            · exact readObject_blames inDocument
      · cases refused
        cases verb with
        | get | delete | count | search | index => decide
  next =>
    cases refused
    decide

/-! ## Limits -/

theorem readObject_limit {s : Text} {fault : Fault} (failed : readObject s = .error fault)
    (limit : fault.isLimit = true) : HasLongRun s ∨ JsonReader.nestingLimit < bracketCount s := by
  unfold readObject readObjectWithin at failed
  split at failed
  · cases failed
  · cases failed
    cases limit
  · cases failed
    cases limit
  next unread notMalformed isRead =>
    rcases Json.read_limit isRead with ⟨defect, place, rfl⟩ | exceeded
    · exact absurd rfl (notMalformed defect place)
    · exact exceeded

theorem demandedSearch_limit {payload : Text} (tight : payload.IsTight) {fault : Fault}
    (failed : demandedSearch (some payload) = .error fault) (limit : fault.isLimit = true) :
    HasLongRun payload ∨ JsonReader.nestingLimit < bracketCount payload := by
  unfold demandedSearch at failed
  simp only at failed
  split at failed
  · cases failed
  next size rest words =>
    split at failed
    · cases failed
      cases limit
    next digits =>
      rcases (Outcome.bind_eq_error_iff _ _ _).mp failed with inQuery | ⟨query, -, inSize⟩
      · unfold demandedQuery at inQuery
        split at inQuery
        · cases inQuery
        · have inside : payload.afterWords 1 <:+: payload := by
            rw [Text.afterWords_one tight]
            exact ((List.dropWhile_suffix _).trans (List.dropWhile_suffix _)).isInfix
          have failed := (Outcome.map_eq_error_iff _ _ _).mp inQuery
          rcases readObject_limit failed limit with long | deep
          · exact Or.inl (long.mono inside)
          · exact Or.inr (Nat.lt_of_lt_of_le deep (bracketCount_mono inside))
      · split at inSize
        · cases inSize
        next long =>
          have first : payload.firstWord = size := by
            rw [Text.firstWord_eq_head tight.led, words]
            rfl
          have isRun : ∀ c ∈ size, c.isAsciiDigit = true :=
            ((Text.isAsciiDigits_iff size).mp (by simpa using digits)).2
          refine Or.inl ⟨size, ?_, isRun, Nat.lt_of_not_le long⟩
          rw [← first]
          exact (List.takeWhile_prefix _).isInfix

theorem demandOf_limit {line : Text} {fault : Fault} (failed : demandOf line = .error fault)
    (limit : fault.isLimit = true) : IsOversized line := by
  unfold demandOf at failed
  split at failed
  next word path rest _ =>
    split at failed
    · cases failed
      cases limit
    next verb _ =>
      simp only at failed
      split at failed
      · cases given : payloadOf? line with
        | none =>
            rw [given] at failed
            cases verb with
            | get | delete | count | search => cases failed
            | index =>
                cases failed
                cases limit
        | some payload =>
            refine ⟨payload, given, ?_⟩
            rw [given] at failed
            cases verb with
            | get | delete => cases failed
            | count | search =>
                rw [Verb.demand] at failed
                exact demandedSearch_limit (payloadOf?_eq_some given).2
                  ((Outcome.map_eq_error_iff _ _ _).mp failed) limit
            | index =>
                rw [Verb.demand] at failed
                exact readObject_limit ((Outcome.map_eq_error_iff _ _ _).mp failed) limit
      · cases failed
        cases limit
  next =>
    cases failed
    cases limit

/-! ## Answers -/

section Answers

variable {σ : Type}

theorem ofLine_error_iff {line : Text} {fault : Fault} :
    Action.ofLine line = .error fault ↔ demandOf line = .error fault := by
  rw [← ofLine_eq_demand, Outcome.map_eq_error_iff]

/-- For every engine: an error that is answered without any call names a fault of the line,
exactly when no limit is exceeded.  Otherwise the payload does exceed one and the answer is that
the engine failed. -/
theorem error_without_call_blames_line_iff (engine : Engine σ) (line : Text) (state : σ)
    (calls : List EngineCall) {kind body : Text}
    (answered : (Engine.interpret engine.observed line (state, calls)).outcome =
      .ok (.error kind body))
    (uncalled : (Engine.interpret engine.observed line (state, calls)).state.2 = calls) :
    (kind ∈ lineKinds.map ErrorKind.name ↔ ¬ExceedsLimit line) ∧
      (ExceedsLimit line → kind = ErrorKind.engineError.name ∧ IsOversized line) := by
  cases decided : Action.ofLine line with
  | ok action =>
      -- An action that is decided on makes a call.
      rw [Engine.interpret_state_eq, Engine.execute_of_action decided,
        perform_observed_state engine action state calls] at uncalled
      simp at uncalled
  | error fault =>
      have executed : Engine.execute engine.observed line (state, calls) =
          ⟨.error (.fault fault), [], (state, calls)⟩ := Engine.execute_of_fault decided
      have demanded := ofLine_error_iff.mp decided
      have limit_iff : ExceedsLimit line ↔ fault.isLimit = true := by
        constructor
        · rintro ⟨other, same, limit⟩
          rw [demanded] at same
          cases same
          exact limit
        · intro limit
          exact ⟨fault, demanded, limit⟩
      rcases ofLine_error decided with ⟨refusal, rfl⟩ | limit
      · rw [Engine.interpret_outcome_of_refused (by rw [executed])] at answered
        cases answered
        have blamed : refusal.kind.name ∈ lineKinds.map ErrorKind.name :=
          List.mem_map_of_mem (demandOf_blames demanded)
        have within : ¬ExceedsLimit line := by
          rw [limit_iff]
          exact Bool.false_ne_true
        exact ⟨iff_of_true blamed within, fun exceeds => absurd exceeds within⟩
      · have reported := report_of_isLimit limit
        rw [Engine.interpret_outcome_of_fault (by rw [executed]) reported] at answered
        cases answered
        have exceeds := limit_iff.mpr limit
        exact ⟨iff_of_false (by decide) (not_not.mpr exceeds),
          fun _ => ⟨rfl, demandOf_limit demanded limit⟩⟩

/-- A path without its last part is at fault itself. -/
theorem missing_id_is_bad_path :
    let engine := (Store.engine Text.ofNat).observed
    (Engine.interpret engine (text "delete /logs/event") (Store.empty, [])).outcome =
        .ok (.error ErrorKind.badPath.name (text "Bad URL (it should be /index/type/id)")) ∧
      (Engine.interpret engine (text "delete /logs/event") (Store.empty, [])).state.2 = [] ∧
      (ErrorKind.badPath.name ∈ lineKinds.map ErrorKind.name ↔
        ¬ExceedsLimit (text "delete /logs/event")) ∧
      (ExceedsLimit (text "delete /logs/event") →
        ErrorKind.badPath.name = ErrorKind.engineError.name ∧
          IsOversized (text "delete /logs/event")) :=
  ⟨rfl, rfl,
    error_without_call_blames_line_iff (Store.engine Text.ofNat) _ Store.empty [] rfl rfl⟩

theorem demandOf_search {index size : Text} (part : IsPart index)
    (digits : size.isAsciiDigits = true) (long : digitLimit < size.length) :
    demandOf (payloadLine .search [index] size) = .error (.integer (.tooLong size.length)) := by
  have each : ∀ part ∈ [index], IsPart part := by simpa using part
  have parts : [index] ≠ [] := List.cons_ne_nil _ _
  have isRun := (Text.isAsciiDigits_iff size).mp digits
  have unbroken : ∀ c ∈ size, c.isBlank = false :=
    fun c member => CodePoint.isBlank_of_isAsciiDigit (isRun.2 c member)
  have word : size.words = [size] := Text.words_of_unbroken isRun.1 unbroken
  have tight := Text.isTight_of_unbroken unbroken
  have given := payloadOf?_payloadLine .search parts each isRun.1 tight
  have named : Verb.all.find? (fun verb => verb.word = Verb.search.word.toAsciiLower) =
      some .search := by decide
  have demanded : demandedSearch (some size) = .error (.integer (.tooLong size.length)) := by
    simp only [demandedSearch, word, digits, demandedQuery, List.length_singleton, if_true,
      if_neg (Nat.not_le_of_lt long)]
    rfl
  rw [demandOf, words_payloadLine .search parts each]
  simp only [named, pieces_linePath each parts, given, Verb.demand, demanded]
  rfl

theorem interpret_long_size (engine : Engine σ) (state : σ) (calls : List EngineCall)
    {index size : Text} (part : IsPart index) (digits : size.isAsciiDigits = true)
    (long : digitLimit < size.length) :
    let done := Engine.interpret engine.observed (payloadLine .search [index] size) (state, calls)
    (∃ body, done.outcome = .ok (.error ErrorKind.engineError.name body)) ∧
      done.state.2 = calls := by
  have executed : Engine.execute engine.observed (payloadLine .search [index] size) (state, calls) =
      ⟨.error (.fault (.integer (.tooLong size.length))), [], (state, calls)⟩ :=
    Engine.execute_of_fault (ofLine_error_iff.mpr (demandOf_search part digits long))
  refine ⟨⟨_, Engine.interpret_outcome_of_fault (by rw [executed]) rfl⟩, ?_⟩
  rw [Engine.interpret_state_eq, executed]

/-- A size of more digits than are read is answered as if the engine had failed, though it was
not asked. -/
theorem long_size_is_engine_error :
    let line := payloadLine .search [text "logs"] (List.replicate 4301 '1')
    let done := Engine.interpret (Store.engine Text.ofNat).observed line (Store.empty, [])
    (∃ body, done.outcome = .ok (.error ErrorKind.engineError.name body)) ∧ done.state.2 = [] ∧
      ErrorKind.engineError.name ∉ lineKinds.map ErrorKind.name := by
  have digits : Text.isAsciiDigits (List.replicate 4301 '1') = true := by
    rw [Text.isAsciiDigits, List.all_replicate]
    rfl
  have long : digitLimit < (List.replicate 4301 (CodePoint.ofChar '1')).length := by
    rw [List.length_replicate]
    decide
  have part : IsPart (text "logs") := by decide
  have answered := interpret_long_size (Store.engine Text.ofNat) Store.empty [] part digits long
  exact ⟨answered.1, answered.2, by decide⟩

end Answers

end SearchShell
