import SearchShell.Proofs.Command.Dispatch
import SearchShell.Proofs.Command.Typed
import SearchShell.Proofs.Json.RoundTrip
import SearchShell.Proofs.Text.Spacing

/-!
# Counting and searching

A path and a payload are refused alike for a count and for a search, or ask an engine for the
same search but for its size: a count wants no hits.
-/

set_option autoImplicit false

namespace SearchShell

/-! ## Setting a member -/

namespace Members

variable {name : Text} {value : Json}

/-- The second members are the first with the value under the name, in the place of the one that
it replaces, or else last. -/
inductive IsSet (name : Text) (value : Json) : Members → Members → Prop
  | replaced {before after : Members} (old : Json)
      (others : name ∉ (before ++ after).map Prod.fst) :
      IsSet name value (before ++ (name, old) :: after) (before ++ (name, value) :: after)
  | appended {members : Members} (absent : name ∉ members.map Prod.fst) :
      IsSet name value members (members ++ [(name, value)])

theorem IsSet.cons {members results : Members} (isSet : IsSet name value members results)
    {key : Text} (other : key ≠ name) (first : Json) :
    IsSet name value ((key, first) :: members) ((key, first) :: results) := by
  cases isSet with
  | @replaced before after old others =>
      have absent : name ∉ ((key, first) :: before ++ after).map Prod.fst := by
        rw [List.cons_append, List.map_cons, List.mem_cons]
        exact not_or.mpr ⟨Ne.symm other, others⟩
      exact .replaced old absent
  | appended absent =>
      refine .appended ?_
      rw [List.map_cons, List.mem_cons]
      exact not_or.mpr ⟨Ne.symm other, absent⟩

theorem isSet_put : ∀ {members : Members}, (members.map Prod.fst).Nodup →
    IsSet name value members (put name value members) := by
  intro members
  induction members with
  | nil => intro _; exact .appended List.not_mem_nil
  | cons first rest ih =>
      intro distinct
      obtain ⟨key, old⟩ := first
      rw [List.map_cons, List.nodup_cons] at distinct
      by_cases same : key = name
      · subst same
        rw [put, Entries.putIn, if_pos rfl]
        exact @IsSet.replaced key value [] rest old distinct.1
      · rw [put, Entries.putIn, if_neg same]
        exact (ih distinct.2).cons same old

theorem put_put (before : Json) (members : Members) :
    put name value (put name before members) = put name value members :=
  Entries.putIn_putIn name before value members

end Members

/-! ## Lines that differ in their verbs -/

def Verb.followedBy (verb : Verb) (rest : Text) : Text :=
  verb.word ++ CodePoint.ofChar ' ' :: rest

theorem words_followedBy (verb : Verb) (rest : Text) :
    (verb.followedBy rest).words = verb.word :: rest.words :=
  Text.words_append_cons verb.word_ne_nil verb.word_unbroken (by decide) rest

theorem payloadOf?_followedBy (verb other : Verb) (rest : Text) :
    payloadOf? (verb.followedBy rest) = payloadOf? (other.followedBy rest) := by
  simp only [payloadOf?, Verb.followedBy,
    Text.afterWords_append_cons (Verb.word_ne_nil _) (Verb.word_unbroken _)]

/-! ## What both ask for -/

def EngineCall.forTotal : EngineCall → EngineCall
  | search scope body => .search scope (Members.put (text "size") (.integer 0) body)
  | other => other

theorem requestBody_forTotal (spec : SearchPayload) :
    spec.forTotal.requestBody = Members.put (text "size") (.integer 0) spec.requestBody := by
  obtain ⟨size, body⟩ := spec
  cases size with
  | none => rfl
  | some n => exact (Members.put_put (.integer n) (body.getD [])).symm

theorem demand_count (parts : List Text) (payload : Option Text) :
    Verb.count.demand parts payload =
      (Verb.search.demand parts payload).map EngineCall.forTotal := by
  simp only [Verb.demand]
  cases demandedSearch payload with
  | error fault => rfl
  | ok spec => simp [Except.map, EngineCall.forTotal, requestBody_forTotal]

theorem demandOf_count (rest : Text) : demandOf (Verb.count.followedBy rest) =
    (demandOf (Verb.search.followedBy rest)).map EngineCall.forTotal := by
  have counts : Verb.all.find? (fun verb => verb.word = Verb.count.word.toAsciiLower) =
      some .count := by decide
  have searches : Verb.all.find? (fun verb => verb.word = Verb.search.word.toAsciiLower) =
      some .search := by decide
  rw [demandOf, demandOf, words_followedBy, words_followedBy,
    payloadOf?_followedBy .count .search rest]
  cases rest.words with
  | nil => rfl
  | cons path later =>
      simp only [counts, searches, Verb.admits, Verb.pathShape, decide_eq_true_eq]
      by_cases few : (Text.pieces '/' path).length ≤ 2
      · rw [if_pos few, if_pos few, demand_count]
      · rw [if_neg few, if_neg few]
        rfl

theorem demandedQuery_distinct {payload : Text} {query : Option Members}
    (found : demandedQuery payload = .ok query) : ((query.getD []).map Prod.fst).Nodup := by
  unfold demandedQuery at found
  split at found
  · cases found
    exact List.nodup_nil
  · obtain ⟨members, read, rfl⟩ := (Outcome.map_eq_ok_iff _ _ _).mp found
    cases readObjectWithin_isReadable read with
    | object distinct each => exact distinct

theorem demandedSearch_body_distinct {payload : Option Text} {spec : SearchPayload}
    (found : demandedSearch payload = .ok spec) : ((spec.body.getD []).map Prod.fst).Nodup := by
  unfold demandedSearch at found
  split at found
  · cases found
    exact List.nodup_nil
  split at found
  · cases found
    exact List.nodup_nil
  split at found
  · cases found
  obtain ⟨query, isQuery, sized⟩ := (Outcome.bind_eq_ok_iff _ _ _).mp found
  split at sized
  · cases sized
    exact demandedQuery_distinct isQuery
  · cases sized

theorem demandedSearch_distinct {payload : Option Text} {spec : SearchPayload}
    (found : demandedSearch payload = .ok spec) : (spec.requestBody.map Prod.fst).Nodup := by
  obtain ⟨size, body⟩ := spec
  have distinct := demandedSearch_body_distinct found
  cases size with
  | none => exact distinct
  | some n => exact Members.nodup_put distinct

theorem demandOf_search_eq_ok {rest : Text} {call : EngineCall}
    (asks : demandOf (Verb.search.followedBy rest) = .ok call) :
    ∃ scope body, call = .search scope body ∧ (body.map Prod.fst).Nodup := by
  have searches : Verb.all.find? (fun verb => verb.word = Verb.search.word.toAsciiLower) =
      some .search := by decide
  rw [demandOf, words_followedBy] at asks
  cases words : rest.words with
  | nil =>
      rw [words] at asks
      cases asks
  | cons path later =>
      simp only [words, searches] at asks
      split at asks
      · rw [Verb.demand] at asks
        obtain ⟨spec, found, rfl⟩ := (Outcome.map_eq_ok_iff _ _ _).mp asks
        exact ⟨_, _, rfl, demandedSearch_distinct found⟩
      · cases asks

/-! ## Answers -/

section Answers

variable {σ : Type}

theorem report_of_demandOf_error {line : Text} {fault : Fault}
    (failed : demandOf line = .error fault) :
    ∃ kind message record, fault.report = .ok ⟨.error kind message, record⟩ := by
  rcases demandOf_error failed with ⟨refusal, rfl⟩ | limit
  · exact ⟨_, _, _, rfl⟩
  · exact ⟨_, _, _, report_of_isLimit limit⟩

theorem interpret_of_demandOf_error {line : Text} {fault : Fault} {report : FaultReport}
    (failed : demandOf line = .error fault) (reported : fault.report = .ok report)
    (engine : Engine σ) (state : σ) : (Engine.interpret engine line state).state = state ∧
      (Engine.interpret engine line state).outcome = .ok report.envelope := by
  rw [← ofLine_eq_demand, Outcome.map_eq_error_iff] at failed
  have executed : Engine.execute engine line state = ⟨.error (.fault fault), [], state⟩ :=
    Engine.execute_of_fault failed
  refine ⟨by rw [Engine.interpret_state_eq, executed], ?_⟩
  exact Engine.interpret_outcome_of_fault (by rw [executed]) reported

theorem interpret_of_demandOf_search {line : Text} {scope : SearchScope} {body : Members}
    (asks : demandOf line = .ok (.search scope body)) (engine : Engine σ) (state : σ)
    (calls : List EngineCall) :
    (Engine.interpret engine.observed line (state, calls)).state =
      ((engine.search scope body state).state, calls ++ [.search scope body]) := by
  rw [← ofLine_eq_demand, Outcome.map_eq_ok_iff] at asks
  obtain ⟨action, decided, isCall⟩ := asks
  rw [Engine.interpret_state_eq, Engine.execute_of_action decided, perform_observed_state, isCall]
  rfl

/-- For every engine and whatever follows the verbs: a count and a search are answered with the
same error and the engine is not asked, or each asks it for one search in the same scope, and the
count's body is the search's with the size set to zero. -/
theorem count_agrees_with_search (engine : Engine σ) (rest : Text) (state : σ)
    (calls : List EngineCall) :
    let counted := Engine.interpret engine.observed (Verb.count.followedBy rest) (state, calls)
    let searched := Engine.interpret engine.observed (Verb.search.followedBy rest) (state, calls)
    (∃ kind message, counted.outcome = .ok (.error kind message) ∧
        searched.outcome = .ok (.error kind message) ∧
        counted.state = (state, calls) ∧ searched.state = (state, calls)) ∨
      ∃ scope body countBody,
        searched.state = ((engine.search scope body state).state,
          calls ++ [.search scope body]) ∧
        counted.state = ((engine.search scope countBody state).state,
          calls ++ [.search scope countBody]) ∧
        Members.IsSet (text "size") (.integer 0) body countBody := by
  intro counted searched
  have same := demandOf_count rest
  cases asked : demandOf (Verb.search.followedBy rest) with
  | error fault =>
      rw [asked] at same
      obtain ⟨kind, message, record, reported⟩ := report_of_demandOf_error asked
      have countFails := interpret_of_demandOf_error same reported engine.observed (state, calls)
      have searchFails := interpret_of_demandOf_error asked reported engine.observed (state, calls)
      exact Or.inl ⟨kind, message, countFails.2, searchFails.2, countFails.1, searchFails.1⟩
  | ok call =>
      rw [asked] at same
      obtain ⟨scope, body, rfl, distinct⟩ := demandOf_search_eq_ok asked
      exact Or.inr ⟨scope, body, Members.put (text "size") (.integer 0) body,
        interpret_of_demandOf_search asked engine state calls,
        interpret_of_demandOf_search same engine state calls, Members.isSet_put distinct⟩

end Answers

end SearchShell
