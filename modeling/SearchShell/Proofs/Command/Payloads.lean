import SearchShell.Proofs.Command.Counting

/-!
# Payloads of searches

The first word of a payload is a size, and what follows it is a query.  The size is judged before
the query: it must be made of ASCII digits, and the query an object, if there is one.  How the two
are spaced out makes no difference.
-/

set_option autoImplicit false

namespace SearchShell

/-! ## Sizes and queries -/

structure IsSize (size : Text) (n : Nat) : Prop where
  digits : size.isAsciiDigits = true
  short : size.length ≤ digitLimit
  value : size.asciiNumber = n

inductive IsQuery (query : Text) : Option Members → Prop
  | nothing (blank : query.trim = []) : IsQuery query none
  | object {members : Members} (given : query.trim ≠ [])
      (read : readObject query.trim = .ok members) : IsQuery query (some members)

theorem isQuery_trim (query : Text) (body : Option Members) :
    IsQuery query.trim body ↔ IsQuery query body := by
  constructor
  · rintro (blank | ⟨given, read⟩)
    · exact .nothing (Text.trim_trim query ▸ blank)
    · exact .object (Text.trim_trim query ▸ given) (Text.trim_trim query ▸ read)
  · rintro (blank | ⟨given, read⟩)
    · exact .nothing ((Text.trim_trim query).symm ▸ blank)
    · exact .object ((Text.trim_trim query).symm ▸ given) ((Text.trim_trim query).symm ▸ read)

inductive IsReadAs (size query : Text) : Except Fault SearchPayload → Prop
  | invalidSize (undigital : size.isAsciiDigits = false) :
      IsReadAs size query (.error (.refused (.invalidSize size)))
  | invalidJson {defect : PayloadDefect} (digits : size.isAsciiDigits = true) (given : query ≠ [])
      (rejected : readObject query = .error (.refused (.invalidJson defect))) :
      IsReadAs size query (.error (.refused (.invalidJson defect)))
  | queryLimit {fault : Fault} (digits : size.isAsciiDigits = true) (given : query ≠ [])
      (rejected : readObject query = .error fault) (limit : fault.isLimit = true) :
      IsReadAs size query (.error fault)
  | sizeLimit {body : Option Members} (digits : size.isAsciiDigits = true)
      (isQuery : IsQuery query body) (long : digitLimit < size.length) :
      IsReadAs size query (.error (.integer (.tooLong size.length)))
  | sized {n : Nat} {body : Option Members} (isSize : IsSize size n)
      (isQuery : IsQuery query body) : IsReadAs size query (.ok ⟨some n, body⟩)

def readQuery (query : Text) : Except Fault (Option Members) :=
  if query = [] then .ok none else (readObject query).map some

theorem readQuery_eq_error_iff (query : Text) (fault : Fault) :
    readQuery query = .error fault ↔ query ≠ [] ∧ readObject query = .error fault := by
  unfold readQuery
  split
  next none => simp [none]
  next given => simp [given, Outcome.map_eq_error_iff]

section Payloads

variable {size query payload : Text} (spaced : Text.IsSpaced [size] query payload)

include spaced

theorem words_sized : payload.words = size :: query.words := by
  obtain ⟨⟨later, words⟩, rest⟩ := (Text.isSpaced_iff [size] query payload).mp spaced
  rw [← rest, Text.words_afterWords, words]
  rfl

theorem afterWords_sized : payload.afterWords 1 = query :=
  ((Text.isSpaced_iff [size] query payload).mp spaced).2

theorem isTight_sized : query.IsTight :=
  afterWords_sized spaced ▸ Text.isTight_afterWords 1 payload

/-- What comes of a payload depends on its size and its query only. -/
theorem demandedSearch_spaced : demandedSearch (some payload) =
    if size.isAsciiDigits = false then .error (.refused (.invalidSize size))
    else readQuery query >>= fun body =>
      if size.length ≤ digitLimit then .ok ⟨some size.asciiNumber, body⟩
      else .error (.integer (.tooLong size.length)) := by
  have single : (size :: query.words).length = 1 ↔ query = [] := by
    rw [List.length_cons, Nat.add_eq_right, List.length_eq_zero_iff,
      Text.words_eq_nil_of_led (isTight_sized spaced).led]
  simp only [demandedSearch, demandedQuery, readQuery, words_sized spaced, single,
    afterWords_sized spaced, Bool.not_eq_true']

theorem readQuery_eq_ok_iff (body : Option Members) :
    readQuery query = .ok body ↔ IsQuery query body := by
  unfold readQuery
  have kept := Text.trim_of_tight (isTight_sized spaced)
  constructor
  · intro read
    split at read
    next none =>
      cases read
      exact .nothing (kept.trans none)
    next given =>
      obtain ⟨members, isObject, rfl⟩ := (Outcome.map_eq_ok_iff _ _ _).mp read
      exact .object (kept.symm ▸ given) (kept.symm ▸ isObject)
  · rintro (blank | ⟨given, read⟩)
    · rw [if_pos (kept.symm.trans blank)]
    · rw [kept] at given read
      rw [if_neg given, read]
      rfl

/-- A payload is read in one way only, which its size and its query decide. -/
theorem demandedSearch_eq_iff (result : Except Fault SearchPayload) :
    demandedSearch (some payload) = result ↔ IsReadAs size query result := by
  rw [demandedSearch_spaced spaced]
  constructor
  · rintro rfl
    split
    next undigital => exact .invalidSize undigital
    next digital =>
      have digits : size.isAsciiDigits = true := by simpa using digital
      cases read : readQuery query with
      | error fault =>
          obtain ⟨given, rejected⟩ := (readQuery_eq_error_iff query fault).mp read
          rcases readObject_error rejected with ⟨defect, rfl⟩ | limit
          · exact .invalidJson digits given rejected
          · exact .queryLimit digits given rejected limit
      | ok body =>
          have isQuery := (readQuery_eq_ok_iff spaced body).mp read
          change IsReadAs size query (if size.length ≤ digitLimit then _ else _)
          split
          next short => exact .sized ⟨digits, short, rfl⟩ isQuery
          next long => exact .sizeLimit digits isQuery (Nat.lt_of_not_le long)
  · rintro (undigital | ⟨digits, given, rejected⟩ | ⟨digits, given, rejected, -⟩ |
      ⟨digits, isQuery, long⟩ | ⟨⟨digits, short, rfl⟩, isQuery⟩)
    · rw [if_pos undigital]
    · rw [if_neg (by simp [digits]), (readQuery_eq_error_iff query _).mpr ⟨given, rejected⟩]
      rfl
    · rw [if_neg (by simp [digits]), (readQuery_eq_error_iff query _).mpr ⟨given, rejected⟩]
      rfl
    · rw [if_neg (by simp [digits]), (readQuery_eq_ok_iff spaced _).mpr isQuery]
      exact if_neg (Nat.not_le_of_lt long)
    · rw [if_neg (by simp [digits]), (readQuery_eq_ok_iff spaced _).mpr isQuery]
      exact if_pos short

theorem demandedSearch_eq_ok_iff (spec : SearchPayload) : demandedSearch (some payload) = .ok spec ↔
    ∃ n body, IsSize size n ∧ IsQuery query body ∧ spec = ⟨some (n : Int), body⟩ := by
  rw [demandedSearch_eq_iff spaced]
  constructor
  · rintro (- | - | - | - | ⟨isSize, isQuery⟩)
    exact ⟨_, _, isSize, isQuery, rfl⟩
  · rintro ⟨n, body, isSize, isQuery, rfl⟩
    exact .sized isSize isQuery

end Payloads

/-! ## Every payload -/

namespace SearchPayload

theorem ofPayload_of_gap {payload : Option Text} (isGap : Text.IsGap (payload.getD [])) :
    ofPayload payload = .ok unlimited := by
  rw [searchPayload_ofPayload]
  cases payload with
  | none => rfl
  | some payload =>
      rw [demandedSearch, (Text.words_eq_nil_iff payload).mpr isGap]
      rfl

theorem exists_spaced {payload : Option Text} (given : ¬ Text.IsGap (payload.getD [])) :
    ∃ size query, Text.IsSpaced [size] query (payload.getD []) := by
  rw [← Text.words_eq_nil_iff] at given
  obtain ⟨size, later, words⟩ := List.exists_cons_of_ne_nil given
  exact ⟨size, _, @Text.isSpaced_afterWords [size] later _ words⟩

theorem isSet_requestBody {payload : Option Text} {n : Int} {body : Option Members}
    (read : ofPayload payload = .ok ⟨some n, body⟩) :
    Members.IsSet (text "size") (.integer n) (body.getD []) (requestBody ⟨some n, body⟩) := by
  rw [searchPayload_ofPayload] at read
  exact Members.isSet_put (demandedSearch_body_distinct read)

/-- A payload of blanks sets no size and asks for nothing.  Every other payload is a size and a
query, however they are spaced out, and is read as they are; and the request of a size and a query
is the query's with this size, in the place of the query's own, or else last. -/
theorem search_payload_is_read (payload : Option Text) :
    (Text.IsGap (payload.getD []) →
      ofPayload payload = .ok unlimited ∧ unlimited.requestBody = []) ∧
    (¬ Text.IsGap (payload.getD []) →
      ∃ size query, Text.IsSpaced [size] query (payload.getD [])) ∧
    ∀ size query, Text.IsSpaced [size] query (payload.getD []) →
      (∀ result, ofPayload payload = result ↔ IsReadAs size query result) ∧
      (∀ other, Text.IsSpaced [size] query other → ofPayload (some other) = ofPayload payload) ∧
      ∀ n body, ofPayload payload = .ok ⟨some n, body⟩ →
        Members.IsSet (text "size") (.integer n) (body.getD []) (requestBody ⟨some n, body⟩) ∧
        ((requestBody ⟨some n, body⟩).map Prod.fst).Nodup := by
  refine ⟨fun isGap => ⟨ofPayload_of_gap isGap, rfl⟩, exists_spaced, ?_⟩
  intro size query spaced
  obtain ⟨given, rfl⟩ : ∃ given, payload = some given := by
    cases payload with
    | none =>
        have words := words_sized spaced
        cases words
    | some given => exact ⟨given, rfl⟩
  simp only [searchPayload_ofPayload]
  refine ⟨demandedSearch_eq_iff spaced, ?_, ?_⟩
  · intro other alsoSpaced
    rw [demandedSearch_spaced alsoSpaced, ← demandedSearch_spaced spaced]
    rfl
  · intro n body read
    exact ⟨isSet_requestBody ((searchPayload_ofPayload _).trans read), demandedSearch_distinct read⟩

/-- A size with leading zeros and a query with a size of its own, spaced out in two ways. -/
def paddedPayload : Text := text "\t007 \n\x7b\"size\": 1, \"q\": 2\x7d "

def closePayload : Text := text "007 \x7b\"size\": 1, \"q\": 2\x7d"

def askedBody : Members := [(text "size", .integer 1), (text "q", .integer 2)]

theorem padded_search_payload_is_read :
    ofPayload (some paddedPayload) = .ok ⟨some 7, some askedBody⟩ ∧
      ofPayload (some closePayload) = .ok ⟨some 7, some askedBody⟩ ∧
      Members.IsSet (text "size") (.integer 7) askedBody
        (requestBody ⟨some 7, some askedBody⟩) ∧
      ofPayload (some (text " \n")) = .ok unlimited := by
  let query : Text := text "\x7b\"size\": 1, \"q\": 2\x7d"
  have padded : Text.IsSpaced [text "007"] query paddedPayload :=
    (Text.isSpaced_iff _ _ _).mpr ⟨⟨query.words, by decide +kernel⟩, by decide +kernel⟩
  have close : Text.IsSpaced [text "007"] query closePayload :=
    (Text.isSpaced_iff _ _ _).mpr ⟨⟨query.words, by decide +kernel⟩, by decide +kernel⟩
  have isSize : IsSize (text "007") 7 := ⟨by decide, by decide, by decide⟩
  have isQuery : IsQuery query (some askedBody) := .object (by decide) rfl
  obtain ⟨-, -, spaced⟩ := search_payload_is_read (some paddedPayload)
  obtain ⟨readAs, same, request⟩ := spaced _ _ padded
  have read : ofPayload (some paddedPayload) = .ok ⟨some 7, some askedBody⟩ :=
    (readAs _).mpr (.sized isSize isQuery)
  refine ⟨read, (same _ close).trans read, (request _ _ read).1, ?_⟩
  have blank : Text.IsGap (text " \n") := by decide
  exact ((search_payload_is_read (some (text " \n"))).1 blank).1

end SearchPayload

end SearchShell
