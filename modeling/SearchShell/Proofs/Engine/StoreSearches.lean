import Mathlib.Data.List.Dedup
import SearchShell.Proofs.Command.Layout
import SearchShell.Proofs.Engine.ShownDocuments
import SearchShell.Proofs.Engine.StoreContents
import SearchShell.Proofs.Number.Digits

/-!
# What searches of a store find

A sized search finds the documents that its path and its query match, in the order of the store.  A
count shows how many there are, whatever its size; a search shows the first of them.  A list of
names in a path finds what each of its names finds, and nothing twice.
-/

set_option autoImplicit false

namespace SearchShell

open JsonReader (IsShort)

def SearchScope.covers (scope : SearchScope) (address : DocumentAddress) : Bool :=
  Store.covers scope.indices address.index && Store.covers scope.types address.type

namespace Store

theorem inScope_eq (scope : SearchScope) (store : Store) :
    store.inScope scope =
      (store.toList.filter fun entry => scope.covers entry.1).map Prod.snd := by
  rw [inScope, toList, List.filter_flatMap, List.map_flatMap]
  induction store.groups.list with
  | nil => rfl
  | cons entry rest ih =>
      obtain ⟨⟨index, type⟩, group⟩ := entry
      rw [List.flatMap_cons, ← ih, List.filter_cons]
      by_cases covered : (covers scope.indices index && covers scope.types type) = true
      · simp [covered, SearchScope.covers, List.filter_map, Function.comp_def]
      · simp [covered, SearchScope.covers, List.filter_map, Function.comp_def]

/-- A search in the scope can tell of every document that it looks at whether it answers the query,
and these are the ones that do. -/
structure Finds (scope : SearchScope) (query : Json) (store : Store) (found : List Members) :
    Prop where
  judged : ∀ entry ∈ store.toList, scope.covers entry.1 = true →
    ∃ verdict, answersQuery query entry.2 = .ok verdict
  answers : found = (store.toList.filter fun entry =>
    scope.covers entry.1 && answersQuery query entry.2 = .ok true).map Prod.snd

theorem matching_eq_ok_iff (scope : SearchScope) (query : Json) (store : Store)
    (found : List Members) :
    store.matching scope query = .ok found ↔ Finds scope query store found := by
  rw [matching, Outcome.filterM_eq_ok_iff, inScope_eq]
  have chosen : ((store.toList.filter fun entry => scope.covers entry.1).map Prod.snd).filter
      (fun document => answersQuery query document = .ok true) =
      (store.toList.filter fun entry =>
        scope.covers entry.1 && answersQuery query entry.2 = .ok true).map Prod.snd := by
    rw [List.filter_map, List.filter_filter]
    congr 2
    funext entry
    exact Bool.and_comm _ _
  have judged : (∀ document ∈ (store.toList.filter fun entry => scope.covers entry.1).map Prod.snd,
      ∃ verdict, answersQuery query document = .ok verdict) ↔
      ∀ entry ∈ store.toList, scope.covers entry.1 = true →
        ∃ verdict, answersQuery query entry.2 = .ok verdict := by
    simp only [List.forall_mem_map, List.mem_filter, and_imp]
  rw [chosen, judged]
  exact ⟨fun ⟨each, all⟩ => ⟨each, all⟩, fun finds => ⟨finds.judged, finds.answers⟩⟩

end Store

namespace Members

theorem get?_put (name other : Text) (value : Json) (members : Members) :
    get? other (put name value members) =
      if other = name then some value else get? other members := by
  rw [put]
  induction members with
  | nil => simp [Entries.putIn, get?, eq_comm]
  | cons first rest ih =>
      obtain ⟨key, old⟩ := first
      by_cases replaced : key = name
      · subst replaced
        by_cases same : key = other
        · simp [Entries.putIn, get?, same]
        · simp [Entries.putIn, get?, same, Ne.symm same]
      · by_cases same : key = other
        · subst same
          simp [Entries.putIn, get?, replaced]
        · simp [Entries.putIn, get?, replaced, same, ih]

end Members

namespace Store

/-- A search for so many hits finds what answers its query, and gives the first of it. -/
theorem find_sized_eq_ok_iff (scope : SearchScope) (n : Nat) (body : Members) (store : Store)
    (hits : Hits) :
    store.find scope (Members.put (text "size") (.integer n) body) = .ok hits ↔
      ∃ found, Finds scope (Members.getOrNull (text "query") body) store found ∧
        hits = ⟨found.length, found.take n⟩ := by
  have query : Members.getOrNull (text "query") (Members.put (text "size") (.integer n) body) =
      Members.getOrNull (text "query") body := by
    rw [Members.getOrNull, Members.get?_put, if_neg (by decide), Members.getOrNull]
  have size : (Members.get? (text "size") (Members.put (text "size") (.integer n) body)).getD
      usualSize = .integer n := by
    rw [Members.get?_put, if_pos rfl, Option.getD_some]
  have first (found : List Members) : firstHits (.integer n) found = .ok (found.take n) := by
    have positive : ¬(n : Int) < 0 := by omega
    simp [firstHits, Json.asInt?, positive]
  simp only [find, query, size, first, Outcome.bind_eq_ok_iff, matching_eq_ok_iff, Except.ok.injEq]
  constructor
  · rintro ⟨found, finds, _, rfl, rfl⟩
    exact ⟨found, finds, rfl⟩
  · rintro ⟨found, finds, rfl⟩
    exact ⟨found, finds, _, rfl, rfl⟩

end Store

/-! ## Sized lines over a store -/

theorem IsQuery.unique {query : Text} {first second : Option Members}
    (isFirst : IsQuery query first) (isSecond : IsQuery query second) : first = second := by
  cases isFirst with
  | nothing blank =>
      cases isSecond with
      | nothing => rfl
      | object given => exact absurd blank given
  | object given read =>
      cases isSecond with
      | nothing blank => exact absurd blank given
      | object _ other =>
          cases read.symm.trans other
          rfl

def Verb.shows (verb : Verb) (n : Nat) (found : List Members) : Except Fault Envelope :=
  if verb = .count then Action.written .text (integerText found.length)
  else Action.written .table (tableText cellRoom (found.take n))

namespace Store

def answerTo (ids : Nat → Text) (line : Text) (store : Store) : Except Abort Envelope :=
  (Engine.interpret (engine ids) line store).outcome

inductive Matches (path query : Text) (store : Store) (found : List Members) : Prop
  | intro {body : Option Members} (few : (Text.pieces '/' path).length ≤ 2)
      (isQuery : IsQuery query body)
      (finds : Finds (pathScope path) (Members.getOrNull (text "query") (body.getD [])) store found)

section Answers

variable {ids : Nat → Text}

theorem Matches.unique {path query : Text} {store : Store} {first second : List Members}
    (isFirst : Matches path query store first) (isSecond : Matches path query store second) :
    first = second := by
  obtain ⟨-, isQuery, finds⟩ := isFirst
  obtain ⟨-, alsoQuery, alsoFinds⟩ := isSecond
  obtain rfl := isQuery.unique alsoQuery
  exact finds.answers.trans alsoFinds.answers.symm

theorem answerTo_eq_success_iff {line : Text} {store : Store} {form : ContentType} {body : Text} :
    answerTo ids line store = .ok (.success form body) ↔
      ∃ action, Action.ofLine line = .ok action ∧
        (action.perform (engine ids) store).outcome = .ok (.success form body) := by
  constructor
  · intro answered
    have executed := Engine.execute_of_success answered
    cases decided : Action.ofLine line with
    | error fault =>
        rw [Engine.execute_of_fault decided] at executed
        cases executed
    | ok action =>
        rw [Engine.execute_of_action decided] at executed
        exact ⟨action, rfl, executed⟩
  · rintro ⟨action, decided, performed⟩
    exact Engine.interpret_outcome_of_ok (by rw [Engine.execute_of_action decided, performed])

theorem search_outcome_eq_ok_iff (scope : SearchScope) (n : Nat) (body : Members) (store : Store)
    (hits : Hits) :
    ((engine ids).search scope (Members.put (text "size") (.integer n) body) store).outcome =
        .ok hits ↔
      ∃ found, Finds scope (Members.getOrNull (text "query") body) store found ∧
        hits = ⟨found.length, found.take n⟩ := by
  rw [← find_sized_eq_ok_iff]
  exact Outcome.mapError_eq_ok_iff _ _ _

section Searching

variable {verb : Verb} (searches : verb = .count ∨ verb = .search)

include searches

theorem perform_sizedAction (scope : SearchScope) (n : Nat) (body : Members) (store : Store)
    (envelope : Envelope) :
    ((verb.sizedAction scope n body).perform (engine ids) store).outcome = .ok envelope ↔
      ∃ found, Finds scope (Members.getOrNull (text "query") body) store found ∧
        verb.shows n found = .ok envelope := by
  rcases searches with rfl | rfl
  · simp only [Verb.sizedAction, if_true, Action.perform, Action.present_outcome,
      Outcome.bind_eq_ok_iff]
    constructor
    · rintro ⟨hits, searched, shown⟩
      obtain ⟨found, finds, rfl⟩ := (search_outcome_eq_ok_iff scope 0 body store hits).mp searched
      exact ⟨found, finds, (Outcome.mapError_eq_ok_iff _ _ _).mp shown⟩
    · rintro ⟨found, finds, shown⟩
      exact ⟨_, (search_outcome_eq_ok_iff scope 0 body store _).mpr ⟨found, finds, rfl⟩,
        (Outcome.mapError_eq_ok_iff _ _ _).mpr shown⟩
  · simp only [Verb.sizedAction, reduceCtorEq, if_false, Action.perform, Action.present_outcome,
      Outcome.bind_eq_ok_iff, search_outcome_eq_ok_iff]
    constructor
    · rintro ⟨hits, ⟨found, finds, rfl⟩, shown⟩
      exact ⟨found, finds, (Outcome.mapError_eq_ok_iff _ _ _).mp shown⟩
    · rintro ⟨found, finds, shown⟩
      exact ⟨_, ⟨found, finds, rfl⟩, (Outcome.mapError_eq_ok_iff _ _ _).mpr shown⟩

/-- A sized line succeeds exactly when it has a size and its path and its query find documents that
can be shown, and shows these. -/
theorem answerTo_sizedLine {path size query : Text} (isPath : IsWord path) (isWord : IsWord size)
    {store : Store} {form : ContentType} {body : Text} :
    answerTo ids (sizedLine verb path size query) store = .ok (.success form body) ↔
      ∃ n found, IsSize size n ∧ Matches path query store found ∧
        verb.shows n found = .ok (.success form body) := by
  simp only [answerTo_eq_success_iff, ofLine_sizedLine isPath isWord searches]
  constructor
  · rintro ⟨action, ⟨few, n, members, isSize, isQuery, rfl⟩, performed⟩
    obtain ⟨found, finds, shown⟩ := (perform_sizedAction searches _ n _ store _).mp performed
    exact ⟨n, found, isSize, ⟨few, isQuery, finds⟩, shown⟩
  · rintro ⟨n, found, isSize, ⟨few, isQuery, finds⟩, shown⟩
    exact ⟨_, ⟨few, n, _, isSize, isQuery, rfl⟩,
      (perform_sizedAction searches _ n _ store _).mpr ⟨found, finds, shown⟩⟩

end Searching

end Answers

end Store

/-! ## Lists of names -/

/-- What is looked at under any of some different keys is looked at under each of them. -/
theorem countP_mem_and_eq_sum {α κ : Type} [DecidableEq κ] (key : α → κ) (chosen : α → Bool)
    (items : List α) : ∀ {keys : List κ}, keys.Nodup →
      items.countP (fun item => decide (key item ∈ keys) && chosen item) =
        (keys.map fun k => items.countP fun item => decide (key item = k) && chosen item).sum := by
  intro keys
  induction keys with
  | nil => intro _; simp
  | cons k rest ih =>
      intro distinct
      obtain ⟨absent, distinct⟩ := List.nodup_cons.mp distinct
      rw [List.map_cons, List.sum_cons, ← ih distinct]
      -- One key against all the others: an item is under the one or under these, never under both.
      clear ih
      induction items with
      | nil => rfl
      | cons item others ih =>
          rw [List.countP_cons, List.countP_cons, List.countP_cons, ih]
          by_cases same : key item = k
          · subst same
            simp [absent]
            omega
          · simp [same]
            omega

structure IsName (name : Text) : Prop where
  isPart : IsPart name
  single : CodePoint.ofChar ',' ∉ name

def nameList (names : List Text) : Text := Text.joined (text ",") names

section Names

variable {names : List Text} (nonempty : names ≠ []) (each : ∀ name ∈ names, IsName name)

include nonempty each

theorem isPart_nameList : IsPart (nameList names) := by
  have inName {c : CodePoint} (member : c ∈ nameList names) :
      c = CodePoint.ofChar ',' ∨ ∃ name ∈ names, c ∈ name := Text.mem_joined member
  refine ⟨?_, ?_, ?_⟩
  · have shorter := Text.count_le_joined (text ",")
      fun name isName => (each name isName).isPart.nonempty
    have some := List.length_pos_iff.mpr nonempty
    exact List.length_pos_iff.mp (Nat.lt_of_lt_of_le some shorter)
  · intro c member
    rcases inName member with rfl | ⟨name, isName, inside⟩
    · decide
    · exact (each name isName).isPart.unbroken c inside
  · intro member
    rcases inName member with same | ⟨name, isName, inside⟩
    · exact absurd same (by decide)
    · exact (each name isName).isPart.whole inside

omit nonempty in
theorem listedNames_nameList : listedNames (some (nameList names)) = names :=
  Text.pieces_joined fun name isName =>
    ⟨(each name isName).isPart.nonempty, (each name isName).single⟩

end Names

def listPath (before names after : List Text) : Text :=
  linePath (before ++ nameList names :: after)

theorem listPath_singleton (before after : List Text) (name : Text) :
    listPath before [name] after = linePath (before ++ name :: after) := by
  rw [listPath, nameList]
  exact congrArg (fun list => linePath (before ++ list :: after)) (Text.joined_singleton name)

section Lists

variable {before after : List Text} (others : ∀ part ∈ before ++ after, IsPart part)

include others

section Paths

variable {names : List Text} (nonempty : names ≠ []) (each : ∀ name ∈ names, IsName name)

include nonempty each

theorem isPart_of_mem_parts : ∀ part ∈ before ++ nameList names :: after, IsPart part := by
  intro part member
  rcases List.mem_append.mp member with inBefore | member
  · exact others part (List.mem_append_left _ inBefore)
  rcases List.mem_cons.mp member with rfl | inAfter
  · exact isPart_nameList nonempty each
  · exact others part (List.mem_append_right _ inAfter)

theorem pieces_listPath :
    Text.pieces '/' (listPath before names after) = before ++ nameList names :: after :=
  pieces_linePath (isPart_of_mem_parts others nonempty each)
    (List.append_ne_nil_of_right_ne_nil _ (List.cons_ne_nil _ _))

theorem isWord_listPath : IsWord (listPath before names after) :=
  ⟨linePath_ne_nil (List.append_ne_nil_of_right_ne_nil _ (List.cons_ne_nil _ _)),
    linePath_unbroken (isPart_of_mem_parts others nonempty each)⟩

end Paths

/-- A list of names, for the indices or for the types, covers a document by its name and leaves what
else is asked of it. -/
theorem exists_covers_listPath (few : before.length + after.length ≤ 1) :
    ∃ (key : DocumentAddress → Text) (chosen : DocumentAddress → Bool),
      ∀ {names : List Text}, names ≠ [] → (∀ name ∈ names, IsName name) → ∀ address,
        (pathScope (listPath before names after)).covers address =
          (decide (key address ∈ names) && chosen address) := by
  have listed {names : List Text} (nonempty : names ≠ []) (each : ∀ name ∈ names, IsName name)
      (name : Text) : Store.covers (listedNames (some (nameList names))) name =
        decide (name ∈ names) := by
    rw [listedNames_nameList each, Store.covers, List.isEmpty_eq_false_iff.mpr nonempty,
      Bool.false_or, List.contains_eq_mem]
  cases before with
  | nil =>
      refine ⟨DocumentAddress.index,
        fun address => Store.covers (listedNames after[0]?) address.type, ?_⟩
      intro names nonempty each address
      rw [SearchScope.covers, pathScope, pieces_listPath others nonempty each]
      simp only [List.nil_append, List.getElem?_cons_zero, List.getElem?_cons_succ,
        listed nonempty each]
  | cons index rest =>
      obtain rfl : rest = [] := by
        rw [List.length_cons] at few
        exact List.length_eq_zero_iff.mp (by omega)
      refine ⟨DocumentAddress.type,
        fun address => Store.covers (listedNames (some index)) address.index, ?_⟩
      intro names nonempty each address
      rw [SearchScope.covers, pathScope, pieces_listPath others nonempty each]
      simp only [List.cons_append, List.nil_append, List.getElem?_cons_zero,
        List.getElem?_cons_succ, listed nonempty each, Bool.and_comm]

end Lists

namespace Store

def Amounts (path query : Text) (store : Store) (total : Nat) : Prop :=
  ∃ found, Matches path query store found ∧ found.length = total

section Shown

variable {ids : Nat → Text} {path : Text} (isPath : IsWord path) {size : Text}
  (isWord : IsWord size) {query : Text} {store : Store}

include isPath isWord

theorem answerTo_count_iff {form : ContentType} {body : Text} :
    answerTo ids (sizedLine .count path size query) store = .ok (.success form body) ↔
      ∃ n found, IsSize size n ∧ Matches path query store found ∧
        form = .text ∧ body = Text.ofNat found.length ∧ IsShort found.length := by
  have shows (n : Nat) (found : List Members) :
      Verb.shows .count n found = .ok (.success form body) ↔
        form = .text ∧ body = Text.ofNat found.length ∧ IsShort found.length := by
    rw [Verb.shows, if_pos rfl, Action.written_eq_ok_iff]
    simp only [integerText_eq_ok_iff, Envelope.success.injEq]
    constructor
    · rintro ⟨s, ⟨short, rfl⟩, isText, rfl⟩
      exact ⟨isText, rfl, short⟩
    · rintro ⟨isText, rfl, short⟩
      exact ⟨_, ⟨short, rfl⟩, isText, rfl⟩
  simp only [answerTo_sizedLine (Or.inl rfl) isPath isWord, shows]

theorem answerTo_search_iff {form : ContentType} {body : Text} :
    answerTo ids (sizedLine .search path size query) store = .ok (.success form body) ↔
      ∃ n found, IsSize size n ∧ Matches path query store found ∧
        form = .table ∧ tableText cellRoom (found.take n) = .ok body := by
  have shows (n : Nat) (found : List Members) :
      Verb.shows .search n found = .ok (.success form body) ↔
        form = .table ∧ tableText cellRoom (found.take n) = .ok body := by
    rw [Verb.shows, if_neg (by decide), Action.written_eq_ok_iff]
    simp only [Envelope.success.injEq]
    exact ⟨fun ⟨s, shown, isTable, same⟩ => ⟨isTable, same ▸ shown⟩,
      fun ⟨isTable, shown⟩ => ⟨body, shown, isTable, rfl⟩⟩
  simp only [answerTo_sizedLine (Or.inr rfl) isPath isWord, shows]

theorem answerTo_count {total : Nat} :
    answerTo ids (sizedLine .count path size query) store =
        .ok (.success .text (Text.ofNat total)) ↔
      (∃ n, IsSize size n) ∧ Amounts path query store total ∧ IsShort total := by
  rw [answerTo_count_iff isPath isWord]
  constructor
  · rintro ⟨n, found, isSize, isFound, -, shown, short⟩
    have same := congrArg Text.asciiNumber shown
    rw [Text.asciiNumber_ofNat, Text.asciiNumber_ofNat] at same
    exact ⟨⟨n, isSize⟩, ⟨found, isFound, same.symm⟩, same ▸ short⟩
  · rintro ⟨⟨n, isSize⟩, ⟨found, isFound, rfl⟩, short⟩
    exact ⟨n, found, isSize, isFound, rfl, rfl, short⟩

omit isWord in
theorem answerTo_search_of {n : Nat} {found : List Members} (isSize : IsSize size n)
    (isFound : Matches path query store found) {form : ContentType} {body : Text} :
    answerTo ids (sizedLine .search path size query) store = .ok (.success form body) ↔
      form = .table ∧ tableText cellRoom (found.take n) = .ok body := by
  rw [answerTo_search_iff isPath isSize.isWord]
  constructor
  · rintro ⟨other, others, isOther, areOthers, shown⟩
    obtain rfl := isSize.value.symm.trans isOther.value
    obtain rfl := isFound.unique areOthers
    exact shown
  · exact fun shown => ⟨n, found, isSize, isFound, shown⟩

end Shown

theorem amounts_iff (path query : Text) (store : Store) (total : Nat) :
    Amounts path query store total ↔ (Text.pieces '/' path).length ≤ 2 ∧
      ∃ body, IsQuery query body ∧
        (∀ entry ∈ store.toList, (pathScope path).covers entry.1 = true →
          ∃ verdict, answersQuery (Members.getOrNull (text "query") (body.getD [])) entry.2 =
            .ok verdict) ∧
        total = store.toList.countP fun entry => (pathScope path).covers entry.1 &&
          answersQuery (Members.getOrNull (text "query") (body.getD [])) entry.2 = .ok true := by
  constructor
  · rintro ⟨found, ⟨few, isQuery, finds⟩, rfl⟩
    refine ⟨few, _, isQuery, finds.judged, ?_⟩
    rw [finds.answers, List.length_map, List.countP_eq_length_filter]
  · rintro ⟨few, body, isQuery, judged, rfl⟩
    refine ⟨_, ⟨few, isQuery, judged, rfl⟩, ?_⟩
    rw [List.length_map, List.countP_eq_length_filter]

section Tallies

variable {α : Type} (key : α → Text) (chosen : α → Bool)
  (answer : Option Members → α → Except ShapeFault Bool) (items : List α) (query : Text)

/-- Of the items that a name is the key of and that are chosen, so many answer the query. -/
def Tallies (names : List Text) (total : Nat) : Prop :=
  ∃ body, IsQuery query body ∧
    (∀ item ∈ items, key item ∈ names → chosen item = true →
      ∃ verdict, answer body item = .ok verdict) ∧
    total = items.countP fun item => decide (key item ∈ names) &&
      (chosen item && decide (answer body item = .ok true))

/-- The tally of names is the sum of the tallies of each of them. -/
theorem tallies_iff_sum {names : List Text} (nonempty : names ≠ []) (total : Nat) :
    Tallies key chosen answer items query names total ↔
      ∃ share : Text → Nat, (∀ name ∈ names,
        Tallies key chosen answer items query [name] (share name)) ∧
        (names.dedup.map share).sum = total := by
  -- The share of a name is what is counted under it with the one query that there is.
  have shares (body : Option Members) : items.countP (fun item => decide (key item ∈ names) &&
        (chosen item && decide (answer body item = .ok true))) =
      (names.dedup.map fun name => items.countP fun item => decide (key item ∈ [name]) &&
        (chosen item && decide (answer body item = .ok true))).sum := by
    simpa using countP_mem_and_eq_sum key
      (fun item => chosen item && decide (answer body item = .ok true)) items names.nodup_dedup
  constructor
  · rintro ⟨body, isQuery, judged, rfl⟩
    refine ⟨_, fun name isName => ⟨body, isQuery, ?_, rfl⟩, (shares body).symm⟩
    intro item member isKey
    exact judged item member (by rwa [List.mem_singleton.mp isKey])
  · rintro ⟨share, tallies, rfl⟩
    obtain ⟨first, isFirst⟩ := List.exists_mem_of_ne_nil names nonempty
    obtain ⟨body, isQuery, -, -⟩ := tallies first isFirst
    refine ⟨body, isQuery, ?_, ?_⟩
    · intro item member isKey
      obtain ⟨other, isOther, judged, -⟩ := tallies (key item) isKey
      obtain rfl := isQuery.unique isOther
      exact judged item member (List.mem_singleton_self _)
    · rw [shares body]
      congr 1
      refine List.map_congr_left fun name member => ?_
      obtain ⟨other, isOther, -, isShare⟩ := tallies name (List.mem_dedup.mp member)
      obtain rfl := isQuery.unique isOther
      exact isShare

end Tallies

section Lists

variable {before after : List Text} (others : ∀ part ∈ before ++ after, IsPart part)
  (query : Text) (store : Store)

include others

theorem exists_tallies_listPath (few : before.length + after.length ≤ 1) :
    ∃ key chosen answer, ∀ {names : List Text}, names ≠ [] → (∀ name ∈ names, IsName name) →
      ∀ total, Amounts (listPath before names after) query store total ↔
        Tallies key chosen answer store.toList query names total := by
  obtain ⟨key, chosen, covers_listPath⟩ := exists_covers_listPath others few
  refine ⟨fun entry => key entry.1, fun entry => chosen entry.1, fun body entry =>
    answersQuery (Members.getOrNull (text "query") (body.getD [])) entry.2, ?_⟩
  intro names nonempty each total
  have short : (Text.pieces '/' (listPath before names after)).length ≤ 2 := by
    rw [pieces_listPath others nonempty each, List.length_append, List.length_cons]
    omega
  simp only [amounts_iff, Tallies, covers_listPath nonempty each, short, true_and,
    Bool.and_eq_true, decide_eq_true_eq, and_imp, Bool.and_assoc]

theorem not_amounts_of_long (long : 1 < before.length + after.length) {names : List Text}
    (nonempty : names ≠ []) (each : ∀ name ∈ names, IsName name) (total : Nat) :
    ¬Amounts (listPath before names after) query store total := by
  rw [amounts_iff, pieces_listPath others nonempty each, List.length_append, List.length_cons]
  exact fun ⟨short, _⟩ => absurd short (by omega)

/-- A list of names matches as many documents as its different names do together. -/
theorem amounts_listPath {names : List Text} (nonempty : names ≠ [])
    (each : ∀ name ∈ names, IsName name) (total : Nat) :
    Amounts (listPath before names after) query store total ↔
      ∃ share : Text → Nat, (∀ name ∈ names,
        Amounts (linePath (before ++ name :: after)) query store (share name)) ∧
        (names.dedup.map share).sum = total := by
  have alone {name : Text} (isName : name ∈ names) : ∀ other ∈ [name], IsName other :=
    List.forall_mem_singleton.mpr (each name isName)
  simp only [← listPath_singleton]
  -- A path of more than two parts matches nothing, whatever names are listed in it.
  by_cases few : before.length + after.length ≤ 1
  · obtain ⟨key, chosen, answer, amounts⟩ := exists_tallies_listPath others query store few
    have one (name : Text) (isName : name ∈ names) (share : Nat) :=
      amounts (List.cons_ne_nil name []) (alone isName) share
    rw [amounts nonempty each, tallies_iff_sum _ _ _ _ _ nonempty]
    constructor
    · rintro ⟨share, tallies, sum⟩
      exact ⟨share, fun name isName => (one name isName _).mpr (tallies name isName), sum⟩
    · rintro ⟨share, each, sum⟩
      exact ⟨share, fun name isName => (one name isName _).mp (each name isName), sum⟩
  · have long : 1 < before.length + after.length := by omega
    obtain ⟨first, isFirst⟩ := List.exists_mem_of_ne_nil names nonempty
    constructor
    · exact fun amounts =>
        absurd amounts (not_amounts_of_long others query store long nonempty each total)
    · rintro ⟨share, amounts, -⟩
      exact absurd (amounts first isFirst)
        (not_amounts_of_long others query store long (List.cons_ne_nil _ _) (alone isFirst) _)

end Lists

/-- Over every store, whatever the path and the query are: a count shows how many documents match
them, as a decimal number that its size has no part in; a search shows the first of these documents,
as many as its size says, so that those for a smaller size are the first of those for a larger one;
and a list of different names, for the indices or for the types, counts the sum of what its names
count alone, while a name that stands in it again adds nothing. -/
theorem totals_and_hits (ids : Nat → Text) (store : Store) (query : Text) :
    (∀ path size form body, IsWord path → IsWord size →
      (answerTo ids (sizedLine .count path size query) store = .ok (.success form body) ↔
        ∃ n found, IsSize size n ∧ Matches path query store found ∧
          form = .text ∧ body = Text.ofNat found.length ∧ IsShort found.length) ∧
      (answerTo ids (sizedLine .search path size query) store = .ok (.success form body) ↔
        ∃ n found, IsSize size n ∧ Matches path query store found ∧
          form = .table ∧ tableText cellRoom (found.take n) = .ok body)) ∧
    (∀ path small large n m, IsWord path → IsSize small n → IsSize large m → n ≤ m →
      (∀ form body,
        answerTo ids (sizedLine .count path small query) store = .ok (.success form body) ↔
          answerTo ids (sizedLine .count path large query) store = .ok (.success form body)) ∧
      (∀ total,
        answerTo ids (sizedLine .count path small query) store =
            .ok (.success .text (Text.ofNat total)) →
          ∃ shown more, shown.length = min n total ∧ more.length = min m total ∧ shown <+: more ∧
            ∀ form body,
              (answerTo ids (sizedLine .search path small query) store =
                  .ok (.success form body) ↔
                form = .table ∧ tableText cellRoom shown = .ok body) ∧
              (answerTo ids (sizedLine .search path large query) store =
                  .ok (.success form body) ↔
                form = .table ∧ tableText cellRoom more = .ok body))) ∧
    (∀ before after names size total, (∀ part ∈ before ++ after, IsPart part) → names ≠ [] →
      (∀ name ∈ names, IsName name) → IsWord size →
      (answerTo ids (sizedLine .count (listPath before names after) size query) store =
          .ok (.success .text (Text.ofNat total)) ↔
        IsShort total ∧ ∃ share : Text → Nat, (∀ name ∈ names,
          answerTo ids (sizedLine .count (linePath (before ++ name :: after)) size query) store =
            .ok (.success .text (Text.ofNat (share name)))) ∧
          (names.dedup.map share).sum = total)) := by
  refine ⟨?_, ?_, ?_⟩
  · intro path size form body isPath isWord
    exact ⟨answerTo_count_iff isPath isWord, answerTo_search_iff isPath isWord⟩
  · intro path small large n m isPath isSmall isLarge le
    have smallWord := isSmall.isWord
    have largeWord := isLarge.isWord
    refine ⟨?_, ?_⟩
    · intro form body
      rw [answerTo_count_iff isPath smallWord, answerTo_count_iff isPath largeWord]
      constructor
      · rintro ⟨_, found, -, shown⟩
        exact ⟨m, found, isLarge, shown⟩
      · rintro ⟨_, found, -, shown⟩
        exact ⟨n, found, isSmall, shown⟩
    · intro total counted
      obtain ⟨-, ⟨found, isFound, rfl⟩, -⟩ := (answerTo_count isPath smallWord).mp counted
      refine ⟨found.take n, found.take m, List.length_take, List.length_take,
        List.take_prefix_take_left le, fun form body => ⟨?_, ?_⟩⟩
      · exact answerTo_search_of isPath isSmall isFound
      · exact answerTo_search_of isPath isLarge isFound
  · intro before after names size total others nonempty each isWord
    have alone {name : Text} (isName : name ∈ names) :
        IsWord (linePath (before ++ name :: after)) := by
      rw [← listPath_singleton]
      exact isWord_listPath others (List.cons_ne_nil _ _) (List.forall_mem_singleton.mpr
        (each name isName))
    have some : ∃ name, name ∈ names := List.exists_mem_of_ne_nil names nonempty
    rw [answerTo_count (isWord_listPath others nonempty each) isWord,
      amounts_listPath others query store nonempty each]
    constructor
    · rintro ⟨isSize, ⟨share, amounts, rfl⟩, short⟩
      refine ⟨short, share, fun name isName => ?_, rfl⟩
      have less : share name ≤ (names.dedup.map share).sum :=
        List.single_le_sum (fun _ _ => Nat.zero_le _) _
          (List.mem_map_of_mem (List.mem_dedup.mpr isName))
      exact (answerTo_count (alone isName) isWord).mpr
        ⟨isSize, amounts name isName, Nat.lt_of_le_of_lt less short⟩
    · rintro ⟨short, share, counted, sum⟩
      have amounts (name : Text) (isName : name ∈ names) :=
        (answerTo_count (alone isName) isWord).mp (counted name isName)
      obtain ⟨name, isName⟩ := some
      exact ⟨(amounts name isName).1, ⟨share, fun name isName => (amounts name isName).2.1, sum⟩,
        short⟩

def twoIndices : Store :=
  ofList [(⟨text "a", text "t", text "1"⟩, [(text "n", .integer 1)]),
    (⟨text "b", text "t", text "1"⟩, [(text "n", .integer 2)]),
    (⟨text "a", text "t", text "2"⟩, [(text "n", .integer 3)])]

theorem repeated_index_counts_once :
    let names := [text "a", text "b", text "a"]
    listPath [] names [text "t"] = text "/a,b,a/t" ∧
      answerTo Text.ofNat (sizedLine .count (listPath [] names [text "t"]) (text "1") [])
        twoIndices = .ok (.success .text (text "3")) := by
  intro names
  have isName : ∀ name ∈ names, IsName name := by
    intro name member
    simp only [names, List.mem_cons, List.not_mem_nil, or_false] at member
    rcases member with rfl | rfl | rfl <;> exact ⟨by decide, by decide⟩
  have isType : ∀ part ∈ [] ++ [text "t"], IsPart part := by decide
  have isSize : IsWord (text "1") := ⟨by decide, by decide⟩
  refine ⟨by decide, ?_⟩
  refine ((totals_and_hits Text.ofNat twoIndices []).2.2 [] [text "t"] names (text "1") 3 isType
    (by decide) isName isSize).mpr ⟨isShort_of_lt 2 (by decide) (by decide),
      fun name => if name = text "a" then 2 else 1, ?_, by decide⟩
  intro name member
  simp only [names, List.mem_cons, List.not_mem_nil, or_false] at member
  rcases member with rfl | rfl | rfl <;> decide +kernel

end Store

end SearchShell
