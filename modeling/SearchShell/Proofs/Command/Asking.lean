import SearchShell.Proofs.Command.Actions

/-!
# What actions lines ask for

The verb of a line and the parts of its path determine its action up to what the payload
adds.  A line for one document is an action whatever follows its path.
-/

set_option autoImplicit false

namespace SearchShell

def asked? (line : Text) : Option (Verb × List Text) :=
  match line.words with
  | word :: path :: _ => (Verb.ofWord? word).map fun verb => (verb, Text.pieces '/' path)
  | _ => none

/-! ## Parts of paths -/

theorem piece_unbroken {path : Text} {separator : CodePoint}
    (unbroken : ∀ c ∈ path, c.isBlank = false) :
    ∀ part ∈ Text.pieces separator path, part.isBlank = false := by
  intro part member
  obtain ⟨split, nonempty⟩ := List.mem_filter.mp member
  obtain ⟨c, rest, rfl⟩ := List.exists_cons_of_ne_nil (show part ≠ [] by simpa using nonempty)
  have inPath := (Text.mem_of_mem_splitOn split (show c ∈ c :: rest by simp)).1
  simp [Text.isBlank, unbroken c inPath]

section Paths

variable {parts : List Text}

theorem documentAddress_ofSegments (unbroken : ∀ part ∈ parts, part.isBlank = false) :
    DocumentAddress.ofSegments parts =
      if parts.length = 3 then
        .ok ⟨parts[0]?.getD [], parts[1]?.getD [], parts[2]?.getD []⟩
      else .error (.badPath .document) := by
  unfold DocumentAddress.ofSegments
  split
  next index type id =>
    have first := unbroken index (by simp)
    have second := unbroken type (by simp)
    have third := unbroken id (by simp)
    simp [first, second, third]
  next others =>
    rw [if_neg]
    intro three
    obtain ⟨a, b, c, rfl⟩ := List.length_eq_three.mp three
    exact others a b c rfl

theorem searchScope_ofSegments :
    SearchScope.ofSegments parts =
      if parts.length ≤ 2 then .ok ⟨listedNames parts[0]?, listedNames parts[1]?⟩
      else .error (.badPath .search) := by
  unfold SearchScope.ofSegments
  by_cases few : parts.length ≤ 2
  · simp only [few, if_true, show ¬parts.length > 2 by omega, if_false]
    rfl
  · simp only [few, if_false, show parts.length > 2 by omega, if_true]

theorem writeTarget_ofSegments :
    WriteTarget.ofSegments parts =
      if parts.length = 2 ∨ parts.length = 3 then
        .ok ⟨parts[0]?.getD [], parts[1]?.getD [], parts[2]?⟩
      else .error (.badPath .index) := by
  unfold WriteTarget.ofSegments
  split
  next => simp
  next => simp
  next notTwo notThree =>
    rw [if_neg]
    rintro (two | three)
    · obtain ⟨a, b, rfl⟩ := List.length_eq_two.mp two
      exact notTwo a b rfl
    · obtain ⟨a, b, c, rfl⟩ := List.length_eq_three.mp three
      exact notThree a b c rfl

end Paths

/-! ## Lines and actions -/

theorem asked?_eq_some {line : Text} {verb : Verb} {parts : List Text}
    (asked : asked? line = some (verb, parts)) :
    ∃ word path rest, line.words = word :: path :: rest ∧ Verb.ofWord? word = some verb ∧
      parts = Text.pieces '/' path := by
  unfold asked? at asked
  split at asked
  next word path rest words =>
    obtain ⟨found, named, same⟩ := Option.map_eq_some_iff.mp asked
    cases same
    exact ⟨word, path, rest, words, named, rfl⟩
  next => cases asked

/-- The parts of a line's path are no blanks. -/
theorem asked?_parts {line : Text} {verb : Verb} {parts : List Text}
    (asked : asked? line = some (verb, parts)) :
    ∀ part ∈ parts, part ≠ [] ∧ part.isBlank = false := by
  obtain ⟨word, path, rest, words, -, rfl⟩ := asked?_eq_some asked
  have unbroken : ∀ c ∈ path, c.isBlank = false :=
    Text.word_unbroken (s := line) (by simp [words])
  exact fun part member => ⟨Text.piece_ne_nil member, piece_unbroken unbroken part member⟩

/-- The words themselves no longer count when the verb and the parts of the path are known. -/
theorem ofCommand_words (verb : Verb) (word path : Text) (payload : Option Text)
    (parts : List Text) :
    Action.ofCommand verb ⟨word, path, payload, parts⟩ =
      Action.ofCommand verb ⟨[], [], payload, parts⟩ := by
  cases verb with
  | get | count | search | index | delete => rfl

theorem ofLine_of_asked {line : Text} {verb : Verb} {parts : List Text}
    (asked : asked? line = some (verb, parts)) :
    Action.ofLine line = Action.ofCommand verb ⟨[], [], payloadOf? line, parts⟩ := by
  obtain ⟨word, path, rest, words, named, rfl⟩ := asked?_eq_some asked
  have tokens := (Command.ofLine_eq_ok_iff line _).mpr ⟨word, path, rest, words, rfl⟩
  simp only [Action.ofLine, tokens, Except.mapError, bind, Except.bind, named, ofCommand_words]

theorem ofLine_eq_ok_iff (line : Text) (action : Action) :
    Action.ofLine line = .ok action ↔
      ∃ verb parts, asked? line = some (verb, parts) ∧
        Action.ofCommand verb ⟨[], [], payloadOf? line, parts⟩ = .ok action := by
  constructor
  · intro decided
    simp only [Action.ofLine, Outcome.bind_eq_ok_iff, Outcome.mapError_eq_ok_iff] at decided
    obtain ⟨command, tokens, chosen⟩ := decided
    obtain ⟨word, path, rest, words, rfl⟩ := (Command.ofLine_eq_ok_iff line command).mp tokens
    cases named : Verb.ofWord? word with
    | none =>
        simp only [named] at chosen
        cases chosen
    | some verb =>
        simp only [named, ofCommand_words] at chosen
        exact ⟨verb, _, by simp [asked?, words, named], chosen⟩
  · rintro ⟨verb, parts, asked, chosen⟩
    exact (ofLine_of_asked asked).trans chosen

inductive Asks (line : Text) : Action → Prop
  | get {index type id : Text} (asked : asked? line = some (.get, [index, type, id])) :
      Asks line (.get ⟨index, type, id⟩)
  | count {parts : List Text} {body : Members} (asked : asked? line = some (.count, parts)) :
      Asks line (.count ⟨listedNames parts[0]?, listedNames parts[1]?⟩ body)
  | search {parts : List Text} {body : Members} (asked : asked? line = some (.search, parts)) :
      Asks line (.search ⟨listedNames parts[0]?, listedNames parts[1]?⟩ body)
  | index {index type : Text} {id : Option Text} {document : Members}
      (asked : asked? line = some (.index, [index, type] ++ id.toList))
      (payload : readDocument (payloadOf? line) = .ok document) :
      Asks line (.index ⟨index, type, id⟩ document)
  | delete {index type id : Text} (asked : asked? line = some (.delete, [index, type, id])) :
      Asks line (.delete ⟨index, type, id⟩)

theorem documentAddress_eq_ok {parts : List Text} {address : DocumentAddress}
    (found : DocumentAddress.ofSegments parts = .ok address) :
    parts = [address.index, address.type, address.id] := by
  unfold DocumentAddress.ofSegments at found
  split at found
  · split at found
    · cases found
    · cases found
      rfl
  · cases found

theorem writeTarget_eq_ok {parts : List Text} {target : WriteTarget}
    (found : WriteTarget.ofSegments parts = .ok target) :
    parts = [target.index, target.type] ++ target.id.toList := by
  unfold WriteTarget.ofSegments at found
  split at found
  · cases found
    rfl
  · cases found
    rfl
  · cases found

theorem asks_of_ofLine {line : Text} {action : Action} (ok : Action.ofLine line = .ok action) :
    Asks line action := by
  obtain ⟨verb, parts, asked, chosen⟩ := (ofLine_eq_ok_iff line action).mp ok
  cases verb with
  | get =>
      simp only [Action.ofCommand, Outcome.map_eq_ok_iff, Outcome.mapError_eq_ok_iff] at chosen
      obtain ⟨address, found, rfl⟩ := chosen
      exact .get (documentAddress_eq_ok found ▸ asked)
  | delete =>
      simp only [Action.ofCommand, Outcome.map_eq_ok_iff, Outcome.mapError_eq_ok_iff] at chosen
      obtain ⟨address, found, rfl⟩ := chosen
      exact .delete (documentAddress_eq_ok found ▸ asked)
  | count =>
      simp only [Action.ofCommand, searchScope_ofSegments, Outcome.bind_eq_ok_iff,
        Outcome.mapError_eq_ok_iff] at chosen
      obtain ⟨scope, found, spec, -, same⟩ := chosen
      split at found
      · cases found
        cases same
        exact .count asked
      · cases found
  | search =>
      simp only [Action.ofCommand, searchScope_ofSegments, Outcome.bind_eq_ok_iff,
        Outcome.mapError_eq_ok_iff] at chosen
      obtain ⟨scope, found, spec, -, same⟩ := chosen
      split at found
      · cases found
        cases same
        exact .search asked
      · cases found
  | index =>
      simp only [Action.ofCommand, Outcome.bind_eq_ok_iff, Outcome.mapError_eq_ok_iff] at chosen
      obtain ⟨target, found, document, payload, same⟩ := chosen
      cases same
      exact .index (writeTarget_eq_ok found ▸ asked) payload

/-- A line with a verb for one document and the parts of its address is an action. -/
theorem ofLine_get {line index type id : Text}
    (asked : asked? line = some (.get, [index, type, id])) :
    Action.ofLine line = .ok (.get ⟨index, type, id⟩) := by
  have unbroken := fun part member => (asked?_parts asked part member).2
  rw [ofLine_of_asked asked, Action.ofCommand, documentAddress_ofSegments unbroken]
  rfl

theorem ofLine_delete {line index type id : Text}
    (asked : asked? line = some (.delete, [index, type, id])) :
    Action.ofLine line = .ok (.delete ⟨index, type, id⟩) := by
  have unbroken := fun part member => (asked?_parts asked part member).2
  rw [ofLine_of_asked asked, Action.ofCommand, documentAddress_ofSegments unbroken]
  rfl

theorem ofLine_index {line : Text} {parts : List Text}
    (asked : asked? line = some (.index, parts)) (arity : parts.length = 2 ∨ parts.length = 3) :
    Action.ofLine line = (readDocument (payloadOf? line)).map
      (.index ⟨parts[0]?.getD [], parts[1]?.getD [], parts[2]?⟩) := by
  rw [ofLine_of_asked asked, Action.ofCommand, writeTarget_ofSegments, if_pos arity]
  cases readDocument (payloadOf? line) with
  | ok document => simp only [Except.mapError, Except.map, bind, Except.bind]
  | error fault => simp only [Except.mapError, Except.map, bind, Except.bind]

end SearchShell
