import SearchShell.Proofs.Command.Payloads

/-!
# The layout of lines

A line with at least two words is a verb, a path and a payload, with blanks before, between and
after them.  However it is spaced out, it is taken apart into these three, and the payload, which
begins with the third word and ends with the last one, is kept as it was typed.
-/

set_option autoImplicit false

namespace SearchShell

/-! ## Sized searches

A count or a search can say after its path how many hits it wants and then what it looks for.  Such
a line is an action exactly when its path has at most two parts, its size is a number in digits and
its query is an object, if it has one. -/

/-! ### Sized lines -/

def sizedLine (verb : Verb) (path size query : Text) : Text :=
  verb.followedBy (path ++ CodePoint.ofChar ' ' :: (size ++ CodePoint.ofChar ' ' :: query))

structure IsWord (s : Text) : Prop where
  nonempty : s ≠ []
  unbroken : ∀ c ∈ s, c.isBlank = false

theorem IsSize.isWord {size : Text} {n : Nat} (isSize : IsSize size n) : IsWord size := by
  obtain ⟨nonempty, digits⟩ := (Text.isAsciiDigits_iff size).mp isSize.digits
  exact ⟨nonempty, fun c member => CodePoint.isBlank_of_isAsciiDigit (digits c member)⟩

def pathScope (path : Text) : SearchScope :=
  let parts := Text.pieces '/' path
  ⟨listedNames parts[0]?, listedNames parts[1]?⟩

/-- The action of a line for so many hits, of which a count wants none. -/
def Verb.sizedAction (verb : Verb) (scope : SearchScope) (n : Nat) (query : Members) : Action :=
  if verb = .count then .count scope (Members.put (text "size") (.integer 0) query)
  else .search scope (Members.put (text "size") (.integer n) query)

theorem ofLine_eq_ok_iff_of_asked {line : Text} {verb : Verb} {parts : List Text}
    (asked : asked? line = some (verb, parts)) (action : Action) :
    Action.ofLine line = .ok action ↔
      Action.ofCommand verb ⟨[], [], payloadOf? line, parts⟩ = .ok action := by
  rw [ofLine_eq_ok_iff]
  constructor
  · rintro ⟨other, otherParts, same, chosen⟩
    cases asked.symm.trans same
    exact chosen
  · exact fun chosen => ⟨verb, parts, asked, chosen⟩

/-! ### Lines -/

section Lines

variable {verb : Verb} {path size query : Text} (isPath : IsWord path) (isWord : IsWord size)

include isPath isWord

theorem asked?_sizedLine :
    asked? (sizedLine verb path size query) = some (verb, Text.pieces '/' path) := by
  have words : (sizedLine verb path size query).words =
      verb.word :: path :: size :: query.words := by
    rw [sizedLine, words_followedBy,
      Text.words_append_cons isPath.nonempty isPath.unbroken (by decide),
      Text.words_append_cons isWord.nonempty isWord.unbroken (by decide)]
  rw [asked?, words]
  simp [Verb.ofWord?_word]

theorem payloadOf?_sizedLine : ∃ payload,
    payloadOf? (sizedLine verb path size query) = some payload ∧
      Text.IsSpaced [size] query.trim payload := by
  have rest : (sizedLine verb path size query).afterWords 2 =
      (size ++ CodePoint.ofChar ' ' :: query).trim := by
    rw [sizedLine, Verb.followedBy,
      Text.afterWords_append_cons verb.word_ne_nil verb.word_unbroken,
      Text.afterWords_append_cons isPath.nonempty isPath.unbroken]
    rfl
  have words : (size ++ CodePoint.ofChar ' ' :: query).trim.words = [size] ++ query.words := by
    rw [Text.words_trim, Text.words_append_cons isWord.nonempty isWord.unbroken (by decide)]
    rfl
  have given : (size ++ CodePoint.ofChar ' ' :: query).trim ≠ [] := by
    intro none
    rw [none] at words
    cases words
  refine ⟨_, by rw [payloadOf?, rest, if_neg (by simpa using given)], ?_⟩
  rw [Text.isSpaced_iff]
  refine ⟨⟨_, words⟩, ?_⟩
  rw [Text.afterWords_trim]
  exact Text.afterWords_append_cons isWord.nonempty isWord.unbroken 0 query

theorem ofLine_sizedLine (searches : verb = .count ∨ verb = .search) (action : Action) :
    Action.ofLine (sizedLine verb path size query) = .ok action ↔
      (Text.pieces '/' path).length ≤ 2 ∧ ∃ n body, IsSize size n ∧ IsQuery query body ∧
        action = verb.sizedAction (pathScope path) n (body.getD []) := by
  have scope_iff (scope : SearchScope) :
      SearchScope.ofSegments (Text.pieces '/' path) = .ok scope ↔
        (Text.pieces '/' path).length ≤ 2 ∧ scope = pathScope path := by
    rw [searchScope_ofSegments]
    split
    next few => simp [few, pathScope, eq_comm]
    next many => simp [many]
  have payload_iff (spec : SearchPayload) :
      SearchPayload.ofPayload (payloadOf? (sizedLine verb path size query)) = .ok spec ↔
        ∃ n body, IsSize size n ∧ IsQuery query body ∧ spec = ⟨some (n : Int), body⟩ := by
    obtain ⟨payload, given, spaced⟩ := @payloadOf?_sizedLine verb path size query isPath isWord
    simp only [searchPayload_ofPayload, given, demandedSearch_eq_ok_iff spaced, isQuery_trim]
  have asked := @asked?_sizedLine verb path size query isPath isWord
  rcases searches with rfl | rfl
  all_goals
    simp only [ofLine_eq_ok_iff_of_asked asked, Action.ofCommand, Outcome.bind_eq_ok_iff,
      Outcome.mapError_eq_ok_iff, scope_iff, payload_iff]
    constructor
    · rintro ⟨scope, ⟨few, rfl⟩, spec, ⟨n, body, isSize, isQuery, rfl⟩, same⟩
      cases same
      exact ⟨few, n, body, isSize, isQuery, rfl⟩
    · rintro ⟨few, n, body, isSize, isQuery, rfl⟩
      exact ⟨_, ⟨few, rfl⟩, _, ⟨n, body, isSize, isQuery, rfl⟩, rfl⟩

end Lines

/-! ## Lines in three parts -/

namespace Command

/-- The command of a verb, a path and a payload, of which nothing is left when it is empty. -/
def ofParts (verb path payload : Text) : Command :=
  ⟨verb, path, if payload = [] then none else some payload, pathSegments path⟩

theorem payloadOf?_of_afterWords {line payload : Text} (rest : line.afterWords 2 = payload) :
    payloadOf? line = if payload = [] then none else some payload := by
  simp [payloadOf?, rest]

theorem ofLine_eq_ok_iff_isSpaced (line : Text) (command : Command) :
    ofLine line = .ok command ↔ ∃ payload, Text.IsSpaced [command.verb, command.path] payload line ∧
      command = ofParts command.verb command.path payload := by
  rw [ofLine_eq_ok_iff]
  simp only [Text.isSpaced_iff, List.length_cons, List.length_nil]
  constructor
  · rintro ⟨verb, path, later, words, rfl⟩
    have unbroken : ∀ c ∈ path, c.isBlank = false :=
      Text.word_unbroken (s := line) (by simp [words])
    refine ⟨_, ⟨⟨later, words⟩, rfl⟩, ?_⟩
    rw [ofParts, pathSegments_of_unbroken unbroken, payloadOf?_of_afterWords rfl]
  · rintro ⟨payload, ⟨⟨later, words⟩, rest⟩, made⟩
    have unbroken : ∀ c ∈ command.path, c.isBlank = false :=
      Text.word_unbroken (s := line) (by simp [words])
    refine ⟨command.verb, command.path, later, words, ?_⟩
    rw [payloadOf?_of_afterWords rest, ← pathSegments_of_unbroken unbroken]
    exact made

theorem isPart_of_mem_pieces {path : Text} (unbroken : ∀ c ∈ path, c.isBlank = false)
    {segment : Text} (member : segment ∈ Text.pieces '/' path) : IsPart segment where
  nonempty := Text.piece_ne_nil member
  unbroken := fun c inside =>
    unbroken c (Text.mem_of_mem_splitOn (List.mem_filter.mp member).1 inside).1
  whole := Text.not_mem_of_mem_splitOn (List.mem_filter.mp member).1

theorem payloadOf?_eq_none_iff {line verb path : Text} {rest : List Text}
    (words : line.words = verb :: path :: rest) : payloadOf? line = none ↔ rest = [] := by
  have others : (line.afterWords 2).words = rest := by rw [Text.words_afterWords, words]; rfl
  rw [← others, Text.words_eq_nil_of_led (Text.isTight_afterWords 2 line).led, payloadOf?]
  simp

theorem ofLine_of_few_words {line : Text} (few : line.words.length < 2) :
    ofLine line = .error .missingArguments := by
  rw [ofLine_eq]
  match words : line.words with
  | [] | [_] => rfl
  | _ :: _ :: _ =>
      rw [words, List.length_cons, List.length_cons] at few
      omega

theorem ofLine_of_words {line verb path : Text} {rest : List Text}
    (words : line.words = verb :: path :: rest) :
    ofLine line = .ok ⟨verb, path, payloadOf? line, Text.pieces '/' path⟩ :=
  (ofLine_eq_ok_iff line _).mpr ⟨verb, path, rest, words, rfl⟩

/-- The words of a line are its maximal runs without blanks.  A line with fewer than two of them is
refused.  Any other is a command, whose verb and path are the first two and which has a payload
exactly when there is a third; and a line is read as a command exactly when it is spaced out from
the verb, the path and the payload. -/
theorem line_is_taken_apart (line : Text) :
    Text.IsSpaced line.words [] line ∧
    (if line.words.length < 2 then ofLine line = .error .missingArguments
      else ∃ command rest, ofLine line = .ok command ∧
        line.words = command.verb :: command.path :: rest ∧
        (command.payload = none ↔ rest = []) ∧ ∀ segment ∈ command.segments, IsPart segment) ∧
    ∀ command, ofLine line = .ok command ↔
      ∃ payload, Text.IsSpaced [command.verb, command.path] payload line ∧
        command = ofParts command.verb command.path payload := by
  refine ⟨Text.isSpaced_words line, ?_, ofLine_eq_ok_iff_isSpaced line⟩
  split
  next few => exact ofLine_of_few_words few
  next enough =>
    obtain ⟨verb, path, rest, words⟩ : ∃ verb path rest, line.words = verb :: path :: rest := by
      match words : line.words with
      | [] | [_] => simp [words] at enough
      | verb :: path :: rest => exact ⟨verb, path, rest, rfl⟩
    have unbroken : ∀ c ∈ path, c.isBlank = false :=
      Text.word_unbroken (s := line) (by simp [words])
    refine ⟨_, rest, ofLine_of_words words, ?_⟩
    dsimp only
    exact ⟨words, payloadOf?_eq_none_iff words, fun segment => isPart_of_mem_pieces unbroken⟩

/-- A line with blanks of several kinds around its words and inside its payload. -/
def indexingLine : Text := text "\tindex  /logs/event\n\x7b \"a\":\t1 \x7d \n"

def indexingCommand : Command :=
  ⟨text "index", text "/logs/event", some (text "\x7b \"a\":\t1 \x7d"),
    [text "logs", text "event"]⟩

theorem indexing_line_is_taken_apart :
    ofLine indexingLine = .ok indexingCommand ∧
      text "event" ∈ indexingCommand.segments ∧ IsPart (text "event") ∧
      ∃ payload, Text.IsSpaced [indexingCommand.verb, indexingCommand.path] payload indexingLine ∧
        indexingCommand.payload = some payload := by
  obtain ⟨-, apart, spaced⟩ := line_is_taken_apart indexingLine
  have read : ofLine indexingLine = .ok indexingCommand := by decide +kernel
  have member : text "event" ∈ indexingCommand.segments := by decide
  refine ⟨read, member, ?_, ?_⟩
  · rw [if_neg (by decide +kernel)] at apart
    obtain ⟨command, rest, isCommand, -, -, parts⟩ := apart
    cases read.symm.trans isCommand
    exact parts _ member
  · obtain ⟨payload, layout, made⟩ := (spaced indexingCommand).mp read
    refine ⟨payload, layout, ?_⟩
    have kept := congrArg Command.payload made
    rw [ofParts] at kept
    split at kept
    · cases kept
    · exact kept

end Command

end SearchShell
