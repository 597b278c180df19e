import SearchShell.Proofs.Command.Asking
import SearchShell.Proofs.Text.Separated
import SearchShell.Proofs.Text.Spacing

/-!
# Typed lines

A line that is put together from a verb, the parts of a path and a payload is taken apart into
these again, if no part has a blank or a slash in it and the payload begins and ends with no blank.
-/

set_option autoImplicit false

namespace SearchShell

structure IsPart (part : Text) : Prop where
  nonempty : part ≠ []
  unbroken : ∀ c ∈ part, c.isBlank = false
  whole : CodePoint.ofChar '/' ∉ part

instance (part : Text) : Decidable (IsPart part) :=
  decidable_of_iff (part ≠ [] ∧ (∀ c ∈ part, c.isBlank = false) ∧ CodePoint.ofChar '/' ∉ part)
    ⟨fun ⟨nonempty, unbroken, whole⟩ => ⟨nonempty, unbroken, whole⟩,
      fun ⟨nonempty, unbroken, whole⟩ => ⟨nonempty, unbroken, whole⟩⟩

def linePath (parts : List Text) : Text := parts.flatMap fun part => CodePoint.ofChar '/' :: part

def plainLine (verb : Verb) (parts : List Text) : Text :=
  verb.word ++ CodePoint.ofChar ' ' :: linePath parts

def payloadLine (verb : Verb) (parts : List Text) (payload : Text) : Text :=
  plainLine verb parts ++ CodePoint.ofChar ' ' :: payload

theorem CodePoint.isBlank_of_isAsciiDigit {c : CodePoint} (digit : c.isAsciiDigit = true) :
    c.isBlank = false := by
  simp only [isAsciiDigit, Bool.and_eq_true, decide_eq_true_eq] at digit
  simp only [isBlank, isWhiteSpace, Bool.or_eq_false_iff, Bool.and_eq_false_iff,
    decide_eq_false_iff_not]
  omega

theorem Text.isAsciiDigits_iff (s : Text) :
    s.isAsciiDigits = true ↔ s ≠ [] ∧ ∀ c ∈ s, c.isAsciiDigit = true := by
  simp [isAsciiDigits]

/-! ## The parts of a path -/

section Parts

variable {parts : List Text} (each : ∀ part ∈ parts, IsPart part)

theorem linePath_eq_joined (nonempty : parts ≠ []) :
    linePath parts = CodePoint.ofChar '/' :: Text.joined [CodePoint.ofChar '/'] parts := by
  induction parts with
  | nil => exact absurd rfl nonempty
  | cons part others ih =>
      by_cases single : others = []
      · simp [single, linePath, Text.joined_singleton]
      · rw [Text.joined_cons_of_ne_nil part single, ← ih single]
        rfl

theorem linePath_ne_nil (nonempty : parts ≠ []) : linePath parts ≠ [] := by
  rw [linePath_eq_joined nonempty]
  exact List.cons_ne_nil _ _

include each

theorem linePath_unbroken : ∀ c ∈ linePath parts, c.isBlank = false := by
  intro c member
  obtain ⟨part, isPart, inPart⟩ := List.mem_flatMap.mp member
  rcases List.mem_cons.mp inPart with rfl | inside
  · decide
  · exact (each part isPart).unbroken c inside

theorem pieces_linePath (nonempty : parts ≠ []) :
    Text.pieces (CodePoint.ofChar '/') (linePath parts) = parts := by
  have separate : ∀ part ∈ parts, Text.IsPiece '/' part := fun part isPart =>
    ⟨(each part isPart).nonempty, (each part isPart).whole⟩
  rw [linePath_eq_joined nonempty]
  exact (Text.pieces_append_cons [] _).trans (Text.pieces_joined separate)

end Parts

/-! ## Lines -/

theorem Verb.word_unbroken (verb : Verb) : ∀ c ∈ verb.word, c.isBlank = false := by
  cases verb with
  | get | count | search | index | delete => decide

theorem Verb.word_ne_nil (verb : Verb) : verb.word ≠ [] := by
  cases verb with
  | get | count | search | index | delete => decide

theorem Verb.ofWord?_word (verb : Verb) : Verb.ofWord? verb.word = some verb := by
  cases verb with
  | get | count | search | index | delete => decide

section Lines

variable (verb : Verb) {parts : List Text} (nonempty : parts ≠ [])
  (each : ∀ part ∈ parts, IsPart part)

include nonempty each

theorem words_plainLine : (plainLine verb parts).words = [verb.word, linePath parts] := by
  rw [plainLine, Text.words_append_cons verb.word_ne_nil verb.word_unbroken (by decide),
    Text.words_of_unbroken (linePath_ne_nil nonempty) (linePath_unbroken each)]

theorem words_payloadLine (payload : Text) : (payloadLine verb parts payload).words =
    verb.word :: linePath parts :: payload.words := by
  rw [payloadLine, plainLine, List.append_assoc, List.cons_append,
    Text.words_append_cons verb.word_ne_nil verb.word_unbroken (by decide),
    Text.words_append_cons (linePath_ne_nil nonempty) (linePath_unbroken each) (by decide)]

theorem asked?_plainLine : asked? (plainLine verb parts) = some (verb, parts) := by
  rw [asked?, words_plainLine verb nonempty each]
  simp [Verb.ofWord?_word, pieces_linePath each nonempty]

theorem asked?_payloadLine (payload : Text) :
    asked? (payloadLine verb parts payload) = some (verb, parts) := by
  rw [asked?, words_payloadLine verb nonempty each]
  simp [Verb.ofWord?_word, pieces_linePath each nonempty]

theorem payloadOf?_payloadLine {payload : Text} (some : payload ≠ []) (tight : payload.IsTight) :
    payloadOf? (payloadLine verb parts payload) = .some payload := by
  have rest : (payloadLine verb parts payload).afterWords 2 = payload := by
    rw [payloadLine, plainLine, List.append_assoc, List.cons_append,
      Text.afterWords_append_cons verb.word_ne_nil verb.word_unbroken,
      Text.afterWords_append_cons (linePath_ne_nil nonempty) (linePath_unbroken each)]
    exact Text.trim_of_tight tight
  rw [payloadOf?, rest, if_neg (by simpa using some)]

end Lines

end SearchShell
