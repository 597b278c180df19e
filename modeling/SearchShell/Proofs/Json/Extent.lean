import SearchShell.Proofs.Json.Readable

/-!
# How far a reader goes

What a reader leaves is an end of what it was given.  A reader only gives up because of a limit
when the text has a longer run of digits, or more opening brackets, than the limit allows.
-/

set_option autoImplicit false

namespace SearchShell

def HasLongRun (s : Text) : Prop :=
  ∃ run, run <:+: s ∧ (∀ c ∈ run, c.isAsciiDigit = true) ∧ digitLimit < run.length

/-- How many collections begin in the text, at most. -/
def bracketCount (s : Text) : Nat :=
  s.countP fun c => c = CodePoint.ofChar '[' || c = CodePoint.ofChar '{'

theorem HasLongRun.mono {s t : Text} (inside : t <:+: s) (long : HasLongRun t) : HasLongRun s := by
  obtain ⟨run, isRun, digits, more⟩ := long
  exact ⟨run, isRun.trans inside, digits, more⟩

theorem bracketCount_mono {s t : Text} (inside : t <:+: s) : bracketCount t ≤ bracketCount s :=
  inside.sublist.countP_le

namespace JsonReader

open Outcome

def Explains (depth : Nat) (s : Text) : Failure → Prop
  | .malformed _ _ => True
  | .tooLong _ => HasLongRun s
  | .tooDeep _ => depth < bracketCount s

theorem Explains.mono {depth : Nat} {s t : Text} (suffix : t <:+ s) {failure : Failure}
    (explains : Explains depth t failure) : Explains depth s failure := by
  cases failure with
  | malformed defect left => trivial
  | tooLong digits => exact HasLongRun.mono suffix.isInfix explains
  | tooDeep container => exact Nat.lt_of_lt_of_le explains (bracketCount_mono suffix.isInfix)

/-- A reader leaves an end of the text, or fails for a reason that is in the text. -/
def Within {α : Type} (depth : Nat) (s : Text) : Except Failure (α × Text) → Prop
  | .ok (_, rest) => rest <:+ s
  | .error failure => Explains depth s failure

theorem Within.mono {α : Type} {depth : Nat} {s t : Text} (suffix : t <:+ s)
    {outcome : Except Failure (α × Text)} (within : Within depth t outcome) :
    Within depth s outcome := by
  cases outcome with
  | ok r => exact List.IsSuffix.trans within suffix
  | error failure => exact Explains.mono suffix within

theorem Within.bind {α β : Type} {depth : Nat} {s : Text} {first : Except Failure (α × Text)}
    {next : α × Text → Except Failure (β × Text)} (within : Within depth s first)
    (later : ∀ a rest, Within depth rest (next (a, rest))) : Within depth s (first >>= next) := by
  cases first with
  | ok r => exact (later r.1 r.2).mono within
  | error failure => exact within

section Readers

variable (depth : Nat)

/-! ## Strings -/

theorem readNumberEscape_within (s : Text) : Within depth s (readNumberEscape s) := by
  unfold readNumberEscape
  split
  next a b c d next rest =>
    split
    · exact ⟨[a, b, c, d], rfl⟩
    · trivial
  next => trivial

theorem readUnit_within (opening : Nat) (c : CodePoint) (s : Text) :
    Within depth s (readUnit opening c s) := by
  unfold readUnit
  split
  · trivial
  split
  · unfold readEscape
    split
    next => trivial
    next letter rest =>
      have suffix : rest <:+ letter :: rest := List.suffix_cons letter rest
      split
      · exact (readNumberEscape_within depth rest).mono suffix
      · split
        · exact suffix
        · trivial
  · exact List.suffix_rfl

theorem readUnits_within (opening : Nat) : ∀ (fuel : Nat) (s : Text),
    Within depth s (readUnits opening fuel s) := by
  intro fuel
  induction fuel with
  | zero =>
      intro s
      cases s with
      | nil => trivial
      | cons c rest => trivial
  | succ fuel ih =>
      intro s
      cases s with
      | nil => trivial
      | cons c rest =>
          rw [readUnits]
          split
          · exact List.suffix_cons c rest
          · refine ((readUnit_within depth opening c rest).mono (List.suffix_cons c rest)).bind ?_
            intro unit tail
            refine (ih tail).bind ?_
            intro units last
            exact List.suffix_rfl

theorem readString_within (s : Text) : Within depth s (readString s) := by
  refine (readUnits_within depth _ _ s).bind ?_
  intro units rest
  exact List.suffix_rfl

/-! ## Numbers -/

theorem readNumber_within (s : Text) : Within depth s (readNumber s) := by
  have unsigned (negative : Bool) (digits : Text) : digits <:+ Text.signed negative digits := by
    cases negative with
    | true => exact List.suffix_cons _ digits
    | false => exact List.suffix_rfl
  have outcome := readNumber_outcome s
  generalize readNumber s = result at outcome ⊢
  cases outcome with
  | missing => trivial
  | integer negative written digits short =>
      rw [written]
      exact (List.suffix_append _ _).trans (unsigned negative _)
  | tooLong negative written digits long =>
      refine ⟨_, ?_, digits, long⟩
      rw [written]
      exact (List.prefix_append _ _).isInfix.trans (unsigned negative _).isInfix
  | float x suffix => exact suffix

theorem readScalar_within (s : Text) : Within depth s (readScalar s) := by
  unfold readScalar
  split
  next word value found =>
    exact List.drop_suffix _ _
  next => exact readNumber_within depth s

/-! ## Collections -/

theorem skipSpace_suffix (s : Text) : skipSpace s <:+ s := List.dropWhile_suffix _

theorem readContinuation_within (closing : CodePoint) (s : Text) :
    Within depth s (readContinuation closing s) := by
  have suffix := skipSpace_suffix s
  unfold readContinuation
  split
  next => trivial
  next c rest visible =>
    rw [visible] at suffix
    have inner := (List.suffix_cons c rest).trans suffix
    split
    · exact inner
    · split
      · exact (skipSpace_suffix rest).trans inner
      · trivial

theorem readName_within (s : Text) : Within depth s (readName s) := by
  unfold readName
  split
  next => trivial
  next c rest =>
    split
    · refine ((readString_within depth rest).mono (List.suffix_cons c rest)).bind ?_
      intro name tail
      have suffix := skipSpace_suffix tail
      simp only
      split
      next => trivial
      next d after visible =>
        rw [visible] at suffix
        split
        · exact ((skipSpace_suffix after).trans (List.suffix_cons d after)).trans suffix
        · trivial
    · trivial

variable {depth} {readValue : Reader Json} (each : ∀ s, Within depth s (readValue s))

include each

theorem readItems_within : ∀ (fuel : Nat) (s : Text),
    Within depth s (readItems readValue fuel s) := by
  intro fuel
  induction fuel with
  | zero => intro s; trivial
  | succ fuel ih =>
      intro s
      refine (each s).bind ?_
      intro item tail
      refine (readContinuation_within depth _ tail).bind ?_
      intro closed tail
      cases closed with
      | true => exact List.suffix_rfl
      | false =>
          refine (ih tail).bind ?_
          intro items rest
          exact List.suffix_rfl

theorem readMembers_within : ∀ (fuel : Nat) (s : Text),
    Within depth s (readMembers readValue fuel s) := by
  intro fuel
  induction fuel with
  | zero => intro s; trivial
  | succ fuel ih =>
      intro s
      refine (readName_within depth s).bind ?_
      intro name tail
      refine (each tail).bind ?_
      intro value tail
      refine (readContinuation_within depth _ tail).bind ?_
      intro closed tail
      cases closed with
      | true => exact List.suffix_rfl
      | false =>
          refine (ih tail).bind ?_
          intro members rest
          exact List.suffix_rfl

theorem readArray_within (fuel : Nat) (s : Text) : Within depth s (readArray readValue fuel s) := by
  have suffix := skipSpace_suffix s
  unfold readArray
  split
  next => trivial
  next c rest visible =>
    rw [visible] at suffix
    split
    · exact (List.suffix_cons c rest).trans suffix
    · refine ((readItems_within each fuel (c :: rest)).mono suffix).bind ?_
      intro items tail
      exact List.suffix_rfl

theorem readObject_within (fuel : Nat) (s : Text) :
    Within depth s (readObject readValue fuel s) := by
  have suffix := skipSpace_suffix s
  unfold readObject
  split
  next => trivial
  next c rest visible =>
    rw [visible] at suffix
    split
    · exact (List.suffix_cons c rest).trans suffix
    · refine ((readMembers_within each fuel (c :: rest)).mono suffix).bind ?_
      intro members tail
      exact List.suffix_rfl

end Readers

/-! ## Values -/

/-- One more bracket makes up for one more level. -/
theorem Within.deeper {α : Type} {depth : Nat} {c : CodePoint} {rest : Text}
    {outcome : Except Failure (α × Text)}
    (opening : c = CodePoint.ofChar '[' ∨ c = CodePoint.ofChar '{')
    (within : Within depth rest outcome) : Within (depth + 1) (c :: rest) outcome := by
  have suffix := List.suffix_cons c rest
  cases outcome with
  | ok r => exact List.IsSuffix.trans within suffix
  | error failure =>
      cases failure with
      | malformed defect left => trivial
      | tooLong digits => exact HasLongRun.mono suffix.isInfix within
      | tooDeep container =>
          have one : bracketCount (c :: rest) = bracketCount rest + 1 := by
            rcases opening with rfl | rfl
            · exact List.countP_cons_of_pos (by decide)
            · exact List.countP_cons_of_pos (by decide)
          have inner : depth < bracketCount rest := within
          show depth + 1 < bracketCount (c :: rest)
          omega

theorem readValue_within (fuel : Nat) : ∀ (depth : Nat) (s : Text),
    Within depth s (readValue fuel depth s) := by
  have string (depth : Nat) (c : CodePoint) (rest : Text) : Within depth (c :: rest)
      (readString rest >>= fun r => .ok (Json.string r.1, r.2)) := by
    refine ((readString_within depth rest).mono (List.suffix_cons c rest)).bind ?_
    intro s tail
    exact List.suffix_rfl
  -- On the depth, since every level of it is paid for by one bracket of the text.
  intro depth
  induction depth with
  | zero =>
      intro s
      cases s with
      | nil => trivial
      | cons c rest =>
          have bracket (opening : c = CodePoint.ofChar '[' ∨ c = CodePoint.ofChar '{') :
              0 < bracketCount (c :: rest) := by
            refine List.countP_pos_iff.mpr ⟨c, List.mem_cons_self, ?_⟩
            rcases opening with rfl | rfl
            all_goals decide
          rw [readValue]
          split
          · exact string 0 c rest
          split
          next isArray => exact bracket (Or.inl isArray)
          split
          next isObject => exact bracket (Or.inr isObject)
          next => exact readScalar_within 0 (c :: rest)
  | succ depth ih =>
      intro s
      cases s with
      | nil => trivial
      | cons c rest =>
          rw [readValue]
          split
          · exact string (depth + 1) c rest
          split
          next isArray => exact (readArray_within ih fuel rest).deeper (Or.inl isArray)
          split
          next isObject => exact (readObject_within ih fuel rest).deeper (Or.inr isObject)
          next => exact readScalar_within (depth + 1) (c :: rest)

theorem readWhole_explains {depth : Nat} {s : Text} {failure : Failure}
    (failed : readWhole depth s = .error failure) : Explains depth s failure := by
  have within := readValue_within s.length depth (skipSpace s)
  rcases (bind_eq_error_iff _ _ _).mp failed with inValue | ⟨⟨value, tail⟩, -, after⟩
  · rw [inValue] at within
    exact Explains.mono (skipSpace_suffix s) within
  · simp only at after
    split at after
    · cases after
    · cases after
      trivial

end JsonReader

/-- A text that is not read because of a limit exceeds it. -/
theorem Json.read_limit {depth : Nat} {s : Text} {fault : JsonFault}
    (failed : Json.read depth s = .error fault) :
    (∃ defect place, fault = .malformed defect place) ∨ HasLongRun s ∨ depth < bracketCount s := by
  unfold Json.read Json.readDecoded at failed
  split at failed
  next =>
    cases failed
    exact Or.inl ⟨_, _, rfl⟩
  next =>
    split at failed
    next => cases failed
    next failure inText =>
      have explains := JsonReader.readWhole_explains inText
      cases failed
      cases failure with
      | malformed defect left => exact Or.inl ⟨_, _, rfl⟩
      | tooLong digits => exact Or.inr (Or.inl explains)
      | tooDeep container => exact Or.inr (Or.inr explains)

end SearchShell
