import SearchShell.Proofs.Json.Extent
import SearchShell.Proofs.Json.RoundTrip
import SearchShell.Proofs.Text.Pieces

/-!
# Blanks before an object

A reader that can read every item of a text reads the same with more room.  So an object is read
in the same way without the blanks before it.
-/

set_option autoImplicit false

namespace SearchShell

namespace JsonReader

/-! ## Room for items -/

theorem length_of_within {α : Type} {depth : Nat} {s rest : Text} {a : α}
    {outcome : Except Failure (α × Text)} (within : Within depth s outcome)
    (read : outcome = .ok (a, rest)) : rest.length ≤ s.length := by
  rw [read] at within
  exact List.IsSuffix.length_le within

theorem length_skipSpace_le (s : Text) : (skipSpace s).length ≤ s.length :=
  (skipSpace_suffix s).length_le

/-- Before another item stands a comma. -/
theorem length_of_readContinuation {closing : CodePoint} {s rest : Text}
    (read : readContinuation closing s = .ok (false, rest)) : rest.length < s.length := by
  have shorter := length_skipSpace_le s
  unfold readContinuation at read
  split at read
  · cases read
  next c tail visible =>
    rw [visible, List.length_cons] at shorter
    split at read
    · cases read
    · split at read
      · cases read
        have := length_skipSpace_le tail
        omega
      · cases read

section Items

variable {depth limit : Nat} {first second : Reader Json}

/-- Two readers that agree on short texts, of which the first one reads an end of the text. -/
structure Agree (depth limit : Nat) (first second : Reader Json) : Prop where
  same : ∀ s : Text, s.length ≤ limit → first s = second s
  within : ∀ s : Text, Within depth s (first s)

theorem readItems_eq (agree : Agree depth limit first second) : ∀ (n m : Nat) (s : Text),
    s.length ≤ limit → s.length < n → s.length < m →
      readItems first n s = readItems second m s := by
  -- The length of the text bounds both numbers, so an induction on one of them is enough.
  intro n
  induction n with
  | zero => intro m s _ enough _; cases enough
  | succ n ih =>
      intro m s short enough others
      obtain ⟨m, rfl⟩ := Nat.exists_eq_add_of_lt others
      rw [readItems, readItems, ← agree.same s short]
      cases item : first s with
      | error failure => rfl
      | ok r =>
          obtain ⟨v, tail⟩ := r
          have shorter := length_of_within (agree.within s) item
          cases continuation : readContinuation ']' tail with
          | error failure => simp [continuation, bind, Except.bind]
          | ok next =>
              obtain ⟨closed, rest⟩ := next
              cases closed with
              | true => simp [continuation, bind, Except.bind]
              | false =>
                  have shrinks := length_of_readContinuation continuation
                  have others := ih (s.length + m) rest (by omega) (by omega) (by omega)
                  simp [continuation, bind, Except.bind, others]

theorem readMembers_eq (agree : Agree depth limit first second) : ∀ (n m : Nat) (s : Text),
    s.length ≤ limit → s.length < n → s.length < m →
      readMembers first n s = readMembers second m s := by
  intro n
  induction n with
  | zero => intro m s _ enough _; cases enough
  | succ n ih =>
      intro m s short enough others
      obtain ⟨m, rfl⟩ := Nat.exists_eq_add_of_lt others
      rw [readMembers, readMembers]
      cases name : readName s with
      | error failure => rfl
      | ok r =>
          obtain ⟨name, afterName⟩ := r
          have named := length_of_within (readName_within depth s) ‹_›
          simp only [bind, Except.bind, ← agree.same afterName (by omega)]
          cases value : first afterName with
          | error failure => rfl
          | ok r =>
              obtain ⟨v, tail⟩ := r
              have shorter := length_of_within (agree.within afterName) value
              cases continuation : readContinuation '}' tail with
              | error failure => simp [continuation]
              | ok next =>
                  obtain ⟨closed, rest⟩ := next
                  cases closed with
                  | true => simp [continuation]
                  | false =>
                      have shrinks := length_of_readContinuation continuation
                      have others := ih (s.length + m) rest (by omega) (by omega) (by omega)
                      simp [continuation, others]

theorem readArray_eq (agree : Agree depth limit first second) {n m : Nat} {s : Text}
    (short : s.length ≤ limit) (enough : s.length < n) (others : s.length < m) :
    readArray first n s = readArray second m s := by
  have shorter := length_skipSpace_le s
  unfold readArray
  split
  · rfl
  next c rest visible =>
    rw [visible] at shorter
    split
    · rfl
    · rw [readItems_eq agree n m (c :: rest) (by omega) (by omega) (by omega)]

theorem readObject_eq (agree : Agree depth limit first second) {n m : Nat} {s : Text}
    (short : s.length ≤ limit) (enough : s.length < n) (others : s.length < m) :
    readObject first n s = readObject second m s := by
  have shorter := length_skipSpace_le s
  unfold readObject
  split
  · rfl
  next c rest visible =>
    rw [visible] at shorter
    split
    · rfl
    · rw [readMembers_eq agree n m (c :: rest) (by omega) (by omega) (by omega)]

end Items

/-- With room for as many items as the text has code points, more room changes nothing. -/
theorem readValue_eq (n m : Nat) : ∀ (depth : Nat) (s : Text), s.length ≤ n → s.length ≤ m →
    readValue n depth s = readValue m depth s := by
  intro depth
  induction depth with
  | zero =>
      intro s _ _
      cases s with
      | nil => rfl
      | cons c rest => rfl
  | succ depth ih =>
      intro s enough others
      cases s with
      | nil => rfl
      | cons c rest =>
          rw [List.length_cons] at enough others
          have agree : Agree depth rest.length (readValue n depth) (readValue m depth) := by
            refine ⟨?_, readValue_within n depth⟩
            intro t short
            exact ih t (by omega) (by omega)
          rw [readValue, readValue, readArray_eq agree (Nat.le_refl _) enough others,
            readObject_eq agree (Nat.le_refl _) enough others]

theorem readArray_ne_object {f : Reader Json} {fuel : Nat} {s rest : Text} {d : Members} :
    readArray f fuel s ≠ .ok (.object d, rest) := by
  intro read
  unfold readArray at read
  split at read
  · cases read
  · split at read
    · cases read
    · obtain ⟨items, -, others⟩ := (Outcome.bind_eq_ok_iff _ _ _).mp read
      cases others

theorem exists_cons_of_readValue_object {fuel depth : Nat} {s rest : Text} {d : Members}
    (read : readValue fuel depth s = .ok (.object d, rest)) :
    ∃ tail, s = CodePoint.ofChar '{' :: tail := by
  cases depth with
  | zero => cases readValue_isReadable fuel 0 s _ rest read
  | succ depth =>
      cases s with
      | nil => cases read
      | cons c tail =>
          rw [readValue] at read
          split at read
          · obtain ⟨string, -, others⟩ := (Outcome.bind_eq_ok_iff _ _ _).mp read
            cases others
          · split at read
            · exact absurd read readArray_ne_object
            · split at read
              next isBrace => exact ⟨tail, by rw [isBrace]⟩
              next => cases readScalar_isReadable read 0

/-- A whole text with an object in it is the object's own text after space. -/
theorem exists_skipSpace_of_readWhole {depth : Nat} {s : Text} {d : Members}
    (read : readWhole depth s = .ok (.object d)) :
    ∃ tail, skipSpace s = CodePoint.ofChar '{' :: tail ∧
      readWhole depth (CodePoint.ofChar '{' :: tail) = .ok (.object d) := by
  obtain ⟨⟨v, after⟩, isRead, ended⟩ := (Outcome.bind_eq_ok_iff _ _ _).mp read
  simp only at ended
  split at ended
  next spent =>
    cases ended
    obtain ⟨tail, begins⟩ := exists_cons_of_readValue_object isRead
    have shorter := length_skipSpace_le s
    rw [begins] at isRead shorter
    have visible : skipSpace (CodePoint.ofChar '{' :: tail) = CodePoint.ofChar '{' :: tail :=
      List.dropWhile_cons_of_neg (by decide)
    refine ⟨tail, begins, ?_⟩
    -- The rest has less fuel than the whole text had, but enough for its own length.
    rw [readWhole, visible, readValue_eq _ s.length _ _ (Nat.le_refl _) shorter, isRead]
    simp [bind, Except.bind, spent]
  next => cases ended

end JsonReader

/-- The blanks before an object do not count. -/
theorem readObject_dropBlanks {s : Text} {d : Members} (read : readObject s = .ok d) :
    readObject (s.dropWhile CodePoint.isBlank) = .ok d := by
  obtain ⟨tail, visible, whole⟩ :=
    JsonReader.exists_skipSpace_of_readWhole (readWhole_of_readObjectWithin read)
  have split : s = s.takeWhile JsonReader.isSpace ++ CodePoint.ofChar '{' :: tail := by
    rw [← visible]
    exact List.takeWhile_append_dropWhile.symm
  have blank : ∀ c ∈ s.takeWhile JsonReader.isSpace, c.isBlank = true := by
    intro c member
    rcases JsonReader.eq_of_isSpace (List.mem_takeWhile_imp member) with rfl | rfl | rfl | rfl
    all_goals decide
  have dropped : s.dropWhile CodePoint.isBlank = CodePoint.ofChar '{' :: tail := by
    rw [split]
    exact Text.dropWhile_append_cons blank (by decide) tail
  have noMark : (CodePoint.ofChar '{' :: tail).head? ≠ some CodePoint.byteOrderMark := by
    rw [List.head?_cons]
    decide
  rw [dropped, readObject, readObjectWithin_eq_ok_iff, Json.read, if_neg noMark, Json.readDecoded,
    whole]

end SearchShell
