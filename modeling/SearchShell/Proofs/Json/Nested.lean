import SearchShell.Proofs.Json.RoundTrip

/-!
# Objects inside one another

A value in so many objects can be read where there is room for as many collections, and it can be
written where there is room for the value itself besides.  Where there is room for one object less
than there are, the text is refused as too deep.
-/

set_option autoImplicit false

namespace SearchShell

namespace Json

def nested : Nat → Json → Json
  | 0, v => v
  | count + 1, v => object [(text "a", nested count v)]

theorem nested_inner (v : Json) : ∀ count, nested (count + 1) v = nested count (nested 1 v)
  | 0 => rfl
  | count + 1 => congrArg (fun inner => object [(text "a", inner)]) (nested_inner v count)

theorem isReadable_nested {room : Nat} {v : Json} (readable : IsReadable room v) :
    ∀ count, IsReadable (room + count) (nested count v)
  | 0 => readable
  | count + 1 =>
      .object (List.nodup_singleton _)
        (List.forall_mem_singleton.mpr (isReadable_nested readable count))

theorem isWritable_nested_iff (style : Style) (v : Json) : ∀ count room : Nat,
    IsWritable style room (nested count v) ↔
      ∃ left, room = left + count ∧ IsWritable style left v := by
  intro count
  induction count with
  | zero => simp [nested]
  | succ count ih =>
      intro room
      cases room with
      | zero => exact ⟨nofun, fun ⟨left, sum, _⟩ => by omega⟩
      | succ room =>
          have single : IsWritable style (room + 1) (nested (count + 1) v) ↔
              IsWritable style room (nested count v) :=
            ⟨fun | .object each => each _ List.mem_cons_self,
              fun writable => .object (List.forall_mem_singleton.mpr writable)⟩
          rw [single, ih]
          simp only [← Nat.add_assoc, Nat.add_right_cancel_iff]

theorem not_isWritable_nested_float (x : Binary64) {count room : Nat} (small : room < count + 2) :
    ¬IsWritable .indented room (nested count (.float x)) := by
  rw [isWritable_nested_iff]
  rintro ⟨left, rfl, enough⟩
  cases enough with
  | float _ enough =>
      have two : Style.indented.floatRoom = 2 := rfl
      omega

end Json

namespace JsonReader

open Json (nested Style)

theorem write_nested (level count : Nat) (v : Json) :
    Json.write .compact level (nested (count + 1) v) = CodePoint.ofChar '{' ::
      (memberText (text ":") (Json.write .compact (level + 1)) (text "a", nested count v) ++
        text "\x7d") := by
  rw [nested, Json.write, writeMembers_eq_map rfl, List.map_singleton, Style.enclosed]
  simp [Style.lineStart, Style.compact, Text.joined, text]

theorem noBlanks : IsBlank [] := nofun

theorem readObject_error {readValue : Reader Json} {fuel : Nat} {member rest valueText name : Text}
    {failure : Failure} (named : readName (member ++ rest) = .ok (name, valueText))
    (begins : Begins member) (failed : readValue valueText = .error failure) :
    readObject readValue (fuel + 1) (member ++ rest) = .error failure := by
  have whole := begins.append rest
  have visible : skipSpace (member ++ rest) = member ++ rest :=
    skipSpace_blank noBlanks whole.visible
  rw [readObject, visible]
  generalize member ++ rest = s at named whole ⊢
  obtain ⟨c, more, rfl⟩ := List.exists_cons_of_ne_nil whole.nonempty
  simp only [if_neg (whole.notClosing c rfl).2, readMembers, named, failed, bind, Except.bind]

/-- A text of more objects, one inside the other, than there is room for is not read. -/
theorem readValue_nested (fuel : Nat) (v : Json) (rest : Text) : ∀ depth level : Nat,
    readValue (fuel + 1) depth (Json.write .compact level (nested (depth + 1) v) ++ rest) =
      .error (.tooDeep .object) := by
  intro depth
  induction depth generalizing rest with
  | zero =>
      intro level
      rw [write_nested]
      rfl
  | succ depth ih =>
      intro level
      have begins : Begins (Json.write .compact (level + 1) (nested (depth + 1) v) ++
          (text "\x7d" ++ rest)) := by
        rw [write_nested]
        exact begins_opening (Or.inr rfl) _
      have named := readName_memberText noBlanks (Json.write .compact (level + 1))
        (text "a", nested (depth + 1) v) begins
      rw [write_nested, List.cons_append, List.append_assoc, readValue, if_neg (by decide),
        if_neg (by decide), if_pos rfl]
      exact readObject_error named (begins_memberText _ _ _) (ih _ _)

theorem readObjectWithin_compact {room : Nat} {v : Json} (readable : Json.IsReadable room v)
    (count : Nat) : readObjectWithin (room + (count + 1)) (nested (count + 1) v).compact =
      .ok [(text "a", nested count v)] :=
  readObjectWithin_write isJsonStyle_compact (Json.isReadable_nested readable (count + 1))

theorem readObjectWithin_nested (depth : Nat) (v : Json) :
    readObjectWithin depth (nested (depth + 1) v).compact = .error (.json (.tooDeep .object)) := by
  have isObject := write_nested 0 depth v
  have begins : Begins (nested (depth + 1) v).compact := by
    rw [Json.compact, isObject]
    exact begins_opening (Or.inr rfl) _
  have noMark : (nested (depth + 1) v).compact.head? ≠ some CodePoint.byteOrderMark := by
    rw [Json.compact, isObject, List.head?_cons]
    decide
  have visible : skipSpace (nested (depth + 1) v).compact = (nested (depth + 1) v).compact :=
    skipSpace_blank noBlanks begins.visible
  obtain ⟨fuel, count⟩ := Nat.exists_eq_add_one_of_ne_zero
    (List.length_pos_iff.mpr begins.nonempty).ne'
  have failed := readValue_nested fuel v [] depth 0
  rw [List.append_nil] at failed
  have unread : readWhole depth (nested (depth + 1) v).compact = .error (.tooDeep .object) := by
    rw [readWhole, visible, count, Json.compact, failed]
    rfl
  rw [readObjectWithin, Json.read, if_neg noMark, Json.readDecoded, unread]
  rfl

end JsonReader

end SearchShell
