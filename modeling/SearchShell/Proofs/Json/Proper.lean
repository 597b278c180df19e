import SearchShell.Engine.Connection
import SearchShell.Proofs.Json.RoundTrip
import SearchShell.Proofs.Text.Proper

/-!
# Values without surrogates

A value that holds finite numbers and no surrogates can be sent, and its text is read back from
what is sent.
-/

set_option autoImplicit false

namespace SearchShell

namespace Json

inductive IsProper : Json → Prop
  | null : IsProper null
  | bool (b : Bool) : IsProper (bool b)
  | integer (n : Int) : IsProper (integer n)
  | float (x : Binary64) : IsProper (float x)
  | string {s : Text} (proper : s.IsProper) : IsProper (string s)
  | array {items : List Json} (each : ∀ item ∈ items, IsProper item) : IsProper (array items)
  | object {members : Members} (names : ∀ member ∈ members, member.1.IsProper)
      (each : ∀ member ∈ members, IsProper member.2) : IsProper (object members)

/-! ## Texts -/

theorem isProper_hexDigits : ∀ width n : Nat, (Text.hexDigits width n).IsProper := by
  intro width
  induction width with
  | zero => intro n; exact Text.isProper_nil
  | succ width ih =>
      intro n
      simp [Text.hexDigits, CodePoint.ofHexValue, ih, Text.isProper_nil]

theorem isProper_stringPoint {c : CodePoint} (proper : c.isSurrogate = false) :
    (stringPoint false c).IsProper := by
  have unit (n : Nat) : (unitEscape n).IsProper := by
    simp [unitEscape, isProper_hexDigits]
  unfold stringPoint numberEscape
  repeat' split
  all_goals simp [unit, proper, Text.isProper_nil]

theorem isProper_stringText {s : Text} (proper : s.IsProper) : (stringText false s).IsProper := by
  have points : Text.IsProper (s.flatMap (stringPoint false)) :=
    Text.isProper_flatMap fun c member => isProper_stringPoint (proper c member)
  simp [stringText, points]

theorem isProper_enclosed_iff (level : Nat) (opening closing : Char) (items : List Text) :
    (Style.compact.enclosed level opening closing items).IsProper ↔
      ∀ item ∈ items, item.IsProper := by
  have noLines (level : Nat) : Style.compact.lineStart level = [] := rfl
  have comma : Style.compact.itemMark = text "," := rfl
  have joined := Text.isProper_joined_iff (Text.isProper_text ",") items
  unfold Style.enclosed
  split
  next none => simp [List.isEmpty_iff.mp none, Text.isProper_nil]
  next => simp [noLines, comma, joined, Text.isProper_nil]

/-- The text of an object has no surrogates when that of no member has any. -/
theorem isProper_write_object_iff (level : Nat) (members : Members) :
    (write .compact level (.object members)).IsProper ↔ ∀ member ∈ members,
      Text.IsProper
        (JsonReader.memberText Style.compact.nameMark (write .compact (level + 1)) member) := by
  rw [write, JsonReader.writeMembers_eq_map rfl, isProper_enclosed_iff, List.forall_mem_map]

/-- The text of a value has no surrogates that are not in the value. -/
theorem isProper_write {v : Json} (proper : IsProper v) : ∀ level : Nat,
    (write .compact level v).IsProper := by
  induction proper with
  | null => intro level; exact Text.isProper_text "null"
  | bool b =>
      intro level
      cases b with
      | true => exact Text.isProper_text "true"
      | false => exact Text.isProper_text "false"
  | integer n => intro level; exact Text.isProper_ofInt n
  | float x =>
      intro level
      exact Text.isProper_ofBinary64 (Text.isProper_text "NaN") (Text.isProper_text "Infinity") x
  | string proper => intro level; exact isProper_stringText proper
  | array each ih =>
      intro level
      rw [write, JsonReader.writeItems_eq_map, isProper_enclosed_iff, List.forall_mem_map]
      exact fun item isItem => ih item isItem (level + 1)
  | object names each ih =>
      intro level
      rw [isProper_write_object_iff]
      intro member isMember
      have name := isProper_stringText (names member isMember)
      have mark : Style.compact.nameMark = text ":" := rfl
      simp [JsonReader.memberText, mark, name, ih member isMember (level + 1)]

/-! ## Finite numbers -/

theorem membersFinite_iff : ∀ members : Members,
    membersFinite members = true ↔ ∀ member ∈ members, member.2.isFinite = true := by
  intro members
  induction members with
  | nil => simp [membersFinite]
  | cons member rest ih => simp [membersFinite, ih]

/-! ## Setting an integer -/

section Put

variable {d : Members}

theorem IsProper.put (proper : IsProper (.object d)) {name : Text} (named : name.IsProper)
    (n : Int) :
    IsProper (.object (Members.put name (.integer n) d)) := by
  cases proper with
  | object names each =>
      refine .object ?_ ?_
      · intro member isMember
        rcases Members.mem_put isMember with rfl | old
        · exact named
        · exact names member old
      · intro member isMember
        rcases Members.mem_put isMember with rfl | old
        · exact .integer n
        · exact each member old

theorem isFinite_put (finite : (object d).isFinite = true) (name : Text) (n : Int) :
    (object (Members.put name (integer n) d)).isFinite = true := by
  rw [isFinite, membersFinite_iff] at finite ⊢
  intro member isMember
  rcases Members.mem_put isMember with rfl | old
  · rfl
  · exact finite member old

end Put

end Json

/-! ## Bodies -/

namespace Connection

theorem bodyText_object_eq_ok_iff (d : Members) (written : Text) :
    bodyText (some (.object d)) = .ok written ↔
      (Json.object d).isFinite = true ∧ (Json.object d).compact.IsProper ∧
        written = (Json.object d).compact := by
  rw [bodyText, Text.isProper_iff_encode]
  cases finite : (Json.object d).isFinite with
  | false => simp
  | true =>
      cases Utf8.encode (Json.object d).compact with
      | error fault => simp
      | ok octets => simp [eq_comm]

/-- What is sent of a finite value without surrogates is read back. -/
theorem bodyText_object {d : Members} (finite : (Json.object d).isFinite = true)
    (proper : (Json.object d).IsProper)
    (readable : Json.IsReadable JsonReader.nestingLimit (.object d)) :
    ∃ written, bodyText (some (.object d)) = .ok written ∧ readObject written = .ok d := by
  have spelled := Json.isProper_write proper 0
  exact ⟨_, (bodyText_object_eq_ok_iff d _).mpr ⟨finite, spelled, rfl⟩,
    readObjectWithin_write JsonReader.isJsonStyle_compact readable⟩

/-- A body that can be sent can also be sent with an integer set in it. -/
theorem bodyText_put {d : Members} {written name : Text}
    (isBody : bodyText (some (.object d)) = .ok written) (named : name.IsProper) (n : Int) :
    ∃ other, bodyText (some (.object (Members.put name (.integer n) d))) = .ok other := by
  obtain ⟨finite, proper, -⟩ := (bodyText_object_eq_ok_iff d written).mp isBody
  refine ⟨_, (bodyText_object_eq_ok_iff _ _).mpr ⟨Json.isFinite_put finite name n, ?_, rfl⟩⟩
  rw [Json.compact, Json.isProper_write_object_iff] at proper ⊢
  intro member isMember
  rcases Members.mem_put isMember with rfl | old
  · have mark : Json.Style.compact.nameMark = text ":" := rfl
    have value : (Json.write .compact 1 (.integer n)).IsProper := Text.isProper_ofInt n
    simp [JsonReader.memberText, mark, Json.isProper_stringText named, value]
  · exact proper member old

end Connection

end SearchShell
