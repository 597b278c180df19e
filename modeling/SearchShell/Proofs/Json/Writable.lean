import SearchShell.Proofs.Json.Readable

/-!
# What can be written

A value can be written when its integers are short and the calls for its collections, and for what
is in the innermost of them, find room inside one another.  What was read can be written where there
is room for as many calls as collections nested in the text, and for those that a double takes.
-/

set_option autoImplicit false

namespace SearchShell

namespace Json

open JsonReader (IsShort)

/-- A value that can be written in a style with room for so many calls inside one another. -/
inductive IsWritable (style : Style) : Nat → Json → Prop
  | null {room : Nat} (enough : style.plainRoom ≤ room) : IsWritable style room null
  | bool {room : Nat} (b : Bool) (enough : style.plainRoom ≤ room) : IsWritable style room (bool b)
  | integer {room : Nat} {n : Int} (enough : style.plainRoom ≤ room) (short : IsShort n) :
      IsWritable style room (integer n)
  | float {room : Nat} (x : Binary64) (enough : style.floatRoom ≤ room) :
      IsWritable style room (float x)
  | string {room : Nat} (s : Text) (enough : style.plainRoom ≤ room) :
      IsWritable style room (string s)
  | array {room : Nat} {items : List Json} (each : ∀ item ∈ items, IsWritable style room item) :
      IsWritable style (room + 1) (array items)
  | object {room : Nat} {members : Members}
      (each : ∀ member ∈ members, IsWritable style room member.2) :
      IsWritable style (room + 1) (object members)

/-! ## Obstacles -/

section Obstacles

variable (style : Style)

theorem Style.shortage?_eq_none_iff (needed room : Nat) :
    style.shortage? needed room = none ↔ needed ≤ room := by
  simp [Style.shortage?]

theorem itemsObstacle?_eq_none_iff (room : Nat) : ∀ items : List Json,
    itemsObstacle? style room items = none ↔
      ∀ item ∈ items, obstacle? style room item = none := by
  intro items
  induction items with
  | nil => simp [itemsObstacle?]
  | cons item rest ih => simp [itemsObstacle?, ih]

theorem membersObstacle?_eq_none_iff (room : Nat) : ∀ members : Members,
    membersObstacle? style room members = none ↔
      ∀ member ∈ members, obstacle? style room member.2 = none := by
  intro members
  induction members with
  | nil => simp [membersObstacle?]
  | cons member rest ih => simp [membersObstacle?, ih]

theorem isShort_iff (n : Int) : IsShort n ↔ ¬Nat.pow 10 digitLimit ≤ n.natAbs := by
  rw [IsShort, Nat.not_le, Nat.pow_eq]

theorem obstacle?_integer_eq_none_iff (room : Nat) (n : Int) :
    obstacle? style room (integer n) = none ↔ style.plainRoom ≤ room ∧ IsShort n := by
  rw [obstacle?, Option.or_eq_none_iff, Style.shortage?_eq_none_iff, isShort_iff]
  simp

/-- A value meets no obstacle exactly when it can be written. -/
theorem obstacle?_eq_none_iff (v : Json) : ∀ room : Nat,
    obstacle? style room v = none ↔ IsWritable style room v := by
  induction v using byParts with
  | null =>
      intro room
      rw [obstacle?, Style.shortage?_eq_none_iff]
      exact ⟨.null, fun | .null enough => enough⟩
  | bool b =>
      intro room
      rw [obstacle?, Style.shortage?_eq_none_iff]
      exact ⟨.bool b, fun | .bool _ enough => enough⟩
  | integer n =>
      intro room
      rw [obstacle?_integer_eq_none_iff]
      exact ⟨fun ⟨enough, short⟩ => .integer enough short,
        fun | .integer enough short => ⟨enough, short⟩⟩
  | float x =>
      intro room
      rw [obstacle?, Style.shortage?_eq_none_iff]
      exact ⟨.float x, fun | .float _ enough => enough⟩
  | string s =>
      intro room
      rw [obstacle?, Style.shortage?_eq_none_iff]
      exact ⟨.string s, fun | .string _ enough => enough⟩
  | array items ih =>
      intro room
      cases room with
      | zero => exact ⟨nofun, nofun⟩
      | succ room =>
          rw [obstacle?, itemsObstacle?_eq_none_iff]
          exact ⟨fun none => .array fun item member => (ih item member room).mp (none item member),
            fun | .array each => fun item member => (ih item member room).mpr (each item member)⟩
  | object members ih =>
      intro room
      cases room with
      | zero => exact ⟨nofun, nofun⟩
      | succ room =>
          rw [obstacle?, membersObstacle?_eq_none_iff]
          exact ⟨fun none => .object fun member isMember =>
              (ih member isMember room).mp (none member isMember),
            fun | .object each => fun member isMember =>
              (ih member isMember room).mpr (each member isMember)⟩

/-- A value has a text exactly when it can be written, and then the one that it is written as. -/
theorem render_eq_ok_iff (room : Nat) (v : Json) (s : Text) :
    v.render style room = .ok s ↔ IsWritable style room v ∧ write style 0 v = s := by
  rw [← obstacle?_eq_none_iff, render]
  cases obstacle? style room v with
  | none => simp
  | some fault => simp

theorem exists_render_iff (room : Nat) (v : Json) :
    (∃ s, v.render style room = .ok s) ↔ IsWritable style room v := by
  simp [render_eq_ok_iff]

end Obstacles

/-! ## What was read -/

/-- What nests so many collections at most needs so much more room as a part does that is none. -/
theorem IsReadable.isWritable {style : Style} {depth room : Nat} {v : Json}
    (readable : IsReadable depth v) (plain : depth + style.plainRoom ≤ room)
    (double : depth + style.floatRoom ≤ room) : IsWritable style room v := by
  induction readable generalizing room with
  | null => exact .null (by omega)
  | bool b => exact .bool b (by omega)
  | integer short => exact .integer (by omega) short
  | float x => exact .float x (by omega)
  | string s => exact .string s (by omega)
  | array each ih =>
      cases room with
      | zero => omega
      | succ room => exact .array fun item member => ih item member (by omega) (by omega)
  | object distinct each ih =>
      cases room with
      | zero => omega
      | succ room =>
          exact .object fun member isMember => ih member isMember (by omega) (by omega)

end Json

end SearchShell
