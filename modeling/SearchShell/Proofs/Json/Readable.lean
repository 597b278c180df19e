import Mathlib.Data.List.TakeWhile
import SearchShell.Proofs.Entries
import SearchShell.Proofs.Json.Scalars
import SearchShell.Proofs.Outcome

/-!
# What the reader gives

Every value that was read has integers of few digits, objects without a repeated name, and
collections within collections up to a depth.
-/

set_option autoImplicit false

namespace SearchShell

/-! ## Members -/

namespace Members

variable {name : Text} {value : Json} {members : Members}

theorem nodup_put (distinct : (members.map Prod.fst).Nodup) :
    ((put name value members).map Prod.fst).Nodup :=
  Entries.nodup_putIn distinct

theorem mem_put {member : Text × Json} (isMember : member ∈ put name value members) :
    member = (name, value) ∨ member ∈ members :=
  Entries.mem_putIn isMember

theorem put_of_absent (absent : name ∉ members.map Prod.fst) :
    put name value members = members ++ [(name, value)] :=
  Entries.putIn_of_absent absent

theorem nodup_ofList (members : List (Text × Json)) : ((ofList members).map Prod.fst).Nodup := by
  have each : ∀ sofar : Members, (sofar.map Prod.fst).Nodup →
      ((members.foldl (fun sofar member => put member.1 member.2 sofar) sofar).map
        Prod.fst).Nodup := by
    induction members with
    | nil => exact fun _ distinct => distinct
    | cons member rest ih => exact fun sofar distinct => ih _ (nodup_put distinct)
  exact each [] List.nodup_nil

theorem mem_of_mem_ofList {member : Text × Json} {members : List (Text × Json)}
    (isMember : member ∈ ofList members) : member ∈ members := by
  have each : ∀ sofar : Members,
      member ∈ members.foldl (fun sofar member => put member.1 member.2 sofar) sofar →
        member ∈ sofar ∨ member ∈ members := by
    clear isMember
    induction members with
    | nil => exact fun _ => Or.inl
    | cons first rest ih =>
        intro sofar isMember
        rcases ih _ isMember with early | late
        · rcases mem_put early with here | before
          · exact Or.inr (here ▸ List.mem_cons_self)
          · exact Or.inl before
        · exact Or.inr (List.mem_cons_of_mem _ late)
  exact (each [] isMember).resolve_left List.not_mem_nil

/-- Members with distinct names stay as they are. -/
theorem ofList_of_nodup {members : List (Text × Json)} (distinct : (members.map Prod.fst).Nodup) :
    ofList members = members := by
  have each : ∀ sofar : Members, ((sofar ++ members).map Prod.fst).Nodup →
      members.foldl (fun sofar member => put member.1 member.2 sofar) sofar = sofar ++ members := by
    clear distinct
    induction members with
    | nil => exact fun sofar _ => (List.append_nil sofar).symm
    | cons first rest ih =>
        intro sofar distinct
        have absent : first.1 ∉ sofar.map Prod.fst := by
          rw [List.map_append, List.map_cons, List.nodup_append] at distinct
          exact fun member => distinct.2.2 _ member _ List.mem_cons_self rfl
        have moved : sofar ++ first :: rest = sofar ++ [first] ++ rest := by simp
        rw [moved] at distinct
        rw [List.foldl_cons, put_of_absent absent, ih _ distinct, moved]
  exact each [] distinct

end Members

/-! ## Readable values -/

namespace Json

open JsonReader (IsShort)

/-- What holds of a collection when it holds of its parts holds of every value. -/
@[elab_as_elim]
theorem byParts {P : Json → Prop} (null : P null) (bool : ∀ b, P (bool b))
    (integer : ∀ n, P (integer n)) (float : ∀ x, P (float x)) (string : ∀ s, P (string s))
    (array : ∀ items, (∀ item ∈ items, P item) → P (array items))
    (object : ∀ members : Members, (∀ member ∈ members, P member.2) → P (object members)) :
    ∀ v, P v
  | .null => null
  | .bool b => bool b
  | .integer n => integer n
  | .float x => float x
  | .string s => string s
  | .array items => array items fun item _ =>
      byParts null bool integer float string array object item
  | .object members => object members fun member _ =>
      byParts null bool integer float string array object member.2
termination_by v => sizeOf v
decreasing_by
  · have smaller := List.sizeOf_lt_of_mem (show item ∈ items from ‹_›)
    simp only [Json.array.sizeOf_spec]
    omega
  · have smaller := List.sizeOf_lt_of_mem (show member ∈ members from ‹_›)
    have within : sizeOf member.2 < sizeOf member := by
      obtain ⟨name, value⟩ := member
      simp
    simp only [Json.object.sizeOf_spec]
    omega

/-- A value that nests at most `depth` collections, which no text but its own can be read as. -/
inductive IsReadable : Nat → Json → Prop
  | null {depth : Nat} : IsReadable depth null
  | bool {depth : Nat} (b : Bool) : IsReadable depth (bool b)
  | integer {depth : Nat} {n : Int} (short : IsShort n) : IsReadable depth (integer n)
  | float {depth : Nat} (x : Binary64) : IsReadable depth (float x)
  | string {depth : Nat} (s : Text) : IsReadable depth (string s)
  | array {depth : Nat} {items : List Json} (each : ∀ item ∈ items, IsReadable depth item) :
      IsReadable (depth + 1) (array items)
  | object {depth : Nat} {members : Members} (distinct : (members.map Prod.fst).Nodup)
      (each : ∀ member ∈ members, IsReadable depth member.2) :
      IsReadable (depth + 1) (object members)

theorem IsReadable.of_get? {depth : Nat} {members : Members} {name : Text} {value : Json}
    (readable : IsReadable (depth + 1) (Json.object members))
    (found : Members.get? name members = some value) : IsReadable depth value := by
  cases readable with
  | object distinct each => exact each _ (Members.mem_of_get? found)

end Json

namespace JsonReader

open Json (IsReadable)
open Outcome

/-! ## Numbers -/

theorem splitWhole_digits {s : Text} {c : CodePoint} (member : c ∈ (splitWhole s).1) :
    c.isAsciiDigit = true := by
  cases s with
  | nil => cases member
  | cons first rest =>
      rw [splitWhole] at member
      split at member
      next zero =>
        rw [List.mem_singleton.mp member, zero]
        decide
      next => exact List.mem_takeWhile_imp member

theorem splitWhole_append_eq (s : Text) : (splitWhole s).1 ++ (splitWhole s).2 = s := by
  cases s with
  | nil => rfl
  | cons first rest =>
      rw [splitWhole]
      split
      · rfl
      · exact List.takeWhile_append_dropWhile

theorem suffix_of_splitFraction? {s fraction rest : Text}
    (found : splitFraction? s = some (fraction, rest)) : rest <:+ s := by
  unfold splitFraction? at found
  split at found
  next point digit tail =>
    split at found
    next =>
      cases found
      exact ((List.dropWhile_suffix _).trans (List.suffix_cons digit tail)).trans
        (List.suffix_cons point _)
    next => cases found
  next => cases found

theorem splitSign_suffix (s : Text) : s.splitSign.2 <:+ s := by
  cases s with
  | nil => exact List.suffix_rfl
  | cons c rest =>
      rw [Text.splitSign]
      split
      · exact List.suffix_cons c rest
      · split
        · exact List.suffix_cons c rest
        · exact List.suffix_rfl

theorem suffix_of_splitExponent? {s rest : Text} {e : Int}
    (found : splitExponent? s = some (e, rest)) : rest <:+ s := by
  unfold splitExponent? at found
  split at found
  next mark tail =>
    have unsigned := splitSign_suffix tail
    split at found
    next =>
      split at found
      next negative digits isSplit =>
        simp only at found
        split at found
        next => cases found
        next =>
          cases found
          rw [isSplit] at unsigned
          exact ((List.dropWhile_suffix _).trans unsigned).trans (List.suffix_cons mark tail)
    next => cases found
  next => cases found

inductive NumberOutcome (s : Text) : Except Failure (Json × Text) → Prop
  | missing : NumberOutcome s (.error (.malformed .expectedValue s.length))
  | integer (negative : Bool) {whole rest : Text}
      (written : s = Text.signed negative (whole ++ rest))
      (digits : ∀ c ∈ whole, c.isAsciiDigit = true) (short : whole.length ≤ digitLimit) :
      NumberOutcome s (.ok (.integer (signedInt negative whole.asciiNumber), rest))
  | tooLong (negative : Bool) {whole rest : Text}
      (written : s = Text.signed negative (whole ++ rest))
      (digits : ∀ c ∈ whole, c.isAsciiDigit = true) (long : digitLimit < whole.length) :
      NumberOutcome s (.error (.tooLong whole.length))
  | float (x : Binary64) {rest : Text} (suffix : rest <:+ s) :
      NumberOutcome s (.ok (.float x, rest))

theorem readNumber_outcome (s : Text) : NumberOutcome s (readNumber s) := by
  unfold readNumber
  split
  next negative unsigned isSplit =>
    have written : s = Text.signed negative unsigned := by
      split at isSplit
      next => cases isSplit; rfl
      next c rest =>
        split at isSplit
        next minus => cases isSplit; rw [minus]; rfl
        next => cases isSplit; rfl
    have isSuffix : unsigned <:+ s := by
      rw [written]
      cases negative with
      | true => exact List.suffix_cons _ _
      | false => exact List.suffix_rfl
    split
    next whole afterWhole isWhole =>
      have parts : whole ++ afterWhole = unsigned := by
        simpa [isWhole] using splitWhole_append_eq unsigned
      have digits : ∀ c ∈ whole, c.isAsciiDigit = true := by
        intro c member
        exact splitWhole_digits (s := unsigned) (by rwa [isWhole])
      rw [← parts] at written isSuffix
      have afterSuffix := (List.suffix_append whole afterWhole).trans isSuffix
      split
      next => exact .missing
      next =>
        simp only
        have fractionSuffix {fraction tail : Text}
            (found : splitFraction? afterWhole = some (fraction, tail)) : tail <:+ s :=
          (suffix_of_splitFraction? found).trans afterSuffix
        cases isFraction : splitFraction? afterWhole with
        | none =>
            cases isExponent : splitExponent? afterWhole with
            | none =>
                simp only [Option.isNone_none, Bool.and_self, if_true]
                split
                next long => exact .tooLong negative written digits long
                next short => exact .integer negative written digits (Nat.le_of_not_lt short)
            | some exponent =>
                exact .float _ ((suffix_of_splitExponent? isExponent).trans afterSuffix)
        | some fraction =>
            cases isExponent : splitExponent? fraction.2 with
            | none => exact .float _ (fractionSuffix isFraction)
            | some exponent =>
                have suffix := fractionSuffix isFraction
                exact .float _ ((suffix_of_splitExponent? isExponent).trans suffix)

theorem natAbs_signedInt (negative : Bool) (n : Nat) : (signedInt negative n).natAbs = n := by
  cases negative with
  | true => exact Int.natAbs_neg n
  | false => rfl

theorem readNumber_isReadable {s : Text} {v : Json} {rest : Text}
    (read : readNumber s = .ok (v, rest)) (depth : Nat) : IsReadable depth v := by
  have outcome := readNumber_outcome s
  rw [read] at outcome
  cases outcome with
  | integer negative written digits short =>
      refine .integer ?_
      rw [IsShort, natAbs_signedInt]
      exact Nat.lt_of_lt_of_le (Text.asciiNumber_lt digits)
        (Nat.pow_le_pow_right (by decide) short)
  | float x suffix => exact .float x

theorem readScalar_isReadable {s : Text} {v : Json} {rest : Text}
    (read : readScalar s = .ok (v, rest)) (depth : Nat) : IsReadable depth v := by
  unfold readScalar at read
  split at read
  next word value found =>
    cases read
    have member := List.mem_of_find?_eq_some found
    simp only [words, List.mem_cons, Prod.mk.injEq, List.not_mem_nil, or_false] at member
    rcases member with ⟨-, rfl⟩ | ⟨-, rfl⟩ | ⟨-, rfl⟩ | ⟨-, rfl⟩ | ⟨-, rfl⟩ | ⟨-, rfl⟩
    · exact .null
    · exact .bool true
    · exact .bool false
    all_goals exact .float _
  next => exact readNumber_isReadable read depth

section Collections

variable {readValue : Reader Json} {P : Json → Prop}
  (each : ∀ s v rest, readValue s = .ok (v, rest) → P v)

include each

theorem readItems_each : ∀ (fuel : Nat) (s : Text) (items : List Json) (rest : Text),
    readItems readValue fuel s = .ok (items, rest) → ∀ item ∈ items, P item := by
  intro fuel
  induction fuel with
  | zero => intro s items rest read; cases read
  | succ fuel ih =>
      intro s items rest read
      obtain ⟨⟨first, tail⟩, readFirst, read⟩ := (bind_eq_ok_iff _ _ _).mp read
      obtain ⟨⟨closed, tail⟩, -, read⟩ := (bind_eq_ok_iff _ _ _).mp read
      cases closed with
      | true =>
          cases read
          intro item member
          rw [List.mem_singleton.mp member]
          exact each _ _ _ readFirst
      | false =>
          obtain ⟨⟨others, tail⟩, readOthers, read⟩ := (bind_eq_ok_iff _ _ _).mp read
          cases read
          intro item member
          rcases List.mem_cons.mp member with rfl | later
          · exact each _ _ _ readFirst
          · exact ih _ _ _ readOthers item later

theorem readMembers_each : ∀ (fuel : Nat) (s : Text) (members : List (Text × Json)) (rest : Text),
    readMembers readValue fuel s = .ok (members, rest) → ∀ member ∈ members, P member.2 := by
  intro fuel
  induction fuel with
  | zero => intro s members rest read; cases read
  | succ fuel ih =>
      intro s members rest read
      obtain ⟨⟨name, tail⟩, -, read⟩ := (bind_eq_ok_iff _ _ _).mp read
      obtain ⟨⟨first, tail⟩, readFirst, read⟩ := (bind_eq_ok_iff _ _ _).mp read
      obtain ⟨⟨closed, tail⟩, -, read⟩ := (bind_eq_ok_iff _ _ _).mp read
      cases closed with
      | true =>
          cases read
          intro member isMember
          rw [List.mem_singleton.mp isMember]
          exact each _ _ _ readFirst
      | false =>
          obtain ⟨⟨others, tail⟩, readOthers, read⟩ := (bind_eq_ok_iff _ _ _).mp read
          cases read
          intro member isMember
          rcases List.mem_cons.mp isMember with rfl | later
          · exact each _ _ _ readFirst
          · exact ih _ _ _ readOthers member later

end Collections

theorem readArray_isReadable {readValue : Reader Json} {depth fuel : Nat}
    (each : ∀ s v rest, readValue s = .ok (v, rest) → IsReadable depth v) {s : Text} {v : Json}
    {rest : Text} (read : readArray readValue fuel s = .ok (v, rest)) :
    IsReadable (depth + 1) v := by
  unfold readArray at read
  split at read
  next => cases read
  next =>
    split at read
    next =>
      cases read
      exact .array nofun
    next =>
      obtain ⟨⟨items, tail⟩, readAll, read⟩ := (bind_eq_ok_iff _ _ _).mp read
      cases read
      exact .array (readItems_each each _ _ _ _ readAll)

theorem readObject_isReadable {readValue : Reader Json} {depth fuel : Nat}
    (each : ∀ s v rest, readValue s = .ok (v, rest) → IsReadable depth v) {s : Text} {v : Json}
    {rest : Text} (read : readObject readValue fuel s = .ok (v, rest)) :
    IsReadable (depth + 1) v := by
  unfold readObject at read
  split at read
  next => cases read
  next =>
    split at read
    next =>
      cases read
      exact .object List.nodup_nil nofun
    next =>
      obtain ⟨⟨members, tail⟩, readAll, read⟩ := (bind_eq_ok_iff _ _ _).mp read
      cases read
      refine .object (Members.nodup_ofList members) ?_
      intro member isMember
      exact readMembers_each each _ _ _ _ readAll member (Members.mem_of_mem_ofList isMember)

theorem readValue_isReadable (fuel : Nat) : ∀ (depth : Nat) (s : Text) (v : Json) (rest : Text),
    readValue fuel depth s = .ok (v, rest) → IsReadable depth v := by
  intro depth
  induction depth with
  | zero =>
      intro s v rest read
      cases s with
      | nil => cases read
      | cons c tail =>
          rw [readValue] at read
          split at read
          next =>
            obtain ⟨⟨s, tail⟩, -, read⟩ := (bind_eq_ok_iff _ _ _).mp read
            cases read
            exact .string s
          next =>
            split at read
            next => cases read
            next =>
              split at read
              next => cases read
              next => exact readScalar_isReadable read 0
  | succ depth ih =>
      intro s v rest read
      cases s with
      | nil => cases read
      | cons c tail =>
          rw [readValue] at read
          split at read
          next =>
            obtain ⟨⟨s, tail⟩, -, read⟩ := (bind_eq_ok_iff _ _ _).mp read
            cases read
            exact .string s
          next =>
            split at read
            next => exact readArray_isReadable ih read
            next =>
              split at read
              next => exact readObject_isReadable ih read
              next => exact readScalar_isReadable read (depth + 1)

theorem readWhole_isReadable {depth : Nat} {s : Text} {v : Json}
    (read : readWhole depth s = .ok v) : IsReadable depth v := by
  obtain ⟨⟨value, tail⟩, readFirst, read⟩ := (bind_eq_ok_iff _ _ _).mp read
  simp only at read
  split at read
  next =>
    cases read
    exact readValue_isReadable _ _ _ _ _ readFirst
  next => cases read

end JsonReader

end SearchShell
