import SearchShell.Number.Binary64
import SearchShell.Text.Basic

/-!
# JSON values

Integers are unbounded and kept apart from doubles.  An object is the list of
its members in the order in which their names first appeared.
-/

set_option autoImplicit false

namespace SearchShell

/-! ## Entries

Values under distinct keys, in the order in which the keys first appeared.  A value that
replaces another takes its place; a key that was erased comes last when it appears again. -/

structure Entries (κ ν : Type) where
  list : List (κ × ν)
  distinct : (list.map Prod.fst).Nodup

namespace Entries

variable {κ ν : Type} [DecidableEq κ]

def empty : Entries κ ν := ⟨[], List.nodup_nil⟩

def get? (key : κ) (entries : Entries κ ν) : Option ν := entries.list.lookup key

/-- Puts a value into a list: in the place of the one that it replaces, or else last. -/
def putIn (key : κ) (value : ν) : List (κ × ν) → List (κ × ν)
  | [] => [(key, value)]
  | (other, old) :: rest =>
      if other = key then (key, value) :: rest else (other, old) :: putIn key value rest

theorem keys_putIn (key : κ) (value : ν) : ∀ list : List (κ × ν),
    (putIn key value list).map Prod.fst =
      if key ∈ list.map Prod.fst then list.map Prod.fst else list.map Prod.fst ++ [key] := by
  intro list
  induction list with
  | nil => rfl
  | cons entry rest ih =>
      obtain ⟨other, old⟩ := entry
      by_cases same : other = key
      · simp [putIn, same]
      · simp only [putIn, same, if_false, List.map_cons, ih, List.mem_cons, Ne.symm same, false_or]
        split
        · rfl
        · rfl

theorem nodup_putIn {key : κ} {value : ν} {list : List (κ × ν)}
    (distinct : (list.map Prod.fst).Nodup) : ((putIn key value list).map Prod.fst).Nodup := by
  rw [keys_putIn]
  split
  · exact distinct
  next absent =>
    rw [List.nodup_append]
    refine ⟨distinct, by simp, ?_⟩
    intro first inList second isKey same
    rw [List.mem_singleton.mp isKey] at same
    exact absent (same ▸ inList)

def put (key : κ) (value : ν) (entries : Entries κ ν) : Entries κ ν :=
  ⟨putIn key value entries.list, nodup_putIn entries.distinct⟩

def erase (key : κ) (entries : Entries κ ν) : Entries κ ν :=
  ⟨entries.list.filter fun entry => entry.1 ≠ key,
    entries.distinct.sublist ((List.filter_sublist).map Prod.fst)⟩

end Entries

/-! ## Values -/

inductive Json where
  | null
  | bool (b : Bool)
  | integer (n : Int)
  | float (x : Binary64)
  | string (s : Text)
  | array (items : List Json)
  | object (members : List (Text × Json))

abbrev Members := List (Text × Json)

namespace Members

def get? (name : Text) : Members → Option Json
  | [] => none
  | (key, value) :: rest => if key = name then some value else get? name rest

def getOrNull (name : Text) (members : Members) : Json := (get? name members).getD .null

def hasName (name : Text) (members : Members) : Bool := (get? name members).isSome

def put (name : Text) (value : Json) (members : Members) : Members :=
  Entries.putIn name value members

/-- The members that result from setting each in turn. -/
def ofList (members : List (Text × Json)) : Members :=
  members.foldl (fun sofar member => put member.1 member.2 sofar) []

end Members

namespace Json

def kindName : Json → Text
  | null => text "NoneType"
  | bool _ => text "bool"
  | integer _ => text "int"
  | float _ => text "float"
  | string _ => text "str"
  | array _ => text "list"
  | object _ => text "dict"

def isNull : Json → Bool
  | null => true
  | _ => false

/-- Null, false, zero and whatever is empty count as false, everything else as true. -/
def isTruthy : Json → Bool
  | null => false
  | bool b => b
  | integer n => n ≠ 0
  | float x => !x.isZero
  | string s => !s.isEmpty
  | array items => !items.isEmpty
  | object members => !members.isEmpty

end Json

/-! ## Equality of values

Two values are equal when they stand for the same number, text or collection:
true and false count as one and zero, an integer may equal a double, and the
order of an object's members does not matter.  Not a number differs from
itself, but a collection that holds it still equals itself. -/

namespace Json

def asInt? : Json → Option Int
  | bool b => some (if b then 1 else 0)
  | integer n => some n
  | _ => none

/-- Equality of values that are not both arrays or both objects. -/
def scalarEquals : Json → Json → Bool
  | null, null => true
  | string s, string t => s = t
  | float x, float y => x.equals y
  | float x, b => b.asInt?.any x.equalsInt
  | a, float y => a.asInt?.any y.equalsInt
  | a, b => match a.asInt?, b.asInt? with
    | some m, some n => m = n
    | _, _ => false

def bothNan : Json → Json → Bool
  | float .nan, float .nan => true
  | _, _ => false

mutual

def equals : Json → Json → Bool
  | array items, other => match other with
    | array others => itemsEqual items others
    | _ => false
  | object members, other => match other with
    | object others => members.length = others.length && membersEqual members others
    | _ => false
  | null, other => scalarEquals null other
  | bool b, other => scalarEquals (bool b) other
  | integer n, other => scalarEquals (integer n) other
  | float x, other => scalarEquals (float x) other
  | string s, other => scalarEquals (string s) other

def itemsEqual : List Json → List Json → Bool
  | [], others => others.isEmpty
  | item :: rest, others => match others with
    | [] => false
    | other :: others => (bothNan item other || equals item other) && itemsEqual rest others

/-- Every member has an equal one of the same name among the others. -/
def membersEqual : List (Text × Json) → Members → Bool
  | [], _ => true
  | (name, value) :: rest, others =>
      (match Members.get? name others with
        | some other => bothNan value other || equals value other
        | none => false) && membersEqual rest others

end

end Json

end SearchShell
