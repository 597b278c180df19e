import Mathlib.Logic.Basic
import SearchShell.Json.Basic

/-!
# Entries as a map

What is found under a key after an entry was put or erased, and that the list of entries
holds exactly what is found.
-/

set_option autoImplicit false

namespace SearchShell

namespace Entries

variable {κ ν : Type} [DecidableEq κ]

omit [DecidableEq κ] in
theorem ext {first second : Entries κ ν} (same : first.list = second.list) : first = second := by
  obtain ⟨list, distinct⟩ := first
  obtain ⟨other, otherDistinct⟩ := second
  cases same
  rfl

/-! ## Lists with distinct keys -/

theorem lookup_cons_eq (key first : κ) (old : ν) (rest : List (κ × ν)) :
    ((first, old) :: rest).lookup key = if key = first then some old else rest.lookup key := by
  by_cases same : key = first
  · simp [same]
  · rw [List.lookup_cons, beq_eq_false_iff_ne.mpr same, if_neg same]

theorem lookup_putIn (key other : κ) (value : ν) : ∀ list : List (κ × ν),
    (putIn key value list).lookup other =
      if other = key then some value else list.lookup other := by
  intro list
  induction list with
  | nil => rw [putIn, lookup_cons_eq]
  | cons entry rest ih =>
      obtain ⟨first, old⟩ := entry
      by_cases replaced : first = key
      · subst replaced
        by_cases same : other = first
        · simp [putIn, same]
        · simp [putIn, lookup_cons_eq, same]
      · by_cases same : other = first
        · subst same
          simp [putIn, replaced]
        · simp [putIn, replaced, lookup_cons_eq, same, ih]

theorem lookup_filter_ne (key other : κ) : ∀ list : List (κ × ν),
    (list.filter fun entry => entry.1 ≠ key).lookup other =
      if other = key then none else list.lookup other := by
  intro list
  induction list with
  | nil => simp
  | cons entry rest ih =>
      obtain ⟨first, old⟩ := entry
      by_cases erased : first = key
      · subst erased
        rw [List.filter_cons_of_neg (by simp), ih, lookup_cons_eq]
        by_cases same : other = first
        · simp [same]
        · simp [same]
      · rw [List.filter_cons_of_pos (by simpa using erased), lookup_cons_eq, lookup_cons_eq, ih]
        by_cases same : other = first
        · subst same
          simp [erased]
        · simp [same]

theorem mem_iff_lookup : ∀ {list : List (κ × ν)}, (list.map Prod.fst).Nodup →
    ∀ (key : κ) (value : ν), (key, value) ∈ list ↔ list.lookup key = some value := by
  intro list
  induction list with
  | nil => simp
  | cons entry rest ih =>
      intro distinct key value
      obtain ⟨first, old⟩ := entry
      rw [List.map_cons, List.nodup_cons] at distinct
      rw [lookup_cons_eq]
      by_cases same : key = first
      · subst same
        have absent : (key, value) ∉ rest := fun member =>
          distinct.1 (List.mem_map.mpr ⟨(key, value), member, rfl⟩)
        simp [absent, eq_comm]
      · simp [same, ih distinct.2]

theorem filter_ne_of_lookup_none {key : κ} {list : List (κ × ν)}
    (absent : list.lookup key = none) : (list.filter fun entry => entry.1 ≠ key) = list := by
  rw [List.filter_eq_self]
  intro entry member
  have other := List.lookup_eq_none_iff.mp absent entry member
  exact decide_eq_true (Ne.symm (bne_iff_ne.mp other))

theorem putIn_of_lookup {key : κ} {value : ν} : ∀ {list : List (κ × ν)},
    list.lookup key = some value → putIn key value list = list := by
  intro list
  induction list with
  | nil => intro found; cases found
  | cons entry rest ih =>
      intro found
      obtain ⟨first, old⟩ := entry
      rw [lookup_cons_eq] at found
      by_cases same : first = key
      · subst same
        rw [if_pos rfl] at found
        cases found
        simp [putIn]
      · rw [if_neg (Ne.symm same)] at found
        simp [putIn, same, ih found]

theorem mem_putIn {key : κ} {value : ν} {entry : κ × ν} : ∀ {list : List (κ × ν)},
    entry ∈ putIn key value list → entry = (key, value) ∨ entry ∈ list := by
  intro list
  induction list with
  | nil => simp [putIn]
  | cons first rest ih =>
      obtain ⟨other, old⟩ := first
      rw [putIn]
      split
      · intro member
        rcases List.mem_cons.mp member with new | later
        · exact Or.inl new
        · exact Or.inr (List.mem_cons_of_mem _ later)
      · intro member
        rcases List.mem_cons.mp member with here | later
        · exact Or.inr (here ▸ List.mem_cons_self)
        · exact (ih later).imp id (List.mem_cons_of_mem _)

theorem putIn_of_absent {key : κ} {value : ν} : ∀ {list : List (κ × ν)},
    key ∉ list.map Prod.fst → putIn key value list = list ++ [(key, value)] := by
  intro list
  induction list with
  | nil => intro _; rfl
  | cons first rest ih =>
      intro absent
      obtain ⟨other, old⟩ := first
      rw [List.map_cons, List.mem_cons, not_or] at absent
      rw [putIn, if_neg (Ne.symm absent.1), ih absent.2, List.cons_append]

theorem putIn_putIn (key : κ) (before value : ν) : ∀ list : List (κ × ν),
    putIn key value (putIn key before list) = putIn key value list := by
  intro list
  induction list with
  | nil => simp [putIn]
  | cons first rest ih =>
      obtain ⟨other, old⟩ := first
      by_cases same : other = key
      · simp [putIn, same]
      · simp [putIn, same, ih]

/-! ## Entries -/

variable (entries : Entries κ ν)

@[simp] theorem get?_empty (key : κ) : (empty : Entries κ ν).get? key = none := rfl

theorem get?_put (key other : κ) (value : ν) :
    (entries.put key value).get? other = if other = key then some value else entries.get? other :=
  lookup_putIn key other value entries.list

theorem get?_erase (key other : κ) :
    (entries.erase key).get? other = if other = key then none else entries.get? other :=
  lookup_filter_ne key other entries.list

theorem mem_list_iff (key : κ) (value : ν) :
    (key, value) ∈ entries.list ↔ entries.get? key = some value :=
  mem_iff_lookup entries.distinct key value

variable {entries}

theorem erase_of_get?_none {key : κ} (absent : entries.get? key = none) :
    entries.erase key = entries :=
  ext (filter_ne_of_lookup_none absent)

theorem put_of_get? {key : κ} {value : ν} (found : entries.get? key = some value) :
    entries.put key value = entries :=
  ext (putIn_of_lookup found)

end Entries

/-! ## Finding members

What an object has under a name is the first of its members of that name. -/

namespace Members

variable {name : Text} {value : Json} {members : Members}

theorem mem_of_get? (found : get? name members = some value) : (name, value) ∈ members := by
  induction members with
  | nil => cases found
  | cons member rest ih =>
      obtain ⟨key, first⟩ := member
      rw [get?] at found
      split at found
      next here =>
        cases found
        rw [here]
        exact List.mem_cons_self
      next => exact List.mem_cons_of_mem _ (ih found)

theorem isSome_get?_iff (name : Text) (members : Members) :
    (get? name members).isSome = true ↔ ∃ value, (name, value) ∈ members := by
  induction members with
  | nil => simp [get?]
  | cons member rest ih =>
      obtain ⟨key, first⟩ := member
      rw [get?]
      split
      next here => simp [here]
      next other => simp [ih, Ne.symm other]

theorem get?_eq_entries (name : Text) (distinct : (members.map Prod.fst).Nodup) :
    get? name members = Entries.get? name (⟨members, distinct⟩ : Entries Text Json) := by
  induction members with
  | nil => rfl
  | cons member rest ih =>
      obtain ⟨key, value⟩ := member
      rw [get?, ih (List.nodup_cons.mp distinct).2, Entries.get?, Entries.get?,
        Entries.lookup_cons_eq]
      exact if_congr eq_comm rfl rfl

end Members

end SearchShell
