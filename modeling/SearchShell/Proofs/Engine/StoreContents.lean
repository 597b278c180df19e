import Mathlib.Data.List.Nodup
import Mathlib.Logic.Function.Basic
import SearchShell.Engine.Store
import SearchShell.Proofs.Entries

/-!
# What a store holds

A store is a map from addresses to documents: putting and erasing change what is found at
one address, and the list of all documents holds what is found.  Erasing what is not there
changes nothing at all.
-/

set_option autoImplicit false

namespace SearchShell

namespace Store

theorem sameAddress_iff (first second : DocumentAddress) :
    first = second ↔ (first.index, first.type) = (second.index, second.type) ∧
      first.id = second.id := by
  obtain ⟨index, type, id⟩ := first
  obtain ⟨otherIndex, otherType, otherId⟩ := second
  simp [and_assoc]

theorem groupAt_withGroup (address other : DocumentAddress) (group : DocumentGroup)
    (store : Store) :
    (store.withGroup address group).groupAt other =
      if (other.index, other.type) = (address.index, address.type) then group
      else store.groupAt other := by
  simp only [groupAt, withGroup, Entries.get?_put]
  split
  · rfl
  · rfl

theorem get?_put (address other : DocumentAddress) (document : Members) (store : Store) :
    (store.put address document).get? other =
      if other = address then some document else store.get? other := by
  simp only [get?, put, groupAt_withGroup, sameAddress_iff other address]
  by_cases sameGroup : (other.index, other.type) = (address.index, address.type)
  · have same : store.groupAt other = store.groupAt address := by simp only [groupAt, sameGroup]
    simp only [sameGroup, if_true, Entries.get?_put, true_and, same]
  · simp only [sameGroup, if_false, false_and]

theorem get?_erase (address other : DocumentAddress) (store : Store) :
    (store.erase address).get? other =
      if other = address then none else store.get? other := by
  unfold erase
  split
  next group found =>
    have isGroup : store.groupAt address = group := by simp [groupAt, found]
    simp only [get?, groupAt_withGroup, sameAddress_iff other address]
    by_cases sameGroup : (other.index, other.type) = (address.index, address.type)
    · have same : store.groupAt other = group := by simp only [groupAt, sameGroup, found]; rfl
      simp only [sameGroup, if_true, Entries.get?_erase, true_and, same]
    · simp only [sameGroup, if_false, false_and]
  next absent =>
    split
    next same =>
      subst same
      simp [get?, groupAt, absent]
    next => rfl

/-- A written document is found under the id that the writing gives. -/
theorem get?_write (ids : Nat → Text) (target : WriteTarget) (other : DocumentAddress)
    (document : Members) (store : Store) :
    (store.write ids target document).2.get? other =
      if other = ⟨target.index, target.type, (store.write ids target document).1⟩ then some document
      else store.get? other := by
  unfold write
  split
  · exact get?_put _ other document store
  · exact get?_put _ other document { store with generated := store.generated + 1 }

theorem erase_of_get?_none {address : DocumentAddress} {store : Store}
    (absent : store.get? address = none) : store.erase address = store := by
  unfold erase
  split
  next group found =>
    have nothing : group.get? address.id = none := by
      simpa [get?, groupAt, found] using absent
    rw [Entries.erase_of_get?_none nothing, withGroup, Entries.put_of_get? found]
  next => rfl

/-! ## The map -/

abbrev Contents := DocumentAddress → Option Members

def contents (store : Store) : Contents := fun address => store.get? address

theorem contents_erase (address : DocumentAddress) (store : Store) :
    (store.erase address).contents = Function.update store.contents address none := by
  funext other
  rw [Function.update_apply]
  exact get?_erase address other store

theorem contents_write (ids : Nat → Text) (target : WriteTarget) (document : Members)
    (store : Store) :
    (store.write ids target document).2.contents =
      Function.update store.contents
        ⟨target.index, target.type, (store.write ids target document).1⟩ (some document) := by
  funext other
  rw [Function.update_apply]
  exact get?_write ids target other document store

/-- All documents are those that are found at their addresses. -/
theorem mem_toList_iff (store : Store) (address : DocumentAddress) (document : Members) :
    (address, document) ∈ store.toList ↔ store.get? address = some document := by
  obtain ⟨index, type, id⟩ := address
  have inGroup (group : DocumentGroup) :
      ((index, type), group) ∈ store.groups.list ∧ (id, document) ∈ group.list ↔
        store.groups.get? (index, type) = some group ∧ group.get? id = some document := by
    rw [Entries.mem_list_iff, Entries.mem_list_iff]
  have listed : (⟨index, type, id⟩, document) ∈ store.toList ↔
      ∃ group, ((index, type), group) ∈ store.groups.list ∧ (id, document) ∈ group.list := by
    simp only [toList, List.mem_flatMap, List.mem_map, Prod.mk.injEq, DocumentAddress.mk.injEq]
    constructor
    · rintro ⟨⟨key, group⟩, inStore, ⟨found, other⟩, inDocuments, ⟨rfl, rfl, rfl⟩, rfl⟩
      exact ⟨group, inStore, inDocuments⟩
    · rintro ⟨group, inStore, inDocuments⟩
      exact ⟨((index, type), group), inStore, (id, document), inDocuments, ⟨rfl, rfl, rfl⟩, rfl⟩
  rw [listed]
  simp only [inGroup, get?, groupAt]
  cases store.groups.get? (index, type) with
  | none => simp
  | some group => simp

/-- The addresses of a store, group by group. -/
theorem addresses_toList (store : Store) :
    store.toList.map Prod.fst = store.groups.list.flatMap fun entry =>
      (entry.2.list.map Prod.fst).map fun id => ⟨entry.1.1, entry.1.2, id⟩ := by
  simp [toList, List.map_flatMap, Function.comp_def]

/-- No address is listed twice. -/
theorem nodup_toList (store : Store) : (store.toList.map Prod.fst).Nodup := by
  have keysDiffer : store.groups.list.Pairwise fun first second => first.1 ≠ second.1 :=
    List.pairwise_map.mp store.groups.distinct
  rw [addresses_toList, List.nodup_flatMap]
  constructor
  · intro entry _
    exact entry.2.distinct.map fun first second same => (DocumentAddress.mk.inj same).2.2
  · refine keysDiffer.imp ?_
    intro first second differ address inFirst inSecond
    obtain ⟨id, _, rfl⟩ := List.mem_map.mp inFirst
    obtain ⟨otherId, _, same⟩ := List.mem_map.mp inSecond
    obtain ⟨sameIndex, sameType, _⟩ := DocumentAddress.mk.inj same
    exact differ (Prod.ext sameIndex.symm sameType.symm)

end Store

end SearchShell
