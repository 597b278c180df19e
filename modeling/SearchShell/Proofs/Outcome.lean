import Mathlib.Data.List.Forall2

/-!
# Outcomes of composed steps

When a chain of steps that can fail has a given result, each of its steps has one.
-/

set_option autoImplicit false

namespace SearchShell

namespace Outcome

variable {ε ε' α β : Type}

theorem bind_eq_ok_iff (x : Except ε α) (f : α → Except ε β) (b : β) :
    (x >>= f) = .ok b ↔ ∃ a, x = .ok a ∧ f a = .ok b := by
  cases x with
  | error e => simp [bind, Except.bind]
  | ok a => simp [bind, Except.bind]

theorem bind_eq_error_iff (x : Except ε α) (f : α → Except ε β) (e : ε) :
    (x >>= f) = .error e ↔ x = .error e ∨ ∃ a, x = .ok a ∧ f a = .error e := by
  cases x with
  | error e => simp [bind, Except.bind]
  | ok a => simp [bind, Except.bind]

theorem map_eq_ok_iff (x : Except ε α) (f : α → β) (b : β) :
    x.map f = .ok b ↔ ∃ a, x = .ok a ∧ f a = b := by
  cases x with
  | error e => simp [Except.map]
  | ok a => simp [Except.map]

theorem map_eq_error_iff (x : Except ε α) (f : α → β) (e : ε) :
    x.map f = .error e ↔ x = .error e := by
  cases x with
  | error e => simp [Except.map]
  | ok a => simp [Except.map]

theorem mapError_eq_ok_iff (x : Except ε α) (f : ε → ε') (a : α) :
    x.mapError f = .ok a ↔ x = .ok a := by
  cases x with
  | error e => simp [Except.mapError]
  | ok a => simp [Except.mapError]

theorem exists_ok_of_toOption {x : Except ε α} (isSome : x.toOption.isSome = true) :
    ∃ a, x = .ok a := by
  cases x with
  | ok a => exact ⟨a, rfl⟩
  | error e => cases isSome

/-- A step is taken for every item exactly when it can be taken for each. -/
theorem mapM_eq_ok_iff (f : α → Except ε β) : ∀ (items : List α) (results : List β),
    items.mapM f = .ok results ↔
      List.Forall₂ (fun item result => f item = .ok result) items results := by
  intro items
  induction items with
  | nil =>
      intro results
      simp [pure, Except.pure, eq_comm]
  | cons item rest ih =>
      intro results
      rw [List.mapM_cons, bind_eq_ok_iff, List.forall₂_cons_left_iff]
      constructor
      · rintro ⟨first, done, later⟩
        obtain ⟨others, restDone, same⟩ := (bind_eq_ok_iff _ _ _).mp later
        cases same
        exact ⟨first, others, done, (ih others).mp restDone, rfl⟩
      · rintro ⟨first, others, done, each, rfl⟩
        refine ⟨first, done, (bind_eq_ok_iff _ _ _).mpr ⟨others, (ih others).mpr each, rfl⟩⟩

theorem exists_mapM_iff (f : α → Except ε β) (items : List α) :
    (∃ results, items.mapM f = .ok results) ↔ ∀ item ∈ items, ∃ result, f item = .ok result := by
  simp only [mapM_eq_ok_iff]
  induction items with
  | nil => simp
  | cons item rest ih =>
      rw [List.forall_mem_cons, ← ih]
      constructor
      · rintro ⟨results, each⟩
        cases each with
        | cons first others => exact ⟨⟨_, first⟩, _, others⟩
      · rintro ⟨⟨result, first⟩, results, others⟩
        exact ⟨result :: results, .cons first others⟩

theorem exists_of_mem_mapM {f : α → Except ε β} {items : List α} {results : List β}
    (done : items.mapM f = .ok results) {result : β} (member : result ∈ results) :
    ∃ item ∈ items, f item = .ok result := by
  rw [mapM_eq_ok_iff] at done
  induction done with
  | nil => cases member
  | @cons item first items results made _ ih =>
      rcases List.mem_cons.mp member with rfl | later
      · exact ⟨item, List.mem_cons_self, made⟩
      · obtain ⟨other, isOther, same⟩ := ih later
        exact ⟨other, List.mem_cons_of_mem item isOther, same⟩

/-- What a property of the results says of the items. -/
theorem forall_mem_mapM_iff {f : α → Except ε β} {items : List α} {results : List β}
    (done : items.mapM f = .ok results) {P : β → Prop} {Q : α → Prop}
    (each : ∀ item result, f item = .ok result → (P result ↔ Q item)) :
    (∀ result ∈ results, P result) ↔ ∀ item ∈ items, Q item := by
  rw [mapM_eq_ok_iff] at done
  induction done with
  | nil => simp
  | cons first _ ih => rw [List.forall_mem_cons, List.forall_mem_cons, ih, each _ _ first]

theorem mapM_map_eq {γ : Type} (f : α → Except ε β) (g : β → γ) (items : List α) :
    items.mapM (fun item => (f item).map g) = (items.mapM f).map (List.map g) := by
  induction items with
  | nil => rfl
  | cons item rest ih =>
      rw [List.mapM_cons, List.mapM_cons, ih]
      cases f item with
      | error e => rfl
      | ok result =>
          cases rest.mapM f with
          | error e => rfl
          | ok results => rfl

theorem filterAuxM_eq_ok_iff [DecidableEq ε] (judge : α → Except ε Bool) :
    ∀ items kept results : List α, List.filterAuxM judge items kept = .ok results ↔
      (∀ item ∈ items, ∃ verdict, judge item = .ok verdict) ∧
        results = (items.filter fun item => judge item = .ok true).reverse ++ kept := by
  intro items
  induction items with
  | nil =>
      intro kept results
      simp [List.filterAuxM, pure, Except.pure, eq_comm]
  | cons item rest ih =>
      intro kept results
      rw [List.filterAuxM, bind_eq_ok_iff, List.forall_mem_cons]
      cases judged : judge item with
      | error fault => simp
      | ok verdict =>
          simp only [Except.ok.injEq, exists_eq_left', ih]
          cases verdict with
          | false => simp [judged]
          | true => simp [judged]

/-- A filter gives a result exactly when it judges every item. -/
theorem filterM_eq_ok_iff [DecidableEq ε] (judge : α → Except ε Bool) (items results : List α) :
    items.filterM judge = .ok results ↔
      (∀ item ∈ items, ∃ verdict, judge item = .ok verdict) ∧
        results = items.filter fun item => judge item = .ok true := by
  simp only [List.filterM, bind_eq_ok_iff, filterAuxM_eq_ok_iff, pure, Except.pure, Except.ok.injEq]
  constructor
  · rintro ⟨kept, ⟨judged, rfl⟩, rfl⟩
    exact ⟨judged, by simp⟩
  · rintro ⟨judged, rfl⟩
    exact ⟨_, ⟨judged, rfl⟩, by simp⟩

end Outcome

end SearchShell
