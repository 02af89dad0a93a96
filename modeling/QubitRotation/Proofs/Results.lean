import Mathlib.Data.List.Forall2

/-!
# When a computation succeeds

A computation made of parts succeeds with a value if and only if its parts do, and it fails with the
fault of the first part that fails. These equivalences open a chain of such computations one part at
a time, in either direction.
-/

namespace Except

variable {ε ε' α β : Type}

theorem map_eq_ok_iff {f : α → β} {result : Except ε α} {value : β} :
    result.map f = .ok value ↔ ∃ origin, result = .ok origin ∧ f origin = value := by
  cases result with
  | error => simp [Except.map]
  | ok => simp [Except.map]

theorem mapError_eq_ok_iff {f : ε → ε'} {result : Except ε α} {value : α} :
    result.mapError f = .ok value ↔ result = .ok value := by
  cases result with
  | error => simp [Except.mapError]
  | ok => simp [Except.mapError]

theorem mapError_eq_error_iff {f : ε → ε'} {result : Except ε α} {fault : ε'} :
    result.mapError f = .error fault ↔ ∃ origin, result = .error origin ∧ f origin = fault := by
  cases result with
  | error => simp [Except.mapError]
  | ok => simp [Except.mapError]

theorem bind_eq_ok_iff {f : α → Except ε β} {result : Except ε α} {value : β} :
    result >>= f = .ok value ↔ ∃ middle, result = .ok middle ∧ f middle = .ok value := by
  cases result with
  | error => simp [bind, Except.bind]
  | ok => simp [bind, Except.bind]

theorem mem_toOption_iff {result : Except ε α} {value : α} :
    value ∈ result.toOption ↔ result = .ok value := by
  cases result with
  | error => simp [Except.toOption]
  | ok => simp [Except.toOption]

/-- A list of computations succeeds if and only if each of them does. -/
theorem mapM_eq_ok_iff {f : α → Except ε β} {items : List α} {values : List β} :
    items.mapM f = .ok values ↔ List.Forall₂ (fun item value => f item = .ok value) items values := by
  induction items generalizing values with
  | nil =>
      rw [List.mapM_nil, List.forall₂_nil_left_iff]
      exact ⟨fun finished => (Except.ok.inj finished).symm, fun none => congrArg _ none.symm⟩
  | cons item items ih =>
      rw [List.mapM_cons, bind_eq_ok_iff, List.forall₂_cons_left_iff]
      constructor
      · rintro ⟨value, first, rest⟩
        obtain ⟨others, finished, done⟩ := bind_eq_ok_iff.mp rest
        exact ⟨value, others, first, ih.mp finished, (Except.ok.inj done).symm⟩
      · rintro ⟨value, others, first, finished, rfl⟩
        exact ⟨value, first, bind_eq_ok_iff.mpr ⟨others, ih.mpr finished, rfl⟩⟩

theorem mapM_cons_eq_error_iff {f : α → Except ε β} {item : α} {items : List α} {fault : ε} :
    (item :: items).mapM f = .error fault ↔
      f item = .error fault ∨ (∃ value, f item = .ok value) ∧ items.mapM f = .error fault := by
  rw [List.mapM_cons]
  cases f item with
  | error => simp [bind, Except.bind]
  | ok => cases items.mapM f <;> simp [bind, Except.bind, pure, Except.pure]

/-- It fails with the fault of the first computation that does; those behind it do not matter. -/
theorem mapM_eq_error_iff {f : α → Except ε β} {items : List α} {fault : ε} :
    items.mapM f = .error fault ↔ ∃ before item after, items = before ++ item :: after ∧
      (∀ earlier ∈ before, ∃ value, f earlier = .ok value) ∧ f item = .error fault := by
  constructor
  · induction items with
    | nil => exact nofun
    | cons item items ih =>
        rw [mapM_cons_eq_error_iff]
        rintro (failed | ⟨succeeded, failed⟩)
        · exact ⟨[], item, items, rfl, nofun, failed⟩
        · obtain ⟨before, later, after, rfl, succeed, failed⟩ := ih failed
          exact ⟨item :: before, later, after, rfl, List.forall_mem_cons.mpr ⟨succeeded, succeed⟩,
            failed⟩
  · rintro ⟨before, item, after, rfl, succeed, failed⟩
    induction before with
    | nil => exact mapM_cons_eq_error_iff.mpr (.inl failed)
    | cons first before ih =>
        obtain ⟨succeeded, succeed⟩ := List.forall_mem_cons.mp succeed
        exact mapM_cons_eq_error_iff.mpr (.inr ⟨succeeded, ih succeed⟩)

end Except
