import Mathlib.Data.List.Basic
import Mathlib.Data.List.Forall2
import Mathlib.Data.List.TakeDrop

/-!
# Lists

What reading from the front of a list comes to when the list is known to have been put together
from parts.
-/

namespace List

variable {α β : Type} {p : α → Bool} {front rest : List α}

/-- A run of items in front goes as a whole if the rest does not continue it. -/
theorem dropWhile_append_of_head? (run : ∀ item ∈ front, p item = true)
    (stop : ∀ item ∈ rest.head?, p item = false) : (front ++ rest).dropWhile p = rest := by
  rw [dropWhile_append_of_pos run]
  cases rest with
  | nil => rfl
  | cons item rest => exact dropWhile_cons_of_neg (by simp [stop item rfl])

theorem takeWhile_append_of_head? (run : ∀ item ∈ front, p item = true)
    (stop : ∀ item ∈ rest.head?, p item = false) : (front ++ rest).takeWhile p = front := by
  rw [takeWhile_append_of_pos run]
  cases rest with
  | nil => exact append_nil front
  | cons item rest => rw [takeWhile_cons_of_neg (by simp [stop item rfl]), append_nil]

theorem span_append_of_head? (run : ∀ item ∈ front, p item = true)
    (stop : ∀ item ∈ rest.head?, p item = false) : (front ++ rest).span p = (front, rest) := by
  rw [span_eq_takeWhile_dropWhile, takeWhile_append_of_head? run stop,
    dropWhile_append_of_head? run stop]

/-- With a separator between them, pieces are the first piece and then each other one behind a
separator. -/
theorem intercalate_cons_eq (separator : α) (piece : List α) (pieces : List (List α)) :
    [separator].intercalate (piece :: pieces) = piece ++ pieces.flatMap (separator :: ·) := by
  induction pieces generalizing piece with
  | nil => simp
  | cons next pieces ih =>
      rw [intercalate_cons_cons, ih next, flatMap_cons]
      simp

theorem length_intercalate_ge (separator : α) {pieces : List (List α)} {bound : Nat}
    (long : ∀ piece ∈ pieces, bound ≤ piece.length) :
    bound * pieces.length ≤ ([separator].intercalate pieces).length := by
  induction pieces with
  | nil => exact Nat.zero_le _
  | cons piece pieces ih =>
      obtain ⟨first, others⟩ := forall_mem_cons.mp long
      have shorter := ih others
      cases pieces with
      | nil => simpa using first
      | cons next pieces =>
          rw [intercalate_cons_cons, length_append, length_append, length_cons, Nat.mul_succ]
          omega

/-- A relation reaches some value from each item exactly if it matches the items with a list. -/
theorem exists_forall₂_iff {r : α → β → Prop} {items : List α} :
    (∃ values, Forall₂ r items values) ↔ ∀ item ∈ items, ∃ value, r item value := by
  induction items with
  | nil => exact ⟨fun _ => nofun, fun _ => ⟨[], .nil⟩⟩
  | cons item items ih =>
      rw [forall_mem_cons, ← ih]
      constructor
      · rintro ⟨_, matched⟩
        obtain ⟨value, values, first, rest, _⟩ := forall₂_cons_left_iff.mp matched
        exact ⟨⟨value, first⟩, values, rest⟩
      · rintro ⟨⟨value, first⟩, values, rest⟩
        exact ⟨value :: values, .cons first rest⟩

end List
