import Mathlib.Order.BoundedOrder.Lattice
import Mathlib.Data.List.Perm.Basic

namespace Orders
set_option autoImplicit true

variable {α β : Type} [LinearOrder α] [OrderBot α]

/-- The highest element of a list, the bottom when there is none. -/
def highest (xs : List α) : α := xs.foldr (· ⊔ ·) ⊥

theorem highest_cons (x : α) (xs : List α) : highest (x :: xs) = x ⊔ highest xs := rfl

theorem le_highest {x : α} {xs : List α} (h : x ∈ xs) : x ≤ highest xs := by
  induction xs with
  | nil => cases h
  | cons y xs ih =>
    rcases List.mem_cons.1 h with rfl | h
    · exact le_sup_left
    · exact (ih h).trans le_sup_right

theorem highest_mem {xs : List α} (h : highest xs ≠ ⊥) : highest xs ∈ xs := by
  induction xs with
  | nil => exact absurd rfl h
  | cons y xs ih =>
    rw [highest_cons] at h ⊢
    rcases le_total y (highest xs) with hle | hle
    · rw [sup_eq_right.2 hle] at h ⊢
      exact List.mem_cons_of_mem y (ih h)
    · rw [sup_eq_left.2 hle]
      exact List.mem_cons_self

theorem highest_le {xs : List α} {a : α} (h : ∀ x ∈ xs, x ≤ a) : highest xs ≤ a := by
  by_cases hb : highest xs = ⊥
  · rw [hb]
    exact bot_le
  · exact h _ (highest_mem hb)

theorem highest_eq {xs : List α} {a : α} (ha : a ∈ xs) (h : ∀ x ∈ xs, x ≤ a) :
    highest xs = a :=
  le_antisymm (highest_le h) (le_highest ha)

theorem highest_eq_bot {xs : List α} (h : ∀ x ∈ xs, x = ⊥) : highest xs = ⊥ :=
  le_bot_iff.1 (highest_le (fun x hx => (h x hx).le))

end Orders
