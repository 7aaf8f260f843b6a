import Mathlib.Data.List.Basic

namespace Collections
set_option autoImplicit true

variable {α β : Type}

theorem length_filter_lt (p : α → Bool) (x : α) (xs : List α) :
    (xs.filter p).length < (x :: xs).length :=
  Nat.lt_succ_of_le (List.length_filter_le p xs)

theorem eraseDupsBy_map (r : β → β → Bool) (f : α → β) (xs : List α) :
    (xs.map f).eraseDupsBy r = (xs.eraseDupsBy (fun a b => r (f a) (f b))).map f := by
  cases xs with
  | nil => rfl
  | cons x xs =>
    rw [List.map_cons, List.eraseDupsBy_cons, List.eraseDupsBy_cons, List.map_cons,
      List.filter_map]
    exact congrArg _ (eraseDupsBy_map r f _)
termination_by xs.length
decreasing_by exact length_filter_lt _ _ _

variable [DecidableEq α]

theorem idxOf_filter_lt {p : α → Bool} {xs : List α} {a b : α} (ha : p a = true) (hb : p b = true)
    (h : (xs.filter p).idxOf a < (xs.filter p).idxOf b) : xs.idxOf a < xs.idxOf b := by
  induction xs with
  | nil => exact h
  | cons x xs ih =>
    by_cases hxa : x = a
    · subst hxa
      by_cases hxb : x = b
      · subst hxb
        exact absurd h (Nat.lt_irrefl _)
      · rw [List.idxOf_cons_self, List.idxOf_cons_ne _ hxb]
        exact Nat.succ_pos _
    · by_cases hxb : x = b
      · subst hxb
        rw [List.filter_cons_of_pos hb, List.idxOf_cons_self] at h
        exact absurd h (Nat.not_lt_zero _)
      · rw [List.idxOf_cons_ne _ hxa, List.idxOf_cons_ne _ hxb]
        apply Nat.succ_lt_succ
        apply ih
        by_cases hp : p x = true
        · rw [List.filter_cons_of_pos hp, List.idxOf_cons_ne _ hxa, List.idxOf_cons_ne _ hxb] at h
          exact Nat.lt_of_succ_lt_succ h
        · rwa [List.filter_cons_of_neg hp] at h

/-- What is left of a list without its repetitions stands in the order of first occurrence. -/
theorem eraseDups_pairwise (xs : List α) :
    xs.eraseDups.Pairwise (fun a b => xs.idxOf a < xs.idxOf b) := by
  cases xs with
  | nil => exact .nil
  | cons x xs =>
    have hne {b : α} (hb : b ∈ (xs.filter (fun b => !b == x)).eraseDups) : (!b == x) = true :=
      (List.mem_filter.1 (List.mem_eraseDups.1 hb)).2
    have hx {b : α} (hb : b ∈ (xs.filter (fun b => !b == x)).eraseDups) : x ≠ b := by
      intro he
      have hb' := hne hb
      rw [← he, beq_self_eq_true] at hb'
      cases hb'
    rw [List.eraseDups_cons]
    apply List.Pairwise.cons
    · intro b hb
      rw [List.idxOf_cons_self, List.idxOf_cons_ne _ (hx hb)]
      exact Nat.succ_pos _
    · apply (eraseDups_pairwise (xs.filter (fun b => !b == x))).imp_of_mem
      intro a b ha hb hab
      rw [List.idxOf_cons_ne _ (hx ha), List.idxOf_cons_ne _ (hx hb)]
      exact Nat.succ_lt_succ (idxOf_filter_lt (hne ha) (hne hb) hab)
termination_by xs.length
decreasing_by exact length_filter_lt _ _ _

theorem eraseDups_nodup (xs : List α) : xs.eraseDups.Nodup := by
  apply (eraseDups_pairwise xs).imp
  intro a b hab he
  subst he
  exact Nat.lt_irrefl _ hab

theorem eraseDups_ne_nil {xs : List α} (h : xs ≠ []) : xs.eraseDups ≠ [] := by
  obtain ⟨x, xs, rfl⟩ := List.exists_cons_of_ne_nil h
  rw [List.eraseDups_cons]
  exact List.cons_ne_nil _ _

/-- A list with one element after its repetitions are dropped holds one value. -/
theorem eq_of_length_eraseDups {xs : List α} (h : xs.eraseDups.length ≤ 1) {a b : α} (ha : a ∈ xs)
    (hb : b ∈ xs) : a = b := by
  rw [← List.mem_eraseDups] at ha hb
  generalize xs.eraseDups = ys at h ha hb
  cases ys with
  | nil => cases ha
  | cons y ys =>
    have hys : ys = [] := List.eq_nil_of_length_eq_zero (by rw [List.length_cons] at h; omega)
    rw [hys, List.mem_singleton] at ha hb
    rw [ha, hb]

end Collections
