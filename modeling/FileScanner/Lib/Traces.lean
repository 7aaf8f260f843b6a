import Mathlib.Data.List.Basic

namespace Traces
set_option autoImplicit true

variable {α : Type}

/-- Every event of the trace is justified by the events before it. -/
inductive Causal (P : List α → α → Prop) : List α → Prop where
  | nil : Causal P []
  | snoc : Causal P trace → P trace x → Causal P (trace ++ [x])

theorem Causal.justified {P : List α → α → Prop} {before after trace : List α} {x : α}
    (h : Causal P trace) (hsplit : trace = before ++ x :: after) : P before x := by
  induction h generalizing after with
  | nil => cases List.append_ne_nil_of_right_ne_nil before (List.cons_ne_nil x after) hsplit.symm
  | snoc h hx ih =>
    rcases List.eq_nil_or_concat after with rfl | ⟨after', y, rfl⟩
    · obtain ⟨rfl, hxy⟩ := List.append_inj' hsplit rfl
      cases hxy
      exact hx
    · rw [List.concat_eq_append, ← List.cons_append, ← List.append_assoc] at hsplit
      exact ih (List.append_inj' hsplit rfl).1

theorem Causal.imp {P Q : List α → α → Prop} {trace : List α}
    (hpq : ∀ before x, P before x → Q before x) (h : Causal P trace) : Causal Q trace := by
  induction h with
  | nil => exact .nil
  | snoc h hx ih => exact .snoc ih (hpq _ _ hx)

theorem exists_first {P : α → Prop} {trace : List α} (h : ∃ x ∈ trace, P x) :
    ∃ before x after, trace = before ++ x :: after ∧ P x ∧ ∀ y ∈ before, ¬ P y := by
  induction trace with
  | nil =>
    obtain ⟨x, hx, -⟩ := h
    cases hx
  | cons y trace ih =>
    by_cases hy : P y
    · exact ⟨[], y, trace, rfl, hy, fun z hz => nomatch hz⟩
    · obtain ⟨x, hx, hp⟩ := h
      have hmem : x ∈ trace := by
        rcases List.mem_cons.1 hx with rfl | hmem
        · exact absurd hp hy
        · exact hmem
      obtain ⟨before, z, after, rfl, hz, hbefore⟩ := ih ⟨x, hmem, hp⟩
      refine ⟨y :: before, z, after, rfl, hz, ?_⟩
      exact List.forall_mem_cons.2 ⟨hy, hbefore⟩

/-- Events that can only stand at one place of the trace occur at most once. -/
theorem countP_le_one {p : α → Bool} {trace : List α} {k : Nat}
    (h : ∀ before x after, trace = before ++ x :: after → p x = true → before.length = k) :
    trace.countP p ≤ 1 := by
  induction trace generalizing k with
  | nil => exact Nat.zero_le 1
  | cons y trace ih =>
    by_cases hy : p y = true
    · have hk : 0 = k := h [] y trace rfl hy
      have hrest : trace.countP p = 0 := by
        apply List.countP_eq_zero.2
        intro x hx hpx
        obtain ⟨before, after, rfl⟩ := List.append_of_mem hx
        have hlen := h (y :: before) x after rfl hpx
        rw [List.length_cons] at hlen
        omega
      have hcount : (y :: trace).countP p = 1 := by rw [List.countP_cons_of_pos hy, hrest]
      exact Nat.le_of_eq hcount
    · rw [List.countP_cons_of_neg hy]
      have hrest : ∀ before x after, trace = before ++ x :: after → p x = true →
          before.length = k - 1 := by
        intro before x after hsplit hpx
        have hlen := h (y :: before) x after (by rw [hsplit, List.cons_append]) hpx
        rw [List.length_cons] at hlen
        omega
      exact ih hrest

/-- From place `n` of a sequence on, `P` holds up to a place where `Q` does. -/
def Until (P Q : Nat → Prop) (n : Nat) : Prop :=
  ∃ k, n ≤ k ∧ (∀ j, n ≤ j → j < k → P j) ∧ Q k

theorem Until.now {P Q : Nat → Prop} {n : Nat} (h : Q n) : Until P Q n :=
  ⟨n, Nat.le_refl n, fun _ hn hj => absurd hj (Nat.not_lt.2 hn), h⟩

theorem until_iff {P Q : Nat → Prop} {n : Nat} :
    Until P Q n ↔ Q n ∨ (P n ∧ Until P Q (n + 1)) := by
  constructor
  · intro h
    obtain ⟨k, hk, hp, hq⟩ := h
    rcases Nat.eq_or_lt_of_le hk with rfl | hlt
    · exact .inl hq
    · exact .inr ⟨hp n (Nat.le_refl n) hlt, k, hlt, fun j hj => hp j (Nat.le_of_succ_le hj), hq⟩
  · intro h
    rcases h with hq | ⟨hn, k, hk, hp, hq⟩
    · exact .now hq
    · refine ⟨k, Nat.le_of_succ_le hk, fun j hj hlt => ?_, hq⟩
      rcases Nat.eq_or_lt_of_le hj with rfl | hj'
      · exact hn
      · exact hp j hj' hlt

end Traces
