import Mathlib.Data.List.Basic

namespace Queues
set_option autoImplicit true

/-- An actor reads the retry count and the shared state, and raises or returns. -/
abbrev Actor (σ ε α : Type) := Nat → σ → Except ε α × σ

structure Invocation (σ ε α : Type) where
  retries : Nat
  before : σ
  outcome : Except ε α
  after : σ

variable {σ ε α : Type}

def Invocation.Raised (inv : Invocation σ ε α) : Prop := ∃ e, inv.outcome = .error e

def Invocation.Returned (inv : Invocation σ ε α) : Prop := ∃ a, inv.outcome = .ok a

def invoke (act : Actor σ ε α) (retries : Nat) (s : σ) : Invocation σ ε α :=
  ⟨retries, s, (act retries s).1, (act retries s).2⟩

/-- The invocations of one message: one that raises is followed by another while the budget
of further retries lasts. -/
def runFrom (act : Actor σ ε α) : Nat → Nat → σ → List (Invocation σ ε α)
  | 0, retries, s => [invoke act retries s]
  | budget + 1, retries, s =>
    match (act retries s).1 with
    | .ok _ => [invoke act retries s]
    | .error _ => invoke act retries s :: runFrom act budget (retries + 1) (act retries s).2

/-- A message starts with no retry and is retried while the count is below the bound. -/
def run (act : Actor σ ε α) (maxRetries : Nat) (s : σ) : List (Invocation σ ε α) :=
  runFrom act maxRetries 0 s

def DeadLettered (invs : List (Invocation σ ε α)) : Prop :=
  ∃ earlier last, invs = earlier ++ [last] ∧ last.Raised

structure RunShape (act : Actor σ ε α) (first maxRetries : Nat)
    (invs earlier : List (Invocation σ ε α)) (last : Invocation σ ε α) : Prop where
  split : invs = earlier ++ [last]
  raised : ∀ inv ∈ earlier, inv.Raised
  count : last.retries = first + earlier.length
  indices : earlier.map Invocation.retries = List.range' first earlier.length
  bound : last.retries ≤ maxRetries
  ended : last.Returned ∨ last.retries = maxRetries
  genuine : ∀ inv ∈ invs, inv = invoke act inv.retries inv.before

theorem runFrom_shape (act : Actor σ ε α) (budget retries : Nat) (s : σ) :
    ∃ earlier last, RunShape act retries (retries + budget)
      (runFrom act budget retries s) earlier last := by
  induction budget generalizing retries s with
  | zero =>
    refine ⟨[], invoke act retries s, rfl, by simp, rfl, rfl, Nat.le_refl _, .inr rfl, ?_⟩
    intro inv hinv
    rw [List.mem_singleton.1 hinv]
    rfl
  | succ budget ih =>
    rw [runFrom]
    split
    · rename_i a ha
      refine ⟨[], invoke act retries s, rfl, by simp, rfl, rfl, Nat.le_add_right _ _,
        .inl ⟨a, ha⟩, ?_⟩
      intro inv hinv
      rw [List.mem_singleton.1 hinv]
      rfl
    · rename_i e he
      obtain ⟨earlier, last, h⟩ := ih (retries + 1) (act retries s).2
      refine ⟨invoke act retries s :: earlier, last, ?_, ?_, ?_, ?_, ?_, ?_, ?_⟩
      · rw [h.split, List.cons_append]
      · intro inv hinv
        rcases List.mem_cons.1 hinv with rfl | hinv
        · exact ⟨e, he⟩
        · exact h.raised inv hinv
      · rw [h.count, List.length_cons]
        omega
      · rw [List.map_cons, h.indices, List.length_cons, List.range'_succ]
        rfl
      · have hb := h.bound
        omega
      · rcases h.ended with hr | hr
        · exact .inl hr
        · exact .inr (by omega)
      · intro inv hinv
        rcases List.mem_cons.1 hinv with rfl | hinv
        · rfl
        · exact h.genuine inv hinv

theorem run_shape (act : Actor σ ε α) (maxRetries : Nat) (s : σ) :
    ∃ earlier last, RunShape act 0 maxRetries (run act maxRetries s) earlier last := by
  have h := runFrom_shape act maxRetries 0 s
  rwa [Nat.zero_add] at h

theorem RunShape.last_mem {act : Actor σ ε α} {first maxRetries : Nat}
    {invs earlier : List (Invocation σ ε α)} {last : Invocation σ ε α}
    (h : RunShape act first maxRetries invs earlier last) : last ∈ invs := by
  rw [h.split]
  exact List.mem_append_right _ (List.mem_singleton.2 rfl)

theorem RunShape.earlier_mem {act : Actor σ ε α} {first maxRetries : Nat}
    {invs earlier : List (Invocation σ ε α)} {last inv : Invocation σ ε α}
    (h : RunShape act first maxRetries invs earlier last) (hinv : inv ∈ earlier) : inv ∈ invs := by
  rw [h.split]
  exact List.mem_append_left _ hinv

theorem run_genuine {act : Actor σ ε α} {maxRetries : Nat} {s : σ} {inv : Invocation σ ε α}
    (hinv : inv ∈ run act maxRetries s) : inv = invoke act inv.retries inv.before := by
  obtain ⟨earlier, last, hs⟩ := run_shape act maxRetries s
  exact hs.genuine inv hinv

theorem RunShape.exists_attempt {act : Actor σ ε α} {first maxRetries : Nat}
    {invs earlier : List (Invocation σ ε α)} {last : Invocation σ ε α}
    (h : RunShape act first maxRetries invs earlier last) {j : Nat} (hlo : first ≤ j)
    (hhi : j < last.retries) : ∃ inv ∈ earlier, inv.retries = j := by
  have hj : j ∈ earlier.map Invocation.retries := by
    have hcount := h.count
    rw [h.indices, List.mem_range'_1]
    omega
  exact List.mem_map.1 hj

theorem runFrom_invariant {act : Actor σ ε α} {P : Nat → σ → Prop}
    (hstep : ∀ i s e, P i s → (act i s).1 = .error e → P (i + 1) (act i s).2)
    (budget retries : Nat) (s : σ) (hs : P retries s) :
    ∀ inv ∈ runFrom act budget retries s, P inv.retries inv.before := by
  induction budget generalizing retries s with
  | zero =>
    intro inv hinv
    rw [List.mem_singleton.1 hinv]
    exact hs
  | succ budget ih =>
    intro inv hinv
    rw [runFrom] at hinv
    split at hinv
    · rw [List.mem_singleton.1 hinv]
      exact hs
    · rename_i e he
      rcases List.mem_cons.1 hinv with rfl | hinv
      · exact hs
      · exact ih (retries + 1) _ (hstep retries s e hs he) inv hinv

theorem run_invariant {act : Actor σ ε α} {P : Nat → σ → Prop}
    (hstep : ∀ i s e, P i s → (act i s).1 = .error e → P (i + 1) (act i s).2)
    (maxRetries : Nat) (s : σ) (hs : P 0 s) :
    ∀ inv ∈ run act maxRetries s, P inv.retries inv.before :=
  runFrom_invariant hstep maxRetries 0 s hs

theorem not_raised_iff {inv : Invocation σ ε α} : ¬ inv.Raised ↔ inv.Returned := by
  rw [Invocation.Raised, Invocation.Returned]
  cases inv.outcome <;> simp

theorem RunShape.lt_last {act : Actor σ ε α} {first maxRetries : Nat}
    {invs earlier : List (Invocation σ ε α)} {last inv : Invocation σ ε α}
    (h : RunShape act first maxRetries invs earlier last) (hinv : inv ∈ earlier) :
    inv.retries < last.retries := by
  have hmem : inv.retries ∈ earlier.map Invocation.retries := List.mem_map_of_mem hinv
  rw [h.indices, List.mem_range'_1] at hmem
  rw [h.count]
  exact hmem.2

/-- Which message is dead-lettered: the one whose last permitted attempt raises. -/
theorem deadLettered_iff {act : Actor σ ε α} {maxRetries : Nat} {s : σ} :
    DeadLettered (run act maxRetries s) ↔
      ∃ inv ∈ run act maxRetries s, inv.retries = maxRetries ∧ inv.Raised := by
  obtain ⟨earlier, last, hs⟩ := run_shape act maxRetries s
  constructor
  · intro h
    obtain ⟨earlier', last', hsplit, hraised⟩ := h
    have heq := hs.split.symm.trans hsplit
    obtain rfl := List.singleton_inj.1 (List.append_inj' heq rfl).2
    apply Exists.intro last
    apply And.intro hs.last_mem
    apply And.intro _ hraised
    apply hs.ended.resolve_left
    intro hreturned
    exact not_raised_iff.2 hreturned hraised
  · intro h
    obtain ⟨inv, hinv, hmax, hraised⟩ := h
    rw [hs.split] at hinv
    rcases List.mem_append.1 hinv with hearlier | hlast
    · have hlt := hs.lt_last hearlier
      have hbound := hs.bound
      omega
    · rw [List.mem_singleton.1 hlast] at hraised
      exact ⟨earlier, last, hs.split, hraised⟩

theorem not_deadLettered {act : Actor σ ε α} {maxRetries : Nat} {s : σ}
    (h : ∀ s', ∃ a, (act maxRetries s').1 = .ok a) : ¬ DeadLettered (run act maxRetries s) := by
  intro hdead
  obtain ⟨inv, hinv, hmax, hraised⟩ := deadLettered_iff.1 hdead
  apply not_raised_iff.2 _ hraised
  rw [run_genuine hinv, hmax]
  exact h inv.before

end Queues
