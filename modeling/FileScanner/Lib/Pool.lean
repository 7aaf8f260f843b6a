import FileScanner.Lib.Retry
import Mathlib.Algebra.GroupWithZero.Nat

namespace Queues
set_option autoImplicit true

variable {η σ ε α : Type}

/-- How a message stands: in its queue with the retries so far, retired, or dead-lettered. -/
inductive Fate (α : Type) where
  | pending (retries : Nat)
  | returned (a : α)
  | deadLettered
  deriving DecidableEq, Repr

def Fate.after (maxRetries retries : Nat) : Except ε α → Fate α
  | .ok a => .returned a
  | .error _ => if retries < maxRetries then .pending (retries + 1) else .deadLettered

def Fate.settled : Fate α → Bool
  | .pending _ => false
  | .returned _ | .deadLettered => true

/-- A message of a queue: the state its attempts work on, and the environments they met. -/
structure Ticket (η σ α : Type) where
  state : σ
  fate : Fate α := .pending 0
  met : List η := []

/-- One attempt on a message, in the environment it meets; a settled message is left alone. -/
def Ticket.attempt (act : η → Actor σ ε α) (maxRetries : Nat) (t : Ticket η σ α) (env : η) :
    Ticket η σ α :=
  match t.fate with
  | .pending retries =>
    { state := (act env retries t.state).2
      fate := .after maxRetries retries (act env retries t.state).1
      met := t.met ++ [env] }
  | _ => t

/-- The environments that attempt `i` meets, as far as they are known. -/
def Meets (envs : Nat → η) (met : List η) : Prop := ∀ i (h : i < met.length), envs i = met[i]

def actorIn (act : η → Actor σ ε α) (envs : Nat → η) : Actor σ ε α := fun i => act (envs i) i

/-- How the last invocation of a run left a message that has been settled. -/
def EndsWith (t : Ticket η σ α) (invs : List (Invocation σ ε α)) : Prop :=
  ∃ earlier last, invs = earlier ++ [last] ∧ last.after = t.state ∧ last.retries + 1 = t.met.length ∧
    match t.fate with
    | .returned a => last.outcome = .ok a
    | _ => last.Raised

/-- A message stands where a run of its own would: its attempts so far are the first ones of the
run, and all of them once it is settled. -/
def Ticket.Follows (act : η → Actor σ ε α) (maxRetries : Nat) (s : σ) (t : Ticket η σ α) : Prop :=
  ∀ envs, Meets envs t.met →
    match t.fate with
    | .pending retries =>
      retries = t.met.length ∧ retries ≤ maxRetries ∧
        ∃ done, run (actorIn act envs) maxRetries s =
          done ++ runFrom (actorIn act envs) (maxRetries - retries) retries t.state
    | _ => EndsWith t (run (actorIn act envs) maxRetries s)

theorem Meets.of_append {envs : Nat → η} {met met' : List η} (h : Meets envs (met ++ met')) :
    Meets envs met := by
  intro i hi
  have hlong : i < (met ++ met').length := by
    rw [List.length_append]
    omega
  rw [h i hlong, List.getElem_append_left hi]

theorem Meets.last {envs : Nat → η} {met : List η} {env : η} (h : Meets envs (met ++ [env])) :
    envs met.length = env := by
  have hlast : met.length < (met ++ [env]).length := by
    rw [List.length_append, List.length_singleton]
    omega
  rw [h met.length hlast, List.getElem_concat_length rfl]

variable {act : η → Actor σ ε α} {maxRetries : Nat} {s : σ}

theorem follows_start : Ticket.Follows act maxRetries s { state := s } := by
  intro envs _
  refine ⟨rfl, Nat.zero_le _, [], ?_⟩
  rw [List.nil_append, run, Nat.sub_zero]

theorem Ticket.Follows.attempt {t : Ticket η σ α} (h : t.Follows act maxRetries s) (env : η) :
    (t.attempt act maxRetries env).Follows act maxRetries s := by
  cases hfate : t.fate with
  | returned a => simpa only [Ticket.attempt, hfate] using h
  | deadLettered => simpa only [Ticket.attempt, hfate] using h
  | pending retries =>
    simp only [Ticket.attempt, hfate]
    intro envs hmeets
    have hpending := h envs hmeets.of_append
    rw [hfate] at hpending
    obtain ⟨hretries, hbound, done, hrun⟩ := hpending
    have henv : actorIn act envs retries t.state = act env retries t.state := by
      rw [actorIn, hretries, hmeets.last]
    have hlength : retries + 1 = (t.met ++ [env]).length := by
      rw [List.length_append, List.length_singleton, hretries]
    cases hout : (act env retries t.state).1 with
    | ok a =>
      refine ⟨done, invoke (actorIn act envs) retries t.state, ?_, ?_, hlength, ?_⟩
      · rw [hrun]
        cases maxRetries - retries with
        | zero => rfl
        | succ budget => rw [runFrom, henv, hout]
      · rw [invoke, henv]
      · rw [invoke, henv]
        exact hout
    | error e =>
      rw [Fate.after]
      by_cases hlt : retries < maxRetries
      · have hbudget : maxRetries - retries = (maxRetries - (retries + 1)) + 1 := by omega
        rw [if_pos hlt]
        refine ⟨hlength, hlt, done ++ [invoke (actorIn act envs) retries t.state], ?_⟩
        rw [hrun, hbudget, runFrom, henv, hout, List.append_assoc]
        rfl
      · have hbudget : maxRetries - retries = 0 := by omega
        rw [if_neg hlt]
        refine ⟨done, invoke (actorIn act envs) retries t.state, ?_, ?_, hlength, e, ?_⟩
        · rw [hrun, hbudget, runFrom]
        · rw [invoke, henv]
        · rw [invoke, henv]
          exact hout

theorem forall_modify {P : α → Prop} {f : α → α} (hf : ∀ x, P x → P (f x)) {xs : List α}
    (h : ∀ x ∈ xs, P x) (i : Nat) : ∀ x ∈ xs.modify i f, P x := by
  induction xs generalizing i with
  | nil =>
    rw [List.modify_nil]
    exact h
  | cons x xs ih =>
    obtain ⟨hx, hxs⟩ := List.forall_mem_cons.1 h
    cases i with
    | zero => exact List.forall_mem_cons.2 ⟨hf x hx, hxs⟩
    | succ i => exact List.forall_mem_cons.2 ⟨hx, ih hxs i⟩

/-- A change to one message that no view shows is not seen in the views of the pool. -/
theorem map_filter_modify {β : Type} {keep : α → Bool} {view : α → β} {f : α → α}
    (hkeep : ∀ x, keep (f x) = keep x) (hview : ∀ x, view (f x) = view x) (xs : List α) (i : Nat) :
    ((xs.modify i f).filter keep).map view = (xs.filter keep).map view := by
  induction xs generalizing i with
  | nil => rw [List.modify_nil]
  | cons x xs ih =>
    cases i with
    | zero =>
      rw [List.modify_zero_cons, List.filter_cons, List.filter_cons, hkeep]
      split
      · rw [List.map_cons, List.map_cons, hview]
      · rfl
    | succ i =>
      rw [List.modify_succ_cons, List.filter_cons, List.filter_cons]
      split
      · rw [List.map_cons, List.map_cons, ih]
      · exact ih i

theorem sum_modify {f : α → α} (w : α → Nat) {xs : List α} {i : Nat} {x : α} (h : xs[i]? = some x) :
    ((xs.modify i f).map w).sum + w x = (xs.map w).sum + w (f x) := by
  induction xs generalizing i with
  | nil => cases h
  | cons y xs ih =>
    cases i with
    | zero =>
      cases h
      rw [List.modify_zero_cons, List.map_cons, List.map_cons, List.sum_cons, List.sum_cons]
      omega
    | succ i =>
      have hrest := ih h
      rw [List.modify_succ_cons, List.map_cons, List.map_cons, List.sum_cons, List.sum_cons]
      omega

/-- The attempts a message may still take. -/
def Fate.left (maxRetries : Nat) : Fate α → Nat
  | .pending retries => maxRetries - retries + 1
  | .returned _ | .deadLettered => 0

theorem Fate.left_eq_zero {fate : Fate α} : fate.left maxRetries = 0 ↔ fate.settled = true := by
  cases fate with
  | pending retries => exact iff_of_false (Nat.succ_ne_zero _) Bool.false_ne_true
  | returned a => exact iff_of_true rfl rfl
  | deadLettered => exact iff_of_true rfl rfl

theorem Fate.left_after (maxRetries retries : Nat) (out : Except ε α) :
    1 + (Fate.after maxRetries retries out).left maxRetries ≤
      (Fate.pending retries : Fate α).left maxRetries := by
  cases out with
  | ok a =>
    rw [after, left, left]
    omega
  | error e =>
    rw [after]
    split
    · rw [left, left]
      omega
    · rw [left, left]
      omega

/-- An attempt on a message that waits uses up one of the attempts it may take. -/
theorem Ticket.left_attempt (act : η → Actor σ ε α) (maxRetries : Nat) (t : Ticket η σ α) (env : η) :
    (!t.fate.settled).toNat + (t.attempt act maxRetries env).fate.left maxRetries ≤
      t.fate.left maxRetries := by
  cases hfate : t.fate with
  | pending retries =>
    simp only [Ticket.attempt, hfate]
    exact Fate.left_after maxRetries retries _
  | returned a =>
    simp only [Ticket.attempt, hfate]
    exact Nat.le_refl _
  | deadLettered =>
    simp only [Ticket.attempt, hfate]
    exact Nat.le_refl _

end Queues
