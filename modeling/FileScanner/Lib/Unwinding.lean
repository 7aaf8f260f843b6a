import Mathlib.Data.List.Forall2

namespace Unwinding
set_option autoImplicit true

variable {σ ε ω : Type}

def run (step : σ → ε → σ) (s : σ) (es : List ε) : σ := es.foldl step s

theorem run_append (step : σ → ε → σ) (s : σ) (es es' : List ε) :
    run step s (es ++ es') = run step (run step s es) es' := List.foldl_append

/-- What each event of an alphabet keeps holds after any run of such events. -/
theorem run_invariant {step : σ → ε → σ} {Alphabet : ε → Prop} {Invariant : σ → Prop}
    (hstep : ∀ s e, Alphabet e → Invariant s → Invariant (step s e)) {s : σ} {es : List ε}
    (hes : ∀ e ∈ es, Alphabet e) (hs : Invariant s) : Invariant (run step s es) := by
  induction es generalizing s with
  | nil => exact hs
  | cons e es ih =>
    obtain ⟨he, hes⟩ := List.forall_mem_cons.1 hes
    exact ih hes (hstep s e he hs)

/-- The number of events of a run that do work. -/
def effort (step : σ → ε → σ) (works : σ → ε → Bool) : σ → List ε → Nat
  | _, [] => 0
  | s, e :: es => (works s e).toNat + effort step works (step s e) es

/-- What the events of a run cost together. -/
def spent (step : σ → ε → σ) (cost : σ → ε → Nat) : σ → List ε → Nat
  | _, [] => 0
  | s, e :: es => cost s e + spent step cost (step s e) es

/-- What the events of a run put out, in order. -/
def emitted (step : σ → ε → σ) (out : σ → ε → List ω) : σ → List ε → List ω
  | _, [] => []
  | s, e :: es => out s e ++ emitted step out (step s e) es

theorem effort_eq_spent (step : σ → ε → σ) (works : σ → ε → Bool) (s : σ) (es : List ε) :
    effort step works s es = spent step (fun s e => (works s e).toNat) s es := by
  induction es generalizing s with
  | nil => rfl
  | cons e es ih => rw [effort, spent, ih]

theorem length_emitted (step : σ → ε → σ) (out : σ → ε → List ω) (s : σ) (es : List ε) :
    (emitted step out s es).length = spent step (fun s e => (out s e).length) s es := by
  induction es generalizing s with
  | nil => rfl
  | cons e es ih => rw [emitted, spent, List.length_append, ih]

theorem spent_mono {step : σ → ε → σ} {cost cost' : σ → ε → Nat}
    (h : ∀ s e, cost s e ≤ cost' s e) (s : σ) (es : List ε) :
    spent step cost s es ≤ spent step cost' s es := by
  induction es generalizing s with
  | nil => exact Nat.le_refl 0
  | cons e es ih => exact Nat.add_le_add (h s e) (ih (step s e))

/-- A run costs no more than there is potential for, when every event is paid for out of the
potential or out of new credit. -/
theorem spent_le {step : σ → ε → σ} {cost : σ → ε → Nat} {potential credit : σ → Nat}
    (hstep : ∀ s e,
      cost s e + potential (step s e) + credit s ≤ potential s + credit (step s e))
    (s : σ) (es : List ε) :
    spent step cost s es + potential (run step s es) + credit s ≤
      potential s + credit (run step s es) := by
  induction es generalizing s with
  | nil => exact Nat.le_of_eq (by rw [spent, Nat.zero_add]; rfl)
  | cons e es ih =>
    have hpaid := hstep s e
    have hrest := ih (step s e)
    rw [spent]
    rw [run] at hrest ⊢
    rw [List.foldl_cons]
    omega

/-- What a run has put out, one of its events did, in the state that the events before it led to. -/
theorem mem_emitted {step : σ → ε → σ} {out : σ → ε → List ω} {s : σ} {es : List ε} {x : ω}
    (h : x ∈ emitted step out s es) :
    ∃ pre e post, es = pre ++ e :: post ∧ x ∈ out (run step s pre) e := by
  induction es generalizing s with
  | nil => cases h
  | cons e es ih =>
    rcases List.mem_append.1 h with hnow | hlater
    · exact ⟨[], e, es, rfl, hnow⟩
    · obtain ⟨pre, e', post, rfl, hout⟩ := ih hlater
      exact ⟨e :: pre, e', post, rfl, hout⟩

theorem filter_emitted (step : σ → ε → σ) (out : σ → ε → List ω) (keeps : ω → Bool) (s : σ)
    (es : List ε) :
    (emitted step out s es).filter keeps =
      emitted step (fun s e => (out s e).filter keeps) s es := by
  induction es generalizing s with
  | nil => rfl
  | cons e es ih => rw [emitted, emitted, List.filter_append, ih]

/-- A map of states under which each event either has no effect or is an event of the other machine
takes runs to runs. -/
theorem run_projects {σ' ε' : Type} {step : σ → ε → σ} {step' : σ' → ε' → σ'} {f : σ → σ'}
    {gate : ε → Option ε'} (h : ∀ s e, (gate e).elim (f s) (step' (f s)) = f (step s e)) (s : σ)
    (es : List ε) : run step' (f s) (es.filterMap gate) = f (run step s es) := by
  induction es generalizing s with
  | nil => rfl
  | cons e es ih =>
    have hstep := h s e
    rw [List.filterMap_cons, run, run, List.foldl_cons, ← run, ← run, ← ih]
    cases hgate : gate e with
    | none =>
      rw [hgate, Option.elim_none] at hstep
      rw [hstep]
    | some e' =>
      rw [hgate, Option.elim_some] at hstep
      rw [run, List.foldl_cons, hstep, ← run]

theorem emitted_projects {σ' ε' : Type} {step : σ → ε → σ} {step' : σ' → ε' → σ'} {f : σ → σ'}
    {gate : ε → Option ε'} (h : ∀ s e, (gate e).elim (f s) (step' (f s)) = f (step s e))
    {out : σ → ε → List ω} {out' : σ' → ε' → List ω}
    (hout : ∀ s e, (gate e).elim [] (out' (f s)) = out s e) (s : σ) (es : List ε) :
    emitted step' out' (f s) (es.filterMap gate) = emitted step out s es := by
  induction es generalizing s with
  | nil => rfl
  | cons e es ih =>
    have hstep := h s e
    have hputs := hout s e
    rw [List.filterMap_cons, emitted, ← ih]
    cases hgate : gate e with
    | none =>
      rw [hgate, Option.elim_none] at hstep hputs
      rw [← hputs, hstep, List.nil_append]
    | some e' =>
      rw [hgate, Option.elim_some] at hstep hputs
      rw [emitted, hputs, hstep]

/-- Two histories, related event by event in the states that the first of them leads to. -/
inductive Along {ε' : Type} (step : σ → ε → σ) (E : σ → ε → ε' → Prop) :
    σ → List ε → List ε' → Prop
  | nil : Along step E s [] []
  | cons : E s e e' → Along step E (step s e) es es' → Along step E s (e :: es) (e' :: es')

/-- A map of states that commutes with every two related events commutes with related runs. -/
theorem run_along {σ' ε' : Type} {step : σ → ε → σ} {step' : σ' → ε' → σ'} {f : σ → σ'}
    {E : σ → ε → ε' → Prop} (h : ∀ s e e', E s e e' → step' (f s) e' = f (step s e)) {s : σ}
    {es : List ε} {es' : List ε'} (hes : Along step E s es es') :
    run step' (f s) es' = f (run step s es) := by
  induction hes with
  | nil => rfl
  | cons he _ ih =>
    rw [run, run, List.foldl_cons, List.foldl_cons, ← run, ← run, h _ _ _ he, ih]

theorem emitted_along {σ' ε' : Type} {step : σ → ε → σ} {step' : σ' → ε' → σ'} {f : σ → σ'}
    {E : σ → ε → ε' → Prop} (h : ∀ s e e', E s e e' → step' (f s) e' = f (step s e))
    {out : σ → ε → List ω} {out' : σ' → ε' → List ω}
    (hout : ∀ s e e', E s e e' → out' (f s) e' = out s e) {s : σ} {es : List ε} {es' : List ε'}
    (hes : Along step E s es es') : emitted step' out' (f s) es' = emitted step out s es := by
  induction hes with
  | nil => rfl
  | cons he _ ih => rw [emitted, emitted, hout _ _ _ he, h _ _ _ he, ih]

/-- A machine behind a gate runs what the gate lets through. -/
theorem run_gate {ι : Type} (step : σ → ε → σ) (gate : ι → Option ε) (s : σ) (is : List ι) :
    run (fun s i => (gate i).elim s (step s)) s is = run step s (is.filterMap gate) :=
  (@run_projects σ ι σ ε _ step id gate (fun _ _ => rfl) s is).symm

/-- Two machines whose related states stay related under related events. -/
theorem run_related {σ' ε' : Type} {step : σ → ε → σ} {step' : σ' → ε' → σ'} {R : σ → σ' → Prop}
    {E : ε → ε' → Prop} (h : ∀ s s' e e', R s s' → E e e' → R (step s e) (step' s' e')) {s : σ}
    {s' : σ'} (hs : R s s') {es : List ε} {es' : List ε'} (hes : List.Forall₂ E es es') :
    R (run step s es) (run step' s' es') := by
  induction hes generalizing s s' with
  | nil => exact hs
  | cons he _ ih => exact ih (h _ _ _ _ hs he)

theorem emitted_related {σ' ε' ω' : Type} {step : σ → ε → σ} {step' : σ' → ε' → σ'}
    {R : σ → σ' → Prop} {E : ε → ε' → Prop}
    (h : ∀ s s' e e', R s s' → E e e' → R (step s e) (step' s' e')) {out : σ → ε → List ω}
    {out' : σ' → ε' → List ω'} {Q : ω → ω' → Prop}
    (hout : ∀ s s' e e', R s s' → E e e' → List.Forall₂ Q (out s e) (out' s' e')) {s : σ}
    {s' : σ'} (hs : R s s') {es : List ε} {es' : List ε'} (hes : List.Forall₂ E es es') :
    List.Forall₂ Q (emitted step out s es) (emitted step' out' s' es') := by
  induction hes generalizing s s' with
  | nil => exact .nil
  | cons he _ ih => exact List.rel_append (hout _ _ _ _ hs he) (ih (h _ _ _ _ hs he))

/-- What a state gathers event by event is what the run has put out. -/
theorem run_gathers {κ : Type} {step : σ → ε → σ} {out : σ → ε → List ω} {gathered : σ → List κ}
    {f : ω → κ} (h : ∀ s e, gathered (step s e) = gathered s ++ (out s e).map f) (s : σ)
    (es : List ε) : gathered (run step s es) = gathered s ++ (emitted step out s es).map f := by
  induction es generalizing s with
  | nil => exact (List.append_nil _).symm
  | cons e es ih =>
    rw [run, List.foldl_cons, ← run, ih, h, emitted, List.map_append, List.append_assoc]

/-- What a state holds in the end of a run and not in its beginning, an event of the run has put
there. -/
theorem exists_origin {α : Type} {step : σ → ε → σ} {Holds : σ → α → Prop} {Puts : ε → α → Prop}
    (hstep : ∀ s e a, Holds (step s e) a → Holds s a ∨ Puts e a) {s : σ} {a : α}
    (hs : ¬ Holds s a) {es : List ε} (h : Holds (run step s es) a) : ∃ e ∈ es, Puts e a := by
  induction es generalizing s with
  | nil => exact absurd h hs
  | cons e es ih =>
    by_cases he : Puts e a
    · exact ⟨e, List.mem_cons_self, he⟩
    · have hnext : ¬ Holds (step s e) a := fun hh => (hstep s e a hh).elim hs he
      obtain ⟨e', hmem, hputs⟩ := ih hnext h
      exact ⟨e', List.mem_cons_of_mem e hmem, hputs⟩

/-- What one observer sees of a machine: an equivalence of states that the events of others leave
where it is, and that its own events keep. The invariant holds under the events of the alphabet. -/
structure Observer (step : σ → ε → σ) (Alphabet : ε → Prop) (Invariant : σ → Prop)
    (mine : ε → Bool) (Same : σ → σ → Prop) : Prop where
  refl : ∀ s, Same s s
  trans : ∀ s t u, Same s t → Same t u → Same s u
  invariant : ∀ s e, Alphabet e → Invariant s → Invariant (step s e)
  hidden : ∀ s e, Alphabet e → Invariant s → mine e = false → Same (step s e) s
  shown : ∀ s t e, Alphabet e → Invariant s → Invariant t → mine e = true → Same s t →
    Same (step s e) (step t e)

variable {step : σ → ε → σ} {Alphabet : ε → Prop} {Invariant : σ → Prop} {mine : ε → Bool}
  {Same : σ → σ → Prop}

/-- The observer sees a run as the run of its own events alone. -/
theorem Observer.purge (h : Observer step Alphabet Invariant mine Same) {s t : σ} {es : List ε}
    (hes : ∀ e ∈ es, Alphabet e) (hs : Invariant s) (ht : Invariant t) (hst : Same s t) :
    Same (run step s es) (run step t (es.filter mine)) := by
  induction es generalizing s t with
  | nil => exact hst
  | cons e es ih =>
    obtain ⟨he, hes⟩ := List.forall_mem_cons.1 hes
    have hs' := h.invariant s e he hs
    cases hmine : mine e with
    | true =>
      rw [List.filter_cons_of_pos hmine]
      exact ih hes hs' (h.invariant t e he ht) (h.shown s t e he hs ht hmine hst)
    | false =>
      rw [List.filter_cons_of_neg (Bool.eq_false_iff.1 hmine)]
      exact ih hes hs' ht (h.trans _ s t (h.hidden s e he hs hmine) hst)

end Unwinding
