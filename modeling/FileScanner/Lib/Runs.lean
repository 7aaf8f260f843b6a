import Mathlib.Data.List.Basic

namespace Runs
set_option autoImplicit true

variable {σ ε : Type}

/-- Take events in order; there is no run when one of them is not enabled. -/
def run (step : σ → ε → Option σ) (s : σ) (es : List ε) : Option σ := es.foldlM step s

theorem run_cons_some {step : σ → ε → Option σ} {s s'' : σ} {e : ε} {es : List ε}
    (h : run step s (e :: es) = some s'') :
    ∃ s', step s e = some s' ∧ run step s' es = some s'' := by
  rw [run, List.foldlM_cons] at h
  exact Option.bind_eq_some_iff.1 h

/-- A property of every state a run passes through, its first one included. -/
def Always (step : σ → ε → Option σ) (P : σ → Prop) : σ → List ε → Prop
  | s, [] => P s
  | s, e :: es => P s ∧ ∀ s', step s e = some s' → Always step P s' es

/-- A condition on every step a run takes. -/
def EachStep (step : σ → ε → Option σ) (C : σ → ε → Prop) : σ → List ε → Prop
  | _, [] => True
  | s, e :: es => ∀ s', step s e = some s' → C s e ∧ EachStep step C s' es

theorem Always.start {step : σ → ε → Option σ} {P : σ → Prop} {s : σ} {es : List ε}
    (h : Always step P s es) : P s := by
  cases es with
  | nil => exact h
  | cons e es => exact h.1

theorem Always.final {step : σ → ε → Option σ} {P : σ → Prop} {s s' : σ} {es : List ε}
    (h : Always step P s es) (hrun : run step s es = some s') : P s' := by
  induction es generalizing s with
  | nil =>
    cases hrun
    exact h
  | cons e es ih =>
    obtain ⟨s₁, h₁, h₂⟩ := run_cons_some hrun
    exact ih (h.2 s₁ h₁) h₂

/-- Steps that meet one condition meet another, along an invariant. -/
theorem EachStep.imp {step : σ → ε → Option σ} {I : σ → Prop} {C D : σ → ε → Prop}
    (hstep : ∀ s e s', I s → C s e → step s e = some s' → I s' ∧ D s e) {s : σ} {es : List ε}
    (hi : I s) (h : EachStep step C s es) : EachStep step D s es := by
  induction es generalizing s with
  | nil => trivial
  | cons e es ih =>
    intro s' hs'
    obtain ⟨hc, hrest⟩ := h s' hs'
    obtain ⟨hi', hd⟩ := hstep s e s' hi hc hs'
    exact ⟨hd, ih hi' hrest⟩

theorem always_iff_eachStep {step : σ → ε → Option σ} {I P : σ → Prop} {Q : ε → Prop}
    {C : σ → ε → Prop}
    (hstep : ∀ s e s', I s → P s → Q e → step s e = some s' → I s' ∧ (P s' ↔ C s e))
    {s : σ} {es : List ε} (hi : I s) (hp : P s) (hq : ∀ e ∈ es, Q e) :
    Always step P s es ↔ EachStep step C s es := by
  induction es generalizing s with
  | nil => exact iff_of_true hp trivial
  | cons e es ih =>
    have hqe := hq e List.mem_cons_self
    have hqs : ∀ e' ∈ es, Q e' := fun e' he' => hq e' (List.mem_cons_of_mem e he')
    constructor
    · rintro ⟨-, h⟩ s' hs'
      obtain ⟨hi', hc⟩ := hstep s e s' hi hp hqe hs'
      have hp' := (h s' hs').start
      exact ⟨hc.1 hp', (ih hi' hp' hqs).1 (h s' hs')⟩
    · intro h
      refine ⟨hp, fun s' hs' => ?_⟩
      obtain ⟨hi', hc⟩ := hstep s e s' hi hp hqe hs'
      obtain ⟨hce, hrest⟩ := h s' hs'
      exact (ih hi' (hc.2 hce) hqs).2 hrest

end Runs
