import Mathlib.Logic.Basic

namespace Fallible
set_option autoImplicit true

variable {α β ε : Type}

@[simp] theorem ok_bind (a : α) (f : α → Except ε β) : (Except.ok a >>= f) = f a := rfl

@[simp] theorem error_bind (e : ε) (f : α → Except ε β) :
    (Except.error e >>= f) = .error e := rfl

theorem bind_eq_ok {x : Except ε α} {f : α → Except ε β} {b : β} :
    (x >>= f) = .ok b ↔ ∃ a, x = .ok a ∧ f a = .ok b := by
  cases x with
  | error e =>
    rw [error_bind]
    apply iff_of_false (nomatch ·)
    intro hsome
    obtain ⟨a, ha, -⟩ := hsome
    cases ha
  | ok a =>
    rw [ok_bind]
    refine ⟨fun h => ⟨a, rfl, h⟩, ?_⟩
    intro hsome
    obtain ⟨a', ha, h⟩ := hsome
    cases ha
    exact h

theorem bind_eq_error {x : Except ε α} {f : α → Except ε β} {e : ε} :
    (x >>= f) = .error e ↔ x = .error e ∨ ∃ a, x = .ok a ∧ f a = .error e := by
  cases x with
  | error e' =>
    rw [error_bind]
    constructor
    · intro h
      cases h
      exact .inl rfl
    · intro hor
      rcases hor with h | ⟨a, ha, -⟩
      · cases h
        rfl
      · cases ha
  | ok a =>
    rw [ok_bind]
    constructor
    · intro h
      exact .inr ⟨a, rfl, h⟩
    · intro hor
      rcases hor with h | ⟨a', ha, h⟩
      · cases h
      · cases ha
        exact h

theorem mapError_eq_ok {γ : Type} {x : Except ε α} {f : ε → γ} {a : α} :
    x.mapError f = .ok a ↔ x = .ok a := by
  cases x with
  | error e => exact iff_of_false (nomatch ·) (nomatch ·)
  | ok b => exact ⟨fun h => Except.ok.inj h ▸ rfl, fun h => Except.ok.inj h ▸ rfl⟩

/-- `if c: raise e`. -/
def raiseIf (c : Prop) [Decidable c] (e : ε) : Except ε Unit := if c then .error e else .ok ()

theorem raiseIf_eq_ok {c : Prop} [Decidable c] {e : ε} {u : Unit} :
    raiseIf c e = .ok u ↔ ¬ c := by
  rw [raiseIf]
  split
  · rename_i h
    exact iff_of_false (nomatch ·) (not_not_intro h)
  · rename_i h
    exact iff_of_true rfl h

theorem raiseIf_eq_error {c : Prop} [Decidable c] {e e' : ε} :
    raiseIf c e = .error e' ↔ c ∧ e = e' := by
  rw [raiseIf]
  split
  · rename_i h
    rw [Except.error.injEq, and_iff_right h]
  · rename_i h
    exact iff_of_false (nomatch ·) (fun h' => h h'.1)

theorem raiseIf_neg {c : Prop} [Decidable c] {e : ε} (h : ¬ c) : raiseIf c e = .ok () :=
  raiseIf_eq_ok.2 h

theorem raiseIf_pos {c : Prop} [Decidable c] {e : ε} (h : c) : raiseIf c e = .error e :=
  raiseIf_eq_error.2 ⟨h, rfl⟩

/-- Whatever failure a computation ends in has the property. -/
def RaisesOnly (P : ε → Prop) (x : Except ε α) : Prop := ∀ e, x = .error e → P e

theorem RaisesOnly.ok {P : ε → Prop} (a : α) : RaisesOnly P (.ok a) := fun _ h => nomatch h

theorem RaisesOnly.error {P : ε → Prop} {e : ε} (h : P e) :
    RaisesOnly P (.error e : Except ε α) := by
  intro e' he
  cases he
  exact h

theorem RaisesOnly.raiseIf {P : ε → Prop} {c : Prop} [Decidable c] {e : ε} (h : P e) :
    RaisesOnly P (raiseIf c e) := by
  intro e' he
  obtain ⟨-, rfl⟩ := raiseIf_eq_error.1 he
  exact h

theorem RaisesOnly.bind {P : ε → Prop} {x : Except ε α} {f : α → Except ε β}
    (hx : RaisesOnly P x) (hf : ∀ a, x = .ok a → RaisesOnly P (f a)) :
    RaisesOnly P (x >>= f) := by
  intro e he
  rcases bind_eq_error.1 he with h | ⟨a, ha, h⟩
  · exact hx e h
  · exact hf a ha e h

theorem raisesOnly_error {P : ε → Prop} {e : ε} :
    RaisesOnly P (.error e : Except ε α) ↔ P e :=
  ⟨fun h => h e rfl, .error⟩

theorem raisesOnly_bind {P : ε → Prop} {x : Except ε α} {f : α → Except ε β} :
    RaisesOnly P (x >>= f) ↔ RaisesOnly P x ∧ ∀ a, x = .ok a → RaisesOnly P (f a) := by
  constructor
  · intro h
    constructor
    · intro e he
      exact h e (bind_eq_error.2 (.inl he))
    · intro a ha e he
      exact h e (bind_eq_error.2 (.inr ⟨a, ha, he⟩))
  · intro h
    exact h.1.bind h.2

theorem raisesOnly_mapError {γ : Type} {P : γ → Prop} {x : Except ε α} {f : ε → γ} :
    RaisesOnly P (x.mapError f) ↔ RaisesOnly (fun e => P (f e)) x := by
  cases x with
  | error e =>
    constructor
    · intro h e' he
      cases he
      exact h (f e) rfl
    · intro h e' he
      cases he
      exact h e rfl
  | ok a => exact iff_of_true (.ok a) (.ok a)

theorem RaisesOnly.mapError {γ : Type} {P : ε → Prop} {Q : γ → Prop} {x : Except ε α} {f : ε → γ}
    (hx : RaisesOnly P x) (hf : ∀ e, P e → Q (f e)) : RaisesOnly Q (x.mapError f) := by
  intro e he
  cases x with
  | error e' =>
    cases he
    exact hf e' (hx e' rfl)
  | ok a => cases he

theorem RaisesOnly.foldlM {P : ε → Prop} {f : β → α → Except ε β}
    (h : ∀ b a, RaisesOnly P (f b a)) (b : β) (as : List α) : RaisesOnly P (as.foldlM f b) := by
  induction as generalizing b with
  | nil => exact .ok b
  | cons a as ih =>
    rw [List.foldlM_cons]
    exact (h b a).bind (fun b' _ => ih b')

theorem RaisesOnly.mapM {P : ε → Prop} {f : α → Except ε β} (h : ∀ a, RaisesOnly P (f a))
    (as : List α) : RaisesOnly P (as.mapM f) := by
  induction as with
  | nil => exact .ok []
  | cons a as ih =>
    rw [List.mapM_cons]
    apply (h a).bind
    intro _ _
    exact ih.bind (fun _ _ => .ok _)

end Fallible
