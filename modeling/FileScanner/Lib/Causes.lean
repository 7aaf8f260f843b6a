import FileScanner.Lib.Fallible

namespace Fallible
set_option autoImplicit true

/-- A computation fails in class `K` exactly by the cause `U` or by the cause `F`, and never by
both. -/
structure Causes {ε α : Type} (K : ε → Prop) (x : Except ε α) (U F : Prop) : Prop where
  fails : (∃ e, K e ∧ x = .error e) ↔ U ∨ F
  apart : U → ¬ F

variable {α β ε : Type} {K : ε → Prop} {x : Except ε α} {U F : Prop}

theorem Causes.never (h : RaisesOnly (fun e => ¬ K e) x) : Causes K x False False := by
  constructor
  · apply iff_of_false
    · intro hfails
      obtain ⟨e, hK, he⟩ := hfails
      exact h e he hK
    · intro hor
      exact hor.elim id id
  · exact False.elim

theorem Causes.ok (a : α) : Causes K (.ok a) False False := .never (.ok a)

theorem Causes.first {e : ε} (h : K e) : Causes K (.error e : Except ε α) True False :=
  ⟨iff_of_true ⟨e, h, rfl⟩ (.inl trivial), fun _ => id⟩

theorem Causes.second {e : ε} (h : K e) : Causes K (.error e : Except ε α) False True :=
  ⟨iff_of_true ⟨e, h, rfl⟩ (.inr trivial), False.elim⟩

theorem Causes.congr {U' F' : Prop} (h : Causes K x U F) (hU : U' ↔ U) (hF : F' ↔ F) :
    Causes K x U' F' := by
  constructor
  · rw [hU, hF]
    exact h.fails
  · rw [hU, hF]
    exact h.apart

theorem Causes.not_ok (h : Causes K x U F) {a : α} (ha : x = .ok a) : ¬ U ∧ ¬ F := by
  rw [← not_or, ← h.fails]
  intro hfails
  obtain ⟨e, -, he⟩ := hfails
  rw [ha] at he
  cases he

/-- The causes of a sequence: those of its first part, and those of the second where the first
part returns. -/
theorem Causes.bind {f : α → Except ε β} {U' F' : α → Prop} (hx : Causes K x U F)
    (hf : ∀ a, x = .ok a → Causes K (f a) (U' a) (F' a)) :
    Causes K (x >>= f) (U ∨ ∃ a, x = .ok a ∧ U' a) (F ∨ ∃ a, x = .ok a ∧ F' a) := by
  cases x with
  | error e =>
    have hU : (U ∨ ∃ a, (.error e : Except ε α) = .ok a ∧ U' a) ↔ U := by simp
    have hF : (F ∨ ∃ a, (.error e : Except ε α) = .ok a ∧ F' a) ↔ F := by simp
    rw [hU, hF, error_bind]
    constructor
    · rw [← hx.fails]
      simp only [Except.error.injEq]
    · exact hx.apart
  | ok a =>
    obtain ⟨hU, hF⟩ := hx.not_ok rfl
    apply (hf a rfl).congr
    · simp [hU]
    · simp [hF]

theorem Causes.bind_never {f : α → Except ε β} (hx : Causes K x U F)
    (hf : ∀ a, x = .ok a → RaisesOnly (fun e => ¬ K e) (f a)) : Causes K (x >>= f) U F := by
  apply (hx.bind (fun a ha => .never (hf a ha))).congr
  · simp
  · simp

theorem Causes.never_bind {f : α → Except ε β} {U' F' : α → Prop}
    (hx : RaisesOnly (fun e => ¬ K e) x) (hf : ∀ a, x = .ok a → Causes K (f a) (U' a) (F' a)) :
    Causes K (x >>= f) (∃ a, x = .ok a ∧ U' a) (∃ a, x = .ok a ∧ F' a) := by
  apply ((Causes.never hx).bind hf).congr
  · simp
  · simp

theorem Causes.raiseIf {c : Prop} [Decidable c] {e : ε} (h : K e) :
    Causes K (raiseIf c e) False c := by
  constructor
  · rw [false_or]
    constructor
    · intro hfails
      obtain ⟨e', -, he⟩ := hfails
      exact (raiseIf_eq_error.1 he).1
    · intro hc
      exact ⟨e, h, raiseIf_pos hc⟩
  · exact False.elim

/-- A traversal fails in the class by its elements alone, when they fail in no other class. -/
theorem Causes.mapM {f : α → Except ε β} (h : ∀ a e, f a = .error e → K e) (as : List α) :
    Causes K (as.mapM f) False (∃ a ∈ as, ∃ e, f a = .error e) := by
  induction as with
  | nil =>
    apply (Causes.ok []).congr Iff.rfl
    simp
  | cons a as ih =>
    rw [List.mapM_cons]
    cases ha : f a with
    | error e =>
      apply (Causes.second (h a e ha)).congr Iff.rfl
      exact iff_true_intro ⟨a, List.mem_cons_self, e, ha⟩
    | ok b =>
      rw [ok_bind]
      apply (ih.bind (fun bs _ => Causes.ok (b :: bs))).congr
      · simp
      · simp [ha]

/-- Failures of the class have the second cause alone exactly where the first one is absent. -/
theorem Causes.only_iff (h : Causes K x U F) : ((∃ e, K e ∧ x = .error e) → F) ↔ ¬ U := by
  rw [h.fails]
  constructor
  · intro honly hU
    exact h.apart hU (honly (.inl hU))
  · intro hU hor
    exact hor.resolve_left hU

end Fallible
