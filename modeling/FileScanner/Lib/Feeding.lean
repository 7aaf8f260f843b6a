import FileScanner.Lib.Blocks
import Mathlib.Logic.Relation

namespace Streams
set_option autoImplicit true

/-- A moment of feeding a stream: the pieces to come, the account of those that came, what the
blocks so far gave, and the buffer. -/
structure Moment (τ σ γ α : Type) where
  source : List γ
  account : τ
  done : σ
  buffer : List α

section Feeding
variable {ε : Type} (g : τ → γ → Except ε τ) (data : γ → List α) (n : Nat)
  (f : σ → List α → Except ε σ)

/-- One turn: a full block of the buffer is processed, or else the next piece taken. -/
def Moment.step (m : Moment τ σ γ α) : Except ε (Option (Moment τ σ γ α)) :=
  if n ≤ m.buffer.length then
    match f m.done (m.buffer.take n) with
    | .error e => .error e
    | .ok done => .ok (some { m with done := done, buffer := m.buffer.drop n })
  else
    match m.source with
    | [] => .ok none
    | c :: cs =>
      match g m.account c with
      | .error e => .error e
      | .ok account =>
        .ok (some { m with source := cs, account := account, buffer := m.buffer ++ data c })

def Moment.Next (m m' : Moment τ σ γ α) : Prop := m.step g data n f = .ok (some m')

/-- From one moment, feeding comes to the other. -/
def Passes : Moment τ σ γ α → Moment τ σ γ α → Prop := Relation.ReflTransGen (Moment.Next g data n f)

variable {g data n f}

/-- What holds at the start and is kept by every turn holds at every moment. -/
theorem Passes.invariant {P : Moment τ σ γ α → Prop} {m m' : Moment τ σ γ α}
    (h : Passes g data n f m m') (hm : P m)
    (hstep : ∀ a b, P a → Moment.Next g data n f a b → P b) : P m' := by
  induction h with
  | refl => exact hm
  | tail _ hnext ih => exact hstep _ _ ih hnext

/-- A turn processes a block or takes a piece. -/
theorem Moment.next_cases {m m' : Moment τ σ γ α} (h : Moment.Next g data n f m m') :
    (n ≤ m.buffer.length ∧ ∃ done, f m.done (m.buffer.take n) = .ok done ∧
      m' = { m with done := done, buffer := m.buffer.drop n }) ∨
    (m.buffer.length < n ∧ ∃ c cs account, m.source = c :: cs ∧ g m.account c = .ok account ∧
      m' = { m with source := cs, account := account, buffer := m.buffer ++ data c }) := by
  rw [Next, step] at h
  split at h
  · rename_i hfull
    left
    split at h
    · cases h
    · rename_i done hdone
      cases h
      exact ⟨hfull, done, hdone, rfl⟩
  · rename_i hshort
    right
    split at h
    · cases h
    · rename_i c cs hsource
      split at h
      · cases h
      · rename_i account haccount
        cases h
        exact ⟨Nat.lt_of_not_le hshort, c, cs, account, hsource, haccount, rfl⟩

theorem Moment.next_block {m : Moment τ σ γ α} {done : σ} (hfull : n ≤ m.buffer.length)
    (hdone : f m.done (m.buffer.take n) = .ok done) :
    Moment.Next g data n f m { m with done := done, buffer := m.buffer.drop n } := by
  rw [Next, step, if_pos hfull, hdone]

theorem Moment.next_piece {m : Moment τ σ γ α} {c : γ} {cs : List γ} {account : τ}
    (hshort : m.buffer.length < n) (hsource : m.source = c :: cs)
    (haccount : g m.account c = .ok account) :
    Moment.Next g data n f m
      { m with source := cs, account := account, buffer := m.buffer ++ data c } := by
  rw [Next, step, if_neg (Nat.not_le.2 hshort), hsource]
  dsimp only
  rw [haccount]

theorem Moment.step_none {m : Moment τ σ γ α} (h : m.step g data n f = .ok none) :
    m.source = [] := by
  rw [step] at h
  split at h
  · split at h <;> cases h
  · split at h
    · assumption
    · split at h <;> cases h

variable (g data) in
/-- Draining a buffer passes through moments that leave the source and its account alone. -/
theorem drain_passes (hn : 0 < n) (cs : List γ) (t : τ) (s : σ) (buf : List α) :
    (∀ s' buf', drain n f s buf = .ok (s', buf') →
      Passes g data n f ⟨cs, t, s, buf⟩ ⟨cs, t, s', buf'⟩ ∧ buf'.length < n) ∧
    ∀ e, drain n f s buf = .error e →
      ∃ m, Passes g data n f ⟨cs, t, s, buf⟩ m ∧ m.step g data n f = .error e := by
  fun_induction drain n f s buf with
  | case1 s buf h e he =>
    refine ⟨(fun s' buf' hok => by cases hok), fun e' hfail => ?_⟩
    cases hfail
    refine ⟨_, .refl, ?_⟩
    rw [Moment.step, if_pos h.2, he]
  | case2 s buf h s₁ hs ih =>
    have hnext : Moment.Next g data n f ⟨cs, t, s, buf⟩ ⟨cs, t, s₁, buf.drop n⟩ :=
      Moment.next_block h.2 hs
    refine ⟨fun s' buf' hok => ?_, fun e hfail => ?_⟩
    · obtain ⟨hpasses, hshort⟩ := ih.1 s' buf' hok
      exact ⟨.head hnext hpasses, hshort⟩
    · obtain ⟨m, hpasses, hstep⟩ := ih.2 e hfail
      exact ⟨m, .head hnext hpasses, hstep⟩
  | case3 s buf h =>
    refine ⟨fun s' buf' hok => ?_, fun e hfail => by cases hfail⟩
    cases hok
    exact ⟨.refl, Nat.lt_of_not_le (fun hle => h ⟨hn, hle⟩)⟩

/-- Feeding a stream passes from its start to its end, or to the moment that fails. -/
theorem feed_passes (hn : 0 < n) (cs : List γ) (t : τ) (s : σ) {buf : List α}
    (hbuf : buf.length < n) :
    (∀ t' s' buf', feed g data n f cs t s buf = .ok (t', s', buf') →
      Passes g data n f ⟨cs, t, s, buf⟩ ⟨[], t', s', buf'⟩ ∧ buf'.length < n) ∧
    ∀ e, feed g data n f cs t s buf = .error e →
      ∃ m, Passes g data n f ⟨cs, t, s, buf⟩ m ∧ m.step g data n f = .error e := by
  induction cs generalizing t s buf with
  | nil =>
    refine ⟨fun t' s' buf' hok => ?_, fun e hfail => by cases hfail⟩
    cases hok
    exact ⟨.refl, hbuf⟩
  | cons c cs ih =>
    rw [feed]
    cases haccount : g t c with
    | error e' =>
      refine ⟨(fun t' s' buf' hok => by cases hok), fun e hfail => ?_⟩
      cases hfail
      refine ⟨_, .refl, ?_⟩
      rw [Moment.step, if_neg (Nat.not_le.2 hbuf)]
      dsimp only
      rw [haccount]
    | ok t₁ =>
      have hnext : Moment.Next g data n f ⟨c :: cs, t, s, buf⟩ ⟨cs, t₁, s, buf ++ data c⟩ :=
        Moment.next_piece hbuf rfl haccount
      obtain ⟨hdrains, hfails⟩ := drain_passes g data hn cs t₁ s (buf ++ data c)
      dsimp only
      cases hdrain : drain n f s (buf ++ data c) with
      | error e' =>
        refine ⟨(fun t' s' buf' hok => by cases hok), fun e hfail => ?_⟩
        cases hfail
        obtain ⟨m, hpasses, hstep⟩ := hfails _ hdrain
        exact ⟨m, .head hnext hpasses, hstep⟩
      | ok drained =>
        obtain ⟨s₁, buf₁⟩ := drained
        obtain ⟨hpasses, hshort⟩ := hdrains s₁ buf₁ hdrain
        obtain ⟨hends, hfails'⟩ := ih t₁ s₁ hshort
        refine ⟨fun t' s' buf' hok => ?_, fun e hfail => ?_⟩
        · obtain ⟨hrest, hshort'⟩ := hends t' s' buf' hok
          exact ⟨.head hnext (hpasses.trans hrest), hshort'⟩
        · obtain ⟨m, hrest, hstep⟩ := hfails' e hfail
          exact ⟨m, .head hnext (hpasses.trans hrest), hstep⟩

/-- Every moment is on the way to the last one. -/
theorem Passes.to_last {m a b : Moment τ σ γ α} (ha : Passes g data n f m a)
    (hb : Passes g data n f m b) (hlast : ∀ m', ¬ Moment.Next g data n f b m') :
    Passes g data n f a b := by
  have hunique : Relator.RightUnique (Moment.Next g data n f) := by
    intro x y z hy hz
    rw [Moment.Next] at hy hz
    rw [hy] at hz
    exact Option.some.inj (Except.ok.inj hz)
  rcases Relation.ReflTransGen.total_of_right_unique hunique ha hb with h | h
  · exact h
  · rcases Relation.ReflTransGen.cases_head h with heq | ⟨m', hnext, -⟩
    · rw [heq]
      exact .refl
    · exact absurd hnext (hlast m')

end Feeding

end Streams
