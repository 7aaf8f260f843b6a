import FileScanner.Lib.Blocks
import Mathlib.Data.List.Forall2

namespace Streams
set_option autoImplicit true

section Slices
variable {n : Nat} {xs : List α}

theorem slices_long (hn : 0 < n) (h : n ≤ xs.length) :
    slices n xs = xs.take n :: slices n (xs.drop n) := by
  rw [slices, blocks_long ⟨hn, h⟩, slices.eq_1 n (xs.drop n)]
  dsimp only
  split <;> rfl

theorem slices_short (h : xs.length < n) (hne : xs ≠ []) : slices n xs = [xs] := by
  rw [slices, blocks_short h, if_neg hne]
  rfl

end Slices

/-- Two texts of one length whose slices look alike one by one, the first of them being the
`i`-th. -/
structure LookAlike (n : Nat) (look look' : Nat → List α → β) (i : Nat) (xs ys : List α) : Prop where
  length : ys.length = xs.length
  slices : (slices n ys).mapIdx (fun j => look' (i + j)) =
    (slices n xs).mapIdx (fun j => look (i + j))

section LookAlike
variable {n : Nat} {look look' : Nat → List α → β} {i : Nat} {xs ys : List α}

theorem LookAlike.block (hn : 0 < n) (h : LookAlike n look look' i xs ys) (hfull : n ≤ xs.length) :
    look' i (ys.take n) = look i (xs.take n) ∧
      LookAlike n look look' (i + 1) (xs.drop n) (ys.drop n) := by
  have hshift : ∀ u : Nat → List α → β, (fun j => u (i + (j + 1))) = fun j => u (i + 1 + j) := by
    intro u
    funext j
    rw [Nat.add_right_comm i 1 j, Nat.add_assoc]
  have hslices := h.slices
  rw [slices_long hn hfull, slices_long hn (h.length ▸ hfull), List.mapIdx_cons, List.mapIdx_cons,
    List.cons.injEq, hshift, hshift] at hslices
  refine ⟨hslices.1, ?_, hslices.2⟩
  rw [List.length_drop, List.length_drop, h.length]

theorem LookAlike.tail (h : LookAlike n look look' i xs ys) (hshort : xs.length < n)
    (hne : xs ≠ []) : look' i ys = look i xs := by
  have hslices := h.slices
  have hne' : ys ≠ [] := by
    intro hnil
    apply hne
    rw [← List.length_eq_zero_iff, ← h.length, hnil, List.length_nil]
  rw [slices_short hshort hne, slices_short (h.length ▸ hshort) hne'] at hslices
  exact List.head_eq_of_cons_eq hslices

end LookAlike

/-- Processing that sees of each block its look alone, at a stage that counts the blocks. -/
structure Sees (stage : σ → Nat) (look : Nat → List α → β) (go : σ → β → Except ε σ)
    (f : σ → List α → Except ε σ) : Prop where
  sees : ∀ s b, f s b = go s (look (stage s) b)
  counts : ∀ s b s', f s b = .ok s' → stage s' = stage s + 1

section Feeding
variable {n : Nat} {stage : σ → Nat} {look look' : Nat → List α → β} {go : σ → β → Except ε σ}
  {f f' : σ → List α → Except ε σ} {s : σ}

theorem Sees.block (hn : 0 < n) (hf : Sees stage look go f) (hf' : Sees stage look' go f')
    {buf buf' rest rest' : List α} (hfull : n ≤ buf.length) (hbuf : buf'.length = buf.length)
    (h : LookAlike n look look' (stage s) (buf ++ rest) (buf' ++ rest')) :
    f' s (buf'.take n) = f s (buf.take n) ∧
      LookAlike n look look' (stage s + 1) (buf.drop n ++ rest) (buf'.drop n ++ rest') := by
  obtain ⟨hlook, hrest⟩ := h.block hn (by rw [List.length_append]; omega)
  rw [List.take_append_of_le_length hfull, List.take_append_of_le_length (hbuf ▸ hfull)] at hlook
  rw [List.drop_append_of_le_length hfull, List.drop_append_of_le_length (hbuf ▸ hfull)] at hrest
  exact ⟨by rw [hf'.sees, hf.sees, hlook], hrest⟩

theorem drain_alike (hn : 0 < n) (hf : Sees stage look go f) (hf' : Sees stage look' go f')
    {buf buf' rest rest' : List α} (hbuf : buf'.length = buf.length)
    (h : LookAlike n look look' (stage s) (buf ++ rest) (buf' ++ rest')) :
    (∃ e, drain n f s buf = .error e ∧ drain n f' s buf' = .error e) ∨
      ∃ s₁ buf₁ buf₁', drain n f s buf = .ok (s₁, buf₁) ∧ drain n f' s buf' = .ok (s₁, buf₁') ∧
        buf₁'.length = buf₁.length ∧ buf₁.length < n ∧
        LookAlike n look look' (stage s₁) (buf₁ ++ rest) (buf₁' ++ rest') := by
  fun_induction drain n f s buf generalizing buf' with
  | case1 s buf hfull e he =>
    rw [drain.eq_1 n f', if_pos (hbuf ▸ hfull), (hf.block hn hf' hfull.2 hbuf h).1, he]
    exact .inl ⟨e, rfl, rfl⟩
  | case2 s buf hfull s₁ hs ih =>
    obtain ⟨hblock, hrest⟩ := hf.block hn hf' hfull.2 hbuf h
    rw [drain.eq_1 n f' s buf', if_pos (hbuf ▸ hfull), hblock, hs]
    refine ih (by rw [List.length_drop, List.length_drop, hbuf]) ?_
    rwa [hf.counts s _ s₁ hs]
  | case3 s buf hshort =>
    rw [drain.eq_1 n f', if_neg (hbuf ▸ hshort)]
    exact .inr ⟨s, buf, buf', rfl, rfl, hbuf, by omega, h⟩

/-- Feeding two streams that come in pieces of the same account and length, and that look alike,
ends alike. -/
theorem feed_alike {g : τ → γ → Except ε τ} {data : γ → List α} (hn : 0 < n)
    (hf : Sees stage look go f) (hf' : Sees stage look' go f') {cs cs' : List γ}
    (hpieces : List.Forall₂
      (fun c c' => (data c').length = (data c).length ∧ ∀ t, g t c' = g t c) cs cs')
    (t : τ) {buf buf' : List α} (hbuf : buf'.length = buf.length) (hshort : buf.length < n)
    (h : LookAlike n look look' (stage s) (buf ++ cs.flatMap data) (buf' ++ cs'.flatMap data)) :
    (∃ e, feed g data n f cs t s buf = .error e ∧ feed g data n f' cs' t s buf' = .error e) ∨
      ∃ t₁ s₁ buf₁ buf₁', feed g data n f cs t s buf = .ok (t₁, s₁, buf₁) ∧
        feed g data n f' cs' t s buf' = .ok (t₁, s₁, buf₁') ∧ buf₁.length < n ∧
        LookAlike n look look' (stage s₁) buf₁ buf₁' := by
  induction hpieces generalizing t s buf buf' with
  | nil =>
    rw [List.flatMap_nil, List.append_nil, List.append_nil] at h
    exact .inr ⟨t, s, buf, buf', rfl, rfl, hshort, h⟩
  | @cons c c' cs cs' hc _ ih =>
    obtain ⟨hdata, haccount⟩ := hc
    rw [feed, feed, haccount]
    cases g t c with
    | error e => exact .inl ⟨e, rfl, rfl⟩
    | ok t₁ =>
      rw [List.flatMap_cons, List.flatMap_cons, ← List.append_assoc, ← List.append_assoc] at h
      have hlength : (buf' ++ data c').length = (buf ++ data c).length := by
        rw [List.length_append, List.length_append, hbuf, hdata]
      rcases drain_alike hn hf hf' hlength h with
        ⟨e, he, he'⟩ | ⟨s₁, buf₁, buf₁', hok, hok', hbuf₁, hshort₁, h₁⟩
      · dsimp only
        rw [he, he']
        exact .inl ⟨e, rfl, rfl⟩
      · dsimp only
        rw [hok, hok']
        exact ih t₁ hbuf₁ hshort₁ h₁

end Feeding

end Streams
