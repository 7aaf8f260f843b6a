import Mathlib.Data.List.Basic
import Mathlib.Tactic.Common

namespace Streams
set_option autoImplicit true

variable {α γ σ τ ε : Type}

/-- The full blocks of `n` elements at the front of a list, and the tail after them. -/
def blocks (n : Nat) (xs : List α) : List (List α) × List α :=
  if 0 < n ∧ n ≤ xs.length then
    (xs.take n :: (blocks n (xs.drop n)).1, (blocks n (xs.drop n)).2)
  else ([], xs)
termination_by xs.length
decreasing_by all_goals (simp only [List.length_drop]; omega)

/-- The full blocks followed by the tail, when one is left. -/
def slices (n : Nat) (xs : List α) : List (List α) :=
  if (blocks n xs).2 = [] then (blocks n xs).1 else (blocks n xs).1 ++ [(blocks n xs).2]

theorem blocks_short {n : Nat} {xs : List α} (h : xs.length < n) : blocks n xs = ([], xs) := by
  rw [blocks, if_neg (by omega)]

theorem blocks_long {n : Nat} {xs : List α} (h : 0 < n ∧ n ≤ xs.length) :
    blocks n xs = (xs.take n :: (blocks n (xs.drop n)).1, (blocks n (xs.drop n)).2) := by
  rw [blocks, if_pos h]

theorem blocks_cons {n : Nat} {b : List α} (hn : 0 < n) (hb : b.length = n) (xs : List α) :
    blocks n (b ++ xs) = (b :: (blocks n xs).1, (blocks n xs).2) := by
  rw [blocks_long ⟨hn, by rw [List.length_append]; omega⟩]
  rw [List.take_left' hb, List.drop_left' hb]

theorem blocks_flatten_append {n : Nat} {bs : List (List α)} {t : List α} (hn : 0 < n)
    (hbs : ∀ b ∈ bs, b.length = n) (ht : t.length < n) :
    blocks n (bs.flatten ++ t) = (bs, t) := by
  induction bs with
  | nil => exact blocks_short ht
  | cons b bs ih =>
    have hb := hbs b List.mem_cons_self
    have ih' := ih (fun b' hb' => hbs b' (List.mem_cons_of_mem _ hb'))
    rw [List.flatten_cons, List.append_assoc, blocks_cons hn hb, ih']

theorem blocks_spec {n : Nat} (hn : 0 < n) (xs : List α) :
    (blocks n xs).1.flatten ++ (blocks n xs).2 = xs ∧
      (∀ b ∈ (blocks n xs).1, b.length = n) ∧ (blocks n xs).2.length < n := by
  fun_induction blocks n xs with
  | case1 xs h ih =>
    obtain ⟨hflat, hlen, htail⟩ := ih
    refine ⟨?_, ?_, htail⟩
    · rw [List.flatten_cons, List.append_assoc, hflat, List.take_append_drop]
    · intro b hb
      rcases List.mem_cons.1 hb with rfl | hb
      · rw [List.length_take]
        omega
      · exact hlen b hb
  | case2 xs h =>
    have hs : xs.length < n := by omega
    exact ⟨rfl, by simp, hs⟩

theorem blocks_append {n : Nat} (hn : 0 < n) (xs ys : List α) :
    blocks n (xs ++ ys) =
      ((blocks n xs).1 ++ (blocks n ((blocks n xs).2 ++ ys)).1,
        (blocks n ((blocks n xs).2 ++ ys)).2) := by
  obtain ⟨hx, hxl, -⟩ := blocks_spec hn xs
  obtain ⟨hy, hyl, hyt⟩ := blocks_spec hn ((blocks n xs).2 ++ ys)
  have hlen : ∀ b ∈ (blocks n xs).1 ++ (blocks n ((blocks n xs).2 ++ ys)).1, b.length = n := by
    intro b hb
    rcases List.mem_append.1 hb with hb | hb
    · exact hxl b hb
    · exact hyl b hb
  have hcut := blocks_flatten_append hn hlen hyt
  rwa [List.flatten_append, List.append_assoc, hy, ← List.append_assoc, hx] at hcut

/-- Process every full block of a buffer; what is left is shorter than a block. -/
def drain (n : Nat) (f : σ → List α → Except ε σ) (s : σ) (buf : List α) :
    Except ε (σ × List α) :=
  if 0 < n ∧ n ≤ buf.length then
    match f s (buf.take n) with
    | .error e => .error e
    | .ok s' => drain n f s' (buf.drop n)
  else .ok (s, buf)
termination_by buf.length
decreasing_by all_goals (simp only [List.length_drop]; omega)

theorem drain_eq (n : Nat) (f : σ → List α → Except ε σ) (s : σ) (buf : List α) :
    drain n f s buf = ((blocks n buf).1.foldlM f s).map (fun s' => (s', (blocks n buf).2)) := by
  fun_induction drain n f s buf with
  | case1 s buf h e he =>
    rw [blocks_long h, List.foldlM_cons, he]
    rfl
  | case2 s buf h s' hs ih =>
    rw [ih, blocks_long h, List.foldlM_cons, hs]
    rfl
  | case3 s buf h =>
    rw [blocks, if_neg h]
    rfl

/-- Take pieces as they come: account for each, append it to the buffer and drain. -/
def feed (g : τ → γ → Except ε τ) (data : γ → List α) (n : Nat)
    (f : σ → List α → Except ε σ) : List γ → τ → σ → List α → Except ε (τ × σ × List α)
  | [], t, s, buf => .ok (t, s, buf)
  | c :: cs, t, s, buf =>
    match g t c with
    | .error e => .error e
    | .ok t' =>
      match drain n f s (buf ++ data c) with
      | .error e => .error e
      | .ok (s', buf') => feed g data n f cs t' s' buf'

theorem feed_ok_iff {g : τ → γ → Except ε τ} {data : γ → List α} {n : Nat}
    {f : σ → List α → Except ε σ} (hn : 0 < n) (cs : List γ) (t t' : τ) (s s' : σ)
    (buf buf' : List α) (hb : buf.length < n) :
    feed g data n f cs t s buf = .ok (t', s', buf') ↔
      cs.foldlM g t = .ok t' ∧
        (blocks n (buf ++ cs.flatMap data)).1.foldlM f s = .ok s' ∧
        (blocks n (buf ++ cs.flatMap data)).2 = buf' := by
  induction cs generalizing t s buf with
  | nil =>
    rw [feed, List.flatMap_nil, List.append_nil, blocks_short hb, List.foldlM_nil,
      List.foldlM_nil]
    constructor
    · intro h
      cases h
      exact ⟨rfl, rfl, rfl⟩
    · rintro ⟨ht, hs, hbuf⟩
      cases ht
      cases hs
      cases hbuf
      rfl
  | cons c cs ih =>
    rw [feed, List.foldlM_cons]
    cases hg : g t c with
    | error e => exact ⟨(nomatch ·), fun h => nomatch h.1⟩
    | ok t₁ =>
      have hcut := blocks_append hn (buf ++ data c) (cs.flatMap data)
      rw [List.append_assoc] at hcut
      rw [drain_eq, List.flatMap_cons, hcut, List.foldlM_append]
      cases hf : (blocks n (buf ++ data c)).1.foldlM f s with
      | error e => exact ⟨(nomatch ·), fun h => nomatch h.2.1⟩
      | ok s₁ => exact ih t₁ s₁ _ (blocks_spec hn (buf ++ data c)).2.2

theorem feed_error {g : τ → γ → Except ε τ} {data : γ → List α} {n : Nat}
    {f : σ → List α → Except ε σ} (hn : 0 < n) {cs : List γ} {t : τ} {s : σ} {buf : List α}
    (h : feed g data n f cs t s buf = .error e) :
    cs.foldlM g t = .error e ∨
      (blocks n (buf ++ cs.flatMap data)).1.foldlM f s = .error e := by
  induction cs generalizing t s buf with
  | nil => cases h
  | cons c cs ih =>
    rw [feed] at h
    rw [List.foldlM_cons]
    cases hg : g t c with
    | error e' =>
      rw [hg] at h
      cases h
      exact .inl rfl
    | ok t₁ =>
      have hcut := blocks_append hn (buf ++ data c) (cs.flatMap data)
      rw [List.append_assoc] at hcut
      rw [hg, drain_eq] at h
      rw [List.flatMap_cons, hcut, List.foldlM_append]
      cases hf : (blocks n (buf ++ data c)).1.foldlM f s with
      | error e' =>
        rw [hf] at h
        cases h
        exact .inr rfl
      | ok s₁ =>
        rw [hf] at h
        exact ih h

theorem slices_flatten {n : Nat} (hn : 0 < n) (xs : List α) : (slices n xs).flatten = xs := by
  have hflat := (blocks_spec hn xs).1
  rw [slices]
  split
  · rename_i ht
    rwa [ht, List.append_nil] at hflat
  · rwa [List.flatten_append, List.flatten_singleton]

theorem slices_ne_nil {n : Nat} (hn : 0 < n) {xs : List α} : ∀ b ∈ slices n xs, b ≠ [] := by
  obtain ⟨-, hlen, -⟩ := blocks_spec hn xs
  have hfull : ∀ b ∈ (blocks n xs).1, b ≠ [] := by
    intro b hb he
    have hl := hlen b hb
    rw [he, List.length_nil] at hl
    omega
  intro b hb
  rw [slices] at hb
  split at hb
  · exact hfull b hb
  · rename_i ht
    rcases List.mem_append.1 hb with hb | hb
    · exact hfull b hb
    · rwa [List.mem_singleton.1 hb]

theorem length_le_of_mem_slices {n : Nat} (hn : 0 < n) {xs : List α} :
    ∀ b ∈ slices n xs, b.length ≤ n := by
  obtain ⟨-, hlen, htail⟩ := blocks_spec hn xs
  intro b hb
  rw [slices] at hb
  split at hb
  · exact Nat.le_of_eq (hlen b hb)
  · rcases List.mem_append.1 hb with hb | hb
    · exact Nat.le_of_eq (hlen b hb)
    · rw [List.mem_singleton.1 hb]
      exact Nat.le_of_lt htail

theorem length_flatten_uniform {n : Nat} {bs : List (List α)} (h : ∀ b ∈ bs, b.length = n) :
    bs.flatten.length = n * bs.length := by
  induction bs with
  | nil => rfl
  | cons b bs ih =>
    have ih' := ih (fun b' hb' => h b' (List.mem_cons_of_mem _ hb'))
    rw [List.flatten_cons, List.length_append, ih', h b List.mem_cons_self, List.length_cons,
      Nat.mul_succ, Nat.add_comm]

theorem length_slices {n : Nat} (hn : 0 < n) (xs : List α) :
    (slices n xs).length = (xs.length + n - 1) / n := by
  obtain ⟨hflat, hlen, htail⟩ := blocks_spec hn xs
  have hl : xs.length = n * (blocks n xs).1.length + (blocks n xs).2.length := by
    conv_lhs => rw [← hflat, List.length_append, length_flatten_uniform hlen]
  rw [slices, hl]
  split
  · rename_i ht
    rw [ht, List.length_nil, Nat.add_zero, Nat.add_sub_assoc hn, Nat.mul_add_div hn,
      Nat.div_eq_of_lt (by omega), Nat.add_zero]
  · rename_i ht
    have hpos := List.length_pos_of_ne_nil ht
    rw [List.length_append, List.length_singleton, Nat.add_assoc, Nat.add_sub_assoc (by omega),
      Nat.mul_add_div hn]
    have hone : ((blocks n xs).2.length + n - 1) / n = 1 :=
      Nat.div_eq_of_lt_le (by omega) (by omega)
    rw [hone]

theorem length_flatten_mapIdx {k : Nat} {g : Nat → List α → List α}
    (hg : ∀ i b, (g i b).length = b.length + k) (bs : List (List α)) :
    (bs.mapIdx g).flatten.length = bs.flatten.length + bs.length * k := by
  induction bs generalizing g with
  | nil => simp
  | cons b bs ih =>
    rw [List.mapIdx_cons, List.flatten_cons, List.flatten_cons, List.length_append,
      List.length_append, hg, ih (fun i b' => hg (i + 1) b'), List.length_cons, Nat.succ_mul]
    omega

/-- Slices that each grow by the same number of elements are the slices of what they make up. -/
theorem slices_flatten_mapIdx {n k : Nat} (hn : 0 < n) {g : Nat → List α → List α}
    (hg : ∀ i b, (g i b).length = b.length + k) (xs : List α) :
    slices (n + k) ((slices n xs).mapIdx g).flatten = (slices n xs).mapIdx g := by
  obtain ⟨-, hlen, htail⟩ := blocks_spec hn xs
  have hnk : 0 < n + k := by omega
  have hfull : ∀ b ∈ (blocks n xs).1.mapIdx g, b.length = n + k := by
    intro b hb
    obtain ⟨i, hi, rfl⟩ := List.mem_mapIdx.1 hb
    rw [hg, hlen _ (List.getElem_mem hi)]
  by_cases ht : (blocks n xs).2 = []
  · have hcut := blocks_flatten_append (t := []) hnk hfull hnk
    rw [List.append_nil] at hcut
    rw [slices.eq_1 n xs, if_pos ht, slices, hcut, if_pos rfl]
  · have hgrown : (g (blocks n xs).1.length (blocks n xs).2).length < n + k := by
      rw [hg]
      omega
    have hne : g (blocks n xs).1.length (blocks n xs).2 ≠ [] := by
      intro hnil
      have hl := hg (blocks n xs).1.length (blocks n xs).2
      have hpos := List.length_pos_of_ne_nil ht
      rw [hnil, List.length_nil] at hl
      omega
    have hmap : ((blocks n xs).1 ++ [(blocks n xs).2]).mapIdx g =
        (blocks n xs).1.mapIdx g ++ [g (blocks n xs).1.length (blocks n xs).2] := by
      rw [List.mapIdx_append, List.mapIdx_cons, List.mapIdx_nil, Nat.zero_add]
    have hcut := blocks_flatten_append hnk hfull hgrown
    rw [slices.eq_1 n xs, if_neg ht, hmap, List.flatten_append, List.flatten_singleton, slices,
      hcut, if_neg hne]

end Streams
