import FileScanner.Lib.Blocks
import Mathlib.Algebra.Order.Floor.Div
import Mathlib.Order.Bounds.Image

namespace Streams
set_option autoImplicit true

/-- The length of `n` elements sent in chunks, each of which costs some more. -/
def chunkedLength (overhead chunk n : Nat) : Nat := n + overhead * (n ⌈/⌉ chunk)

theorem ceilDiv_mono {chunk : Nat} (h : 0 < chunk) : Monotone (· ⌈/⌉ chunk : Nat → Nat) :=
  (gc_mul_ceilDiv h).monotone_l

theorem ceilDiv_pos {n chunk : Nat} (hn : 0 < n) (h : 0 < chunk) : 0 < n ⌈/⌉ chunk := by
  by_contra hzero
  have hle : n ≤ chunk * 0 := (ceilDiv_le_iff_le_mul h).1 (Nat.le_of_not_lt hzero)
  omega

theorem chunkedLength_strictMono (overhead : Nat) {chunk : Nat} (h : 0 < chunk) :
    StrictMono (chunkedLength overhead chunk) := by
  intro m n hmn
  have hchunks : m ⌈/⌉ chunk ≤ n ⌈/⌉ chunk := ceilDiv_mono h hmn.le
  exact Nat.add_lt_add_of_lt_of_le hmn (Nat.mul_le_mul_left overhead hchunks)

/-- The longest of the chunked forms of at most `cap` elements is the one of `cap` elements. -/
theorem isGreatest_chunkedLength (overhead : Nat) {chunk : Nat} (h : 0 < chunk) (cap : Nat) :
    IsGreatest (chunkedLength overhead chunk '' Set.Iic cap) (chunkedLength overhead chunk cap) :=
  (chunkedLength_strictMono overhead h).monotone.map_isGreatest isGreatest_Iic

theorem length_flatten_forall₂ {overhead : Nat} {blobs bs : List (List α)}
    (h : List.Forall₂ (fun blob b => blob.length = b.length + overhead) blobs bs) :
    blobs.flatten.length = bs.flatten.length + overhead * bs.length := by
  induction h with
  | nil => rfl
  | @cons blob b blobs bs hlen _ ih =>
    rw [List.flatten_cons, List.flatten_cons, List.length_append, List.length_append, hlen, ih,
      List.length_cons, Nat.mul_succ]
    omega

theorem forall₂_mapIdx {R : β → α → Prop} {g : Nat → α → β} (hg : ∀ i x, R (g i x) x)
    (xs : List α) : List.Forall₂ R (xs.mapIdx g) xs := by
  induction xs generalizing g with
  | nil => exact .nil
  | cons x xs ih =>
    rw [List.mapIdx_cons]
    exact .cons (hg 0 x) (ih (fun i => hg (i + 1)))

/-- What the slices of a text grow to, when each of them grows by the same number. -/
theorem length_flatten_slices {overhead chunk : Nat} (h : 0 < chunk) {xs : List α}
    {blobs : List (List α)}
    (hblobs : List.Forall₂ (fun blob b => blob.length = b.length + overhead) blobs
      (slices chunk xs)) :
    blobs.flatten.length = chunkedLength overhead chunk xs.length := by
  rw [length_flatten_forall₂ hblobs, slices_flatten h, length_slices h, chunkedLength,
    Nat.ceilDiv_eq_add_pred_div]

end Streams
