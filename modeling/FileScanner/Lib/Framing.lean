import Mathlib.Algebra.Group.Nat.Defs
import Mathlib.Data.List.Basic
import Mathlib.Tactic.Common

namespace Framing
set_option autoImplicit true

/-- The bytes of a number in a field of this width, the most significant first. -/
def beBytes : Nat → Nat → List UInt8
  | 0, _ => []
  | width + 1, n => beBytes width (n / 256) ++ [UInt8.ofNat n]

def beNat (bs : List UInt8) : Nat := bs.foldl (fun n b => n * 256 + b.toNat) 0

@[simp] theorem length_beBytes (width n : Nat) : (beBytes width n).length = width := by
  induction width generalizing n with
  | zero => rfl
  | succ width ih => rw [beBytes, List.length_append, ih, List.length_singleton]

theorem beNat_append (bs : List UInt8) (b : UInt8) :
    beNat (bs ++ [b]) = beNat bs * 256 + b.toNat := by
  rw [beNat, List.foldl_append]
  rfl

/-- A number that fits its field is read back. -/
theorem beNat_beBytes {width n : Nat} (h : n < 256 ^ width) : beNat (beBytes width n) = n := by
  induction width generalizing n with
  | zero =>
    rw [Nat.pow_zero, Nat.lt_one_iff] at h
    rw [h]
    rfl
  | succ width ih =>
    have hdiv : n / 256 < 256 ^ width := by
      rw [Nat.pow_succ] at h
      exact Nat.div_lt_of_lt_mul (by rwa [Nat.mul_comm] at h)
    rw [beBytes, beNat_append, ih hdiv]
    have hmod : (UInt8.ofNat n).toNat = n % 256 := UInt8.toNat_ofNat'
    rw [hmod, Nat.mul_comm]
    exact Nat.div_add_mod n 256

/-- A payload behind its length. -/
def frame (width : Nat) (payload : List UInt8) : List UInt8 :=
  beBytes width payload.length ++ payload

/-- Read frames up to a length of zero: their payloads, and the bytes left behind it. -/
def deframe (width : Nat) (bs : List UInt8) : Option (List (List UInt8) × List UInt8) :=
  if bs.length < width then none
  else if beNat (bs.take width) = 0 then some ([], bs.drop width)
  else if bs.length < width + beNat (bs.take width) then none
  else
    (deframe width (bs.drop (width + beNat (bs.take width)))).map
      (fun out => ((bs.drop width).take (beNat (bs.take width)) :: out.1, out.2))
termination_by bs.length
decreasing_by all_goals (simp only [List.length_drop]; omega)

/-- More bytes behind a complete stream are left over. -/
theorem deframe_append {width : Nat} {bs rest : List UInt8} {payloads : List (List UInt8)}
    (h : deframe width bs = some (payloads, rest)) (more : List UInt8) :
    deframe width (bs ++ more) = some (payloads, rest ++ more) := by
  fun_induction deframe width bs generalizing payloads with
  | case1 bs hshort => cases h
  | case2 bs hshort hzero =>
    cases h
    rw [deframe, if_neg (by rw [List.length_append]; omega),
      List.take_append_of_le_length (Nat.not_lt.1 hshort), if_pos hzero,
      List.drop_append_of_le_length (Nat.not_lt.1 hshort)]
  | case3 bs hshort hzero hcut => cases h
  | case4 bs hshort hzero hcut ih =>
    obtain ⟨⟨payloads', rest'⟩, hrest, hout⟩ := Option.map_eq_some_iff.1 h
    cases hout
    have htail := ih hrest
    rw [deframe, if_neg (by rw [List.length_append]; omega),
      List.take_append_of_le_length (Nat.not_lt.1 hshort), if_neg hzero,
      if_neg (by rw [List.length_append]; omega), List.drop_append_of_le_length (Nat.not_lt.1 hcut),
      htail, List.drop_append_of_le_length (Nat.not_lt.1 hshort), List.take_append_of_le_length]
    · rfl
    · rw [List.length_drop]
      omega

theorem take_frame (width : Nat) (payload bs : List UInt8) :
    (frame width payload ++ bs).take width = beBytes width payload.length := by
  rw [frame, List.append_assoc]
  exact List.take_left' (length_beBytes width _)

theorem drop_frame (width : Nat) (payload bs : List UInt8) :
    (frame width payload ++ bs).drop width = payload ++ bs := by
  rw [frame, List.append_assoc]
  exact List.drop_left' (length_beBytes width _)

theorem deframe_end (width : Nat) (rest : List UInt8) :
    deframe width (frame width [] ++ rest) = some ([], rest) := by
  have hlen : ¬ (frame width [] ++ rest).length < width := by
    rw [frame, List.length_append, List.length_append, length_beBytes]
    omega
  have hzero : beNat (beBytes width 0) = 0 := beNat_beBytes (Nat.pow_pos (by decide))
  rw [deframe, if_neg hlen, take_frame, List.length_nil, if_pos hzero, drop_frame]
  rfl

theorem deframe_frame {width : Nat} {payload : List UInt8} (hne : payload ≠ [])
    (hfits : payload.length < 256 ^ width) (bs : List UInt8) :
    deframe width (frame width payload ++ bs) =
      (deframe width bs).map (fun out => (payload :: out.1, out.2)) := by
  have hlen : (frame width payload ++ bs).length = width + payload.length + bs.length := by
    rw [frame, List.length_append, List.length_append, length_beBytes]
  have hpos : payload.length ≠ 0 := fun h => hne (List.length_eq_zero_iff.1 h)
  have hdrop : (frame width payload ++ bs).drop (width + payload.length) = bs := by
    rw [← List.drop_drop, drop_frame]
    exact List.drop_left' rfl
  rw [deframe, if_neg (by omega), take_frame, beNat_beBytes hfits, if_neg hpos,
    if_neg (by omega), hdrop, drop_frame]
  rw [List.take_left' rfl]

/-- Frames with something in them, and the empty one at the end, are read back as they are. -/
theorem deframe_frames {width : Nat} {payloads : List (List UInt8)}
    (h : ∀ p ∈ payloads, p ≠ [] ∧ p.length < 256 ^ width) (rest : List UInt8) :
    deframe width (payloads.flatMap (frame width) ++ (frame width [] ++ rest)) =
      some (payloads, rest) := by
  induction payloads with
  | nil => exact deframe_end width rest
  | cons p payloads ih =>
    obtain ⟨hne, hfits⟩ := h p List.mem_cons_self
    have ih' := ih (fun q hq => h q (List.mem_cons_of_mem _ hq))
    rw [List.flatMap_cons, List.append_assoc, deframe_frame hne hfits, ih']
    rfl

/-- A stream cut short of its end is never read as a complete one. -/
theorem deframe_cut {width : Nat} {bs more : List UInt8} {payloads : List (List UInt8)}
    (h : deframe width (bs ++ more) = some (payloads, [])) (hmore : more ≠ []) :
    deframe width bs = none := by
  cases hbs : deframe width bs with
  | none => rfl
  | some out =>
    have hlong := deframe_append hbs more
    rw [h, Option.some.injEq, Prod.mk.injEq] at hlong
    exact absurd (List.append_eq_nil_iff.1 hlong.2.symm).2 hmore

end Framing
