import Mathlib.Data.List.Basic
import Std.Data.String.ToInt

namespace Text
set_option autoImplicit true

theorem append_sep_inj {α : Type} {c : α} {a a' b b' : List α} (hb : c ∉ b) (hb' : c ∉ b')
    (h : a ++ c :: b = a' ++ c :: b') : a = a' ∧ b = b' := by
  rcases List.append_eq_append_iff.1 h with ⟨m, ha, hm⟩ | ⟨m, ha, hm⟩
  · cases m with
    | nil =>
      rw [List.nil_append] at hm
      rw [List.append_nil] at ha
      exact ⟨ha.symm, (List.cons.inj hm).2⟩
    | cons x m =>
      obtain ⟨-, hm⟩ := List.cons.inj hm
      exact absurd (hm ▸ List.mem_append_right m List.mem_cons_self) hb
  · cases m with
    | nil =>
      rw [List.nil_append] at hm
      rw [List.append_nil] at ha
      exact ⟨ha, (List.cons.inj hm).2.symm⟩
    | cons x m =>
      obtain ⟨-, hm⟩ := List.cons.inj hm
      exact absurd (hm ▸ List.mem_append_right m List.mem_cons_self) hb'

theorem toList_toString_nat (n : Nat) : (toString n).toList = Nat.toDigits 10 n :=
  Nat.toList_repr

theorem sep_not_mem_nat {c : Char} (hc : c.isDigit = false) (n : Nat) :
    c ∉ (toString n).toList := by
  intro h
  rw [toList_toString_nat] at h
  have hd := Nat.isDigit_of_mem_toDigits (by decide) (by decide) h
  rw [hc] at hd
  cases hd

theorem toString_nat_inj {m n : Nat} (h : (toString m).toList = (toString n).toList) : m = n :=
  Nat.repr_injective (String.toList_injective h)

end Text
