import Mathlib.Data.List.MinMax
import Mathlib.Order.Bounds.Basic

namespace Collections
set_option autoImplicit true

variable {α β : Type} {xs ys : List α}

/-- Two lists with the same elements, in whatever order and however often. -/
def SameMembers (xs ys : List α) : Prop := ∀ x, x ∈ xs ↔ x ∈ ys

theorem SameMembers.of_perm (h : xs.Perm ys) : SameMembers xs ys := fun _ => h.mem_iff

theorem SameMembers.exists_iff (h : SameMembers xs ys) (P : α → Prop) :
    (∃ x ∈ xs, P x) ↔ ∃ x ∈ ys, P x :=
  exists_congr (fun x => and_congr_left (fun _ => h x))

theorem SameMembers.forall_iff (h : SameMembers xs ys) (P : α → Prop) :
    (∀ x ∈ xs, P x) ↔ ∀ x ∈ ys, P x :=
  forall_congr' (fun x => imp_congr_left (h x))

theorem SameMembers.eq_nil_iff (h : SameMembers xs ys) : xs = [] ↔ ys = [] := by
  rw [List.eq_nil_iff_forall_not_mem, List.eq_nil_iff_forall_not_mem]
  exact forall_congr' (fun x => not_congr (h x))

theorem SameMembers.filter (h : SameMembers xs ys) (p : α → Bool) :
    SameMembers (xs.filter p) (ys.filter p) := by
  intro x
  rw [List.mem_filter, List.mem_filter, h x]

theorem SameMembers.map (h : SameMembers xs ys) (f : α → β) :
    SameMembers (xs.map f) (ys.map f) := by
  intro y
  rw [List.mem_map, List.mem_map]
  exact h.exists_iff (fun x => f x = y)

theorem SameMembers.filterMap (h : SameMembers xs ys) (f : α → Option β) :
    SameMembers (xs.filterMap f) (ys.filterMap f) := by
  intro y
  rw [List.mem_filterMap, List.mem_filterMap]
  exact h.exists_iff (fun x => f x = some y)

theorem SameMembers.all_eq (h : SameMembers xs ys) (p : α → Bool) : xs.all p = ys.all p := by
  rw [Bool.eq_iff_iff, List.all_eq_true, List.all_eq_true]
  exact h.forall_iff (fun x => p x = true)

theorem SameMembers.any_eq (h : SameMembers xs ys) (p : α → Bool) : xs.any p = ys.any p := by
  rw [Bool.eq_iff_iff, List.any_eq_true, List.any_eq_true]
  exact h.exists_iff (fun x => p x = true)

section Greatest
variable [LinearOrder α]

theorem max?_eq_some_iff_greatest {a : α} :
    xs.max? = some a ↔ IsGreatest {x | x ∈ xs} a :=
  List.max?_eq_some_iff

theorem SameMembers.max?_eq (h : SameMembers xs ys) : xs.max? = ys.max? := by
  apply Option.ext
  intro a
  have hset : {x | x ∈ xs} = {x | x ∈ ys} := Set.ext h
  rw [max?_eq_some_iff_greatest, max?_eq_some_iff_greatest, hset]

end Greatest

end Collections
